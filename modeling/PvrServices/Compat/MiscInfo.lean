import PvrServices.Compat.ExpandCorrect
import PvrServices.Compat.CompactOut

/-!
# Translating the misc info where it stands

The misc info is the one structure that is translated row by row in both
directions over the same bytes: it starts four bytes into the packed buffer
and eight bytes into the kernel's.  A row of the table is one field, whatever
the number of accesses that move it, so the two directions are compared row by
row.
-/

namespace PvrServices.Compat

open ByteMemory

/-! ## Rows as fields -/

namespace PvrMiscFld

/-- Size of the row's field in the packed structure. -/
def packedBytes (f : PvrMiscFld) : Nat :=
  match f.k with
  | .u => 4
  | .p => 4
  | .b => f.sz

/-- Size of the row's field in the kernel structure. -/
def kernelBytes (f : PvrMiscFld) : Nat :=
  match f.k with
  | .u => 4
  | .p => 8
  | .b => f.sz

/-- The field of a row, widened. -/
def widened (f : PvrMiscFld) (dst src : Nat) : Move :=
  { source := src + f.i6, sourceWidth := f.packedBytes,
    target := dst + f.kn, targetWidth := f.kernelBytes }

/-- The field of a row, narrowed. -/
def narrowed (f : PvrMiscFld) (dst src : Nat) : Move :=
  { source := src + f.kn, sourceWidth := f.kernelBytes,
    target := dst + f.i6, targetWidth := f.packedBytes }

theorem packedBytes_le_kernelBytes (f : PvrMiscFld) :
    f.packedBytes ≤ f.kernelBytes := by
  unfold packedBytes kernelBytes
  cases f.k <;> simp

/-- Only a pointer has bytes that the packed structure cannot hold. -/
theorem packedBytes_eq_kernelBytes
    {f : PvrMiscFld}
    (plain : f.k ≠ .p) :
    f.packedBytes = f.kernelBytes := by
  unfold packedBytes kernelBytes
  cases kind : f.k with
  | u => rfl
  | p => exact absurd kind plain
  | b => rfl

/-- The accesses to the bytes of a block cover it. -/
theorem bytes_coveredBy
    {source target width : Nat}
    {moves : Stage}
    (bytes : ∀ index < width, byteMove source target index ∈ moves) :
    Move.CoveredBy
      { source, sourceWidth := width, target, targetWidth := width }
      moves := by
  right
  intro index below
  change index < width at below
  refine ⟨_, bytes index below, ?_⟩
  show _ ∧ _ ∧ (index < width → _) ∧ (width ≤ index → _)
  simp only [byteMove]
  omega

/-- The accesses of a row widen its field. -/
theorem widened_coveredBy
    (f : PvrMiscFld)
    (dst src : Nat) :
    (f.widened dst src).CoveredBy (f.expandStages dst src).flatten := by
  unfold widened packedBytes kernelBytes expandStages
  cases f.k with
  | u => exact Or.inl (by simp [scalarMove])
  | p => exact Or.inl (by simp [widenMove])
  | b =>
    exact bytes_coveredBy fun index below => List.mem_flatten.mpr ⟨_,
      List.mem_map.mpr ⟨index, by simpa using below, rfl⟩,
      List.mem_singleton_self _⟩

/-- The accesses of a row narrow its field. -/
theorem narrowed_coveredBy
    (f : PvrMiscFld)
    (dst src : Nat) :
    (f.narrowed dst src).CoveredBy (f.compactStages dst src).flatten := by
  unfold narrowed packedBytes kernelBytes compactStages
  cases f.k with
  | u => exact Or.inl (by simp [scalarMove])
  | p => exact Or.inl (by simp [narrowMove])
  | b =>
    exact bytes_coveredBy fun index below => List.mem_flatten.mpr ⟨_,
      List.mem_map.mpr ⟨index, by simpa using below, rfl⟩,
      List.mem_singleton_self _⟩

end PvrMiscFld

/-! ## The two passes -/

/-- The growing pass goes down through the table: no write lands on a byte
that is still to be read. -/
theorem miscInfoStages_expand_safe : Safe (miscInfoStages 8 4 true) := by
  decide +kernel

/-- The shrinking pass goes up through it. -/
theorem miscInfoStages_compact_safe : Safe (miscInfoStages 4 8 false) := by
  have down : movesDown 0 (miscInfoStages 4 8 false) = true := by
    decide +kernel
  exact (movesDown_spec down).1

theorem pvrCompatFindLayout_getMiscInfo :
    pvrCompatFindLayout .getMiscInfo = none := by
  decide

theorem pvrCompatExpandIn_getMiscInfo (memory : Memory) :
    pvrCompatExpandIn .getMiscInfo memory =
      runStages (miscInfoStages 8 4 true) memory := by
  rw [pvrCompatExpandIn, pvrCompatLayoutRepack,
    pvrCompatFindLayout_getMiscInfo]
  rfl

theorem pvrCompatCompactOut_getMiscInfo (memory : Memory) :
    pvrCompatCompactOut .getMiscInfo memory =
      runStages (miscInfoStages 4 8 false) memory := by
  rw [pvrCompatCompactOut, pvrCompatLayoutRepack,
    pvrCompatFindLayout_getMiscInfo, Option.map_none]
  simp only [compactBranch, Relocation.ofStages, Relocation.run,
    List.foldl_nil]

variable {f : PvrMiscFld}

/-- A widened field of the kernel structure holds the packed one. -/
theorem readLE_expandMiscInfo
    (member : f ∈ miscInfoFields)
    (memory : Memory) :
    readLE (pvrCompatExpandIn .getMiscInfo memory)
        f.kernelBytes (8 + f.kn) =
      readLE memory f.packedBytes (4 + f.i6) := by
  have covered : (f.widened 8 4).CoveredBy
      (miscInfoStages 8 4 true).flatten := by
    apply Move.CoveredBy.mono (f.widened_coveredBy 8 4)
    intro move inRow
    obtain ⟨stage, inStages, inStage⟩ := List.mem_flatten.mp inRow
    exact List.mem_flatten.mpr ⟨stage, List.mem_flatMap.mpr
      ⟨f, List.mem_reverse.mpr member, inStages⟩, inStage⟩
  have moved := (performs_runStages
    miscInfoStages_expand_safe).readLE_field memory covered
  have small : readLE memory f.packedBytes (4 + f.i6) <
      256 ^ f.kernelBytes :=
    lt_of_lt_of_le (readLE_lt memory _ _)
      (Nat.pow_le_pow_right (by decide) f.packedBytes_le_kernelBytes)
  rw [pvrCompatExpandIn_getMiscInfo]
  exact moved.trans (Nat.mod_eq_of_lt small)

/-- A narrowed field of the packed structure holds the low bytes of the
kernel's. -/
theorem readLE_compactMiscInfo
    (member : f ∈ miscInfoFields)
    (memory : Memory) :
    readLE (pvrCompatCompactOut .getMiscInfo memory)
        f.packedBytes (4 + f.i6) =
      readLE memory f.kernelBytes (8 + f.kn) % 256 ^ f.packedBytes := by
  have covered : (f.narrowed 4 8).CoveredBy
      (miscInfoStages 4 8 false).flatten := by
    apply Move.CoveredBy.mono (f.narrowed_coveredBy 4 8)
    intro move inRow
    obtain ⟨stage, inStages, inStage⟩ := List.mem_flatten.mp inRow
    exact List.mem_flatten.mpr ⟨stage, List.mem_flatMap.mpr
      ⟨f, member, inStages⟩, inStage⟩
  rw [pvrCompatCompactOut_getMiscInfo]
  exact (performs_runStages
    miscInfoStages_compact_safe).readLE_field memory covered

/-- No access of the two passes writes below its structure. -/
theorem miscInfoStages_above_header :
    (∀ move ∈ (miscInfoStages 8 4 true).flatten, 8 ≤ move.target) ∧
      ∀ move ∈ (miscInfoStages 4 8 false).flatten, 4 ≤ move.target := by
  decide +kernel

/-! ## Both directions -/

/-- The translation of the misc info, with the bases of `PVRCompatExpandIn`
and `PVRCompatCompactOut`. -/
structure MiscInfoTranslated : Prop where
  /-- Widening writes over no byte that it reads later. -/
  expandSpares : (miscInfoStages 8 4 true).Pairwise fun early late =>
    ∀ earlier ∈ early, ∀ later ∈ late, earlier.Spares later
  /-- Narrowing writes over no byte that it reads later. -/
  compactSpares : (miscInfoStages 4 8 false).Pairwise fun early late =>
    ∀ earlier ∈ early, ∀ later ∈ late, earlier.Spares later
  /-- The four bytes in front are kept. -/
  header : ∀ (memory : Memory) (address : Nat), address < 4 →
    pvrCompatExpandIn .getMiscInfo memory address = memory address ∧
      pvrCompatCompactOut .getMiscInfo memory address = memory address
  /-- A packed field survives widening and narrowing. -/
  packedRestored : ∀ (memory : Memory), ∀ f ∈ miscInfoFields,
    readLE (pvrCompatCompactOut .getMiscInfo
        (pvrCompatExpandIn .getMiscInfo memory)) f.packedBytes (4 + f.i6) =
      readLE memory f.packedBytes (4 + f.i6)
  /-- A kernel field survives narrowing and widening, if it is not a pointer
  beyond 32 bits. -/
  kernelRestored : ∀ (memory : Memory), ∀ f ∈ miscInfoFields,
    (f.k = .p → readLE memory f.kernelBytes (8 + f.kn) < 2 ^ 32) →
      readLE (pvrCompatExpandIn .getMiscInfo
          (pvrCompatCompactOut .getMiscInfo memory))
          f.kernelBytes (8 + f.kn) =
        readLE memory f.kernelBytes (8 + f.kn)

/-- The misc info is translated in place in both directions. -/
theorem pvrCompatXlateMiscInfo_translated : MiscInfoTranslated where
  expandSpares := miscInfoStages_expand_safe.sparesLater
  compactSpares := miscInfoStages_compact_safe.sparesLater
  header := by
    intro memory address inHeader
    rw [pvrCompatExpandIn_getMiscInfo, pvrCompatCompactOut_getMiscInfo]
    constructor
    · apply runStages_untouched
      intro move member
      have above := miscInfoStages_above_header.1 move member
      exact Or.inl (by omega)
    · apply runStages_untouched
      intro move member
      have above := miscInfoStages_above_header.2 move member
      exact Or.inl (by omega)
  packedRestored := by
    intro memory f member
    rw [readLE_compactMiscInfo member, readLE_expandMiscInfo member]
    exact Nat.mod_eq_of_lt (readLE_lt memory _ _)
  kernelRestored := by
    intro memory f member fits
    rw [readLE_expandMiscInfo member, readLE_compactMiscInfo member]
    apply Nat.mod_eq_of_lt
    by_cases pointer : f.k = .p
    · have width : 256 ^ f.packedBytes = 2 ^ 32 := by
        rw [PvrMiscFld.packedBytes, pointer]
        rfl
      rw [width]
      exact fits pointer
    · rw [PvrMiscFld.packedBytes_eq_kernelBytes pointer]
      exact readLE_lt memory _ _

end PvrServices.Compat
