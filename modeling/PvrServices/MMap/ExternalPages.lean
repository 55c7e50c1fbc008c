import PvrServices.MMap.MapToUser

/-!
# External pages that are treated as contiguous

An area of external pages is kept as one physical address if its pages are
consecutive and one of them is unknown to the kernel.  The test keeps the
address it expects next in 32 bits, and looks at the array once more after the
last page.
-/

namespace PvrServices.MMap

/-! ## The test -/

/-- `PHYS_TO_PFN`. -/
def physToPfn (phys : Nat) : Nat :=
  phys / pageSize

/-- `RANGE_TO_PAGES`. -/
def rangeToPages (range : Nat) : Nat :=
  (range + (pageSize - 1)) / pageSize

section Test

variable (pfnValid : Nat → Bool) (psSysPhysAddr : Nat → Nat)
  (bPhysContig : Bool)

/-- `ui32AddrChk` after the increment of the first loop. -/
def nextAddrChk (ui32 ui32AddrChk : Nat) : Nat :=
  if bPhysContig then (ui32AddrChk + pageSize) % 2 ^ 32
  else psSysPhysAddr ui32 % 2 ^ 32

/-- The first loop, by the passes that are left: where it stops, and the
elements its increments read. -/
def firstInvalid : Nat → Nat → Nat → Nat × List Nat
  | 0, ui32, _ => (ui32, [])
  | left + 1, ui32, ui32AddrChk =>
    if !pfnValid (physToPfn ui32AddrChk) then (ui32, [])
    else
      let (stop, reads) := firstInvalid left (ui32 + 1)
        (nextAddrChk psSysPhysAddr bPhysContig (ui32 + 1) ui32AddrChk)
      (stop, if bPhysContig then reads else (ui32 + 1) :: reads)

/-- The second loop, by the passes that are left: whether all addresses are
the expected ones, and the elements it reads. -/
def allExpected : Nat → Nat → Nat → Bool × List Nat
  | 0, _, _ => (true, [])
  | left + 1, ui32, ui32AddrChk =>
    if psSysPhysAddr ui32 ≠ ui32AddrChk then (false, [ui32])
    else
      let (expected, reads) := allExpected left (ui32 + 1)
        ((ui32AddrChk + pageSize) % 2 ^ 32)
      (expected, ui32 :: reads)

/-- `TreatExternalPagesAsContiguous`, with the elements of the array that it
reads. -/
def treatExternalPagesAsContiguous (ui32Bytes : Nat) : Bool × List Nat :=
  let ui32NumPages := rangeToPages ui32Bytes
  let (ui32, reads) := firstInvalid pfnValid psSysPhysAddr bPhysContig
    ui32NumPages 0 (psSysPhysAddr 0 % 2 ^ 32)
  if ui32 = ui32NumPages then (false, 0 :: reads)
  else if !bPhysContig then
    let (expected, readsAgain) :=
      allExpected psSysPhysAddr ui32NumPages 0 (psSysPhysAddr 0 % 2 ^ 32)
    (expected, 0 :: reads ++ 0 :: readsAgain)
  else (true, 0 :: reads)

/-! ## What is to hold -/

/-- Address of a page: the array has the address of each one, or that of the
first one of a contiguous range. -/
def pageAddress (index : Nat) : Nat :=
  if bPhysContig then psSysPhysAddr 0 + index * pageSize
  else psSysPhysAddr index

/-- The test reads elements of the array only, and is positive only for
consecutive pages with one that the kernel does not know. -/
structure TestSound (ui32NumPages : Nat) (outcome : Bool × List Nat) :
    Prop where
  reads : ∀ index ∈ outcome.2, index < ui32NumPages
  consecutive : outcome.1 = true → ∀ index, index + 1 < ui32NumPages →
    pageAddress psSysPhysAddr bPhysContig (index + 1) =
      pageAddress psSysPhysAddr bPhysContig index + pageSize
  unknown : outcome.1 = true → ∃ index < ui32NumPages,
    pfnValid (physToPfn (pageAddress psSysPhysAddr bPhysContig index)) = false

/-- The kernel does not know the page at the low 32 bits of an address. -/
def UnknownBelow (ui32NumPages : Nat) : Prop :=
  ∃ index < ui32NumPages, pfnValid (physToPfn
    (pageAddress psSysPhysAddr bPhysContig index % 2 ^ 32)) = false

/-- The array has an address whose low 32 bits the kernel does not know, and
its addresses do not go on at 0 behind 2^32.  For a contiguous range, the
kernel does not know a page of it if it does not know one at low 32 bits. -/
def TestFits (ui32NumPages : Nat) : Prop :=
  if bPhysContig then
    UnknownBelow pfnValid psSysPhysAddr bPhysContig ui32NumPages →
      ∃ index < ui32NumPages, pfnValid
        (physToPfn (pageAddress psSysPhysAddr bPhysContig index)) = false
  else
    UnknownBelow pfnValid psSysPhysAddr bPhysContig ui32NumPages ∧
      ((∀ index < ui32NumPages,
          psSysPhysAddr index =
            (psSysPhysAddr 0 + index * pageSize) % 2 ^ 32) →
        psSysPhysAddr 0 + (ui32NumPages - 1) * pageSize < 2 ^ 32)

end Test

/-! ## The loops -/

section Loops

variable {pfnValid : Nat → Bool} {psSysPhysAddr : Nat → Nat}
  {bPhysContig : Bool} {ui32NumPages left ui32 : Nat} {reads : List Nat}

theorem nextAddrChk_eq
    {ui32 : Nat} :
    nextAddrChk psSysPhysAddr bPhysContig (ui32 + 1)
        (pageAddress psSysPhysAddr bPhysContig ui32 % 2 ^ 32) =
      pageAddress psSysPhysAddr bPhysContig (ui32 + 1) % 2 ^ 32 := by
  cases bPhysContig with
  | false => rfl
  | true =>
    simp only [nextAddrChk, pageAddress, if_true]
    rw [Nat.mod_add_mod, Nat.succ_mul, Nat.add_assoc]

/-- The first loop stops at a page that the kernel does not know, having read
elements of the array only, or behind the last page. -/
theorem firstInvalid_stops
    {stop : Nat}
    (returned : firstInvalid pfnValid psSysPhysAddr bPhysContig left ui32
      (pageAddress psSysPhysAddr bPhysContig ui32 % 2 ^ 32) = (stop, reads))
    (pages : ui32 + left = ui32NumPages) :
    (ui32 ≤ stop ∧ stop < ui32NumPages ∧
      pfnValid (physToPfn
        (pageAddress psSysPhysAddr bPhysContig stop % 2 ^ 32)) = false ∧
      ∀ index ∈ reads, index < ui32NumPages) ∨
    (stop = ui32NumPages ∧
      (∀ index, ui32 ≤ index → index < ui32NumPages →
        pfnValid (physToPfn
          (pageAddress psSysPhysAddr bPhysContig index % 2 ^ 32)) = true) ∧
      if bPhysContig then reads = []
      else 0 < left → ui32NumPages ∈ reads) := by
  induction left generalizing ui32 reads with
  | zero =>
    cases returned
    right
    refine ⟨by omega, fun index _ _ => by omega, ?_⟩
    split
    · rfl
    · exact fun some => absurd some (Nat.lt_irrefl 0)
  | succ left ih =>
    rw [firstInvalid] at returned
    split at returned
    · next invalid =>
        cases returned
        rw [Bool.not_eq_true'] at invalid
        exact .inl ⟨Nat.le_refl _, by omega, invalid,
          fun _ impossible => absurd impossible List.not_mem_nil⟩
    · next valid =>
        rw [Bool.not_eq_true', Bool.not_eq_false] at valid
        rw [nextAddrChk_eq] at returned
        rcases found : firstInvalid pfnValid psSysPhysAddr bPhysContig left
          (ui32 + 1)
          (pageAddress psSysPhysAddr bPhysContig (ui32 + 1) % 2 ^ 32) with
          ⟨rest, readsRest⟩
        simp only [found] at returned
        cases returned
        rcases ih found (by omega) with
          ⟨behind, before, invalid, within⟩ | ⟨atEnd, allValid, readsEnd⟩
        · left
          refine ⟨by omega, before, invalid, fun index member => ?_⟩
          split at member
          · exact within index member
          · rcases List.mem_cons.mp member with rfl | later
            · omega
            · exact within index later
        · right
          refine ⟨atEnd, fun index behind before => ?_, ?_⟩
          · rcases Nat.eq_or_lt_of_le behind with rfl | later
            · exact valid
            · exact allValid index later before
          · cases bPhysContig with
            | true => exact readsEnd
            | false =>
              intro _
              cases left with
              | zero =>
                obtain rfl : ui32 + 1 = ui32NumPages := pages
                exact List.mem_cons_self
              | succ left =>
                exact List.mem_cons_of_mem _
                  (readsEnd (Nat.succ_pos left))

/-- The second loop reads elements of the array only, and finds whether the
addresses are consecutive in 32 bits. -/
theorem allExpected_iff
    {expected : Bool}
    (returned : allExpected psSysPhysAddr left ui32
      ((psSysPhysAddr 0 + ui32 * pageSize) % 2 ^ 32) = (expected, reads))
    (pages : ui32 + left = ui32NumPages) :
    (expected = true ↔ ∀ index, ui32 ≤ index → index < ui32NumPages →
      psSysPhysAddr index = (psSysPhysAddr 0 + index * pageSize) % 2 ^ 32) ∧
      ∀ index ∈ reads, index < ui32NumPages := by
  induction left generalizing ui32 expected reads with
  | zero =>
    cases returned
    exact ⟨iff_of_true rfl fun index _ _ => by omega,
      fun _ impossible => absurd impossible List.not_mem_nil⟩
  | succ left ih =>
    rw [allExpected] at returned
    split at returned
    · next differs =>
        cases returned
        refine ⟨iff_of_false (Bool.false_ne_true) fun same => ?_, ?_⟩
        · exact differs (same ui32 (Nat.le_refl ui32) (by omega))
        · intro index member
          rw [List.mem_singleton.mp member]
          omega
    · next same =>
        rw [ne_eq, not_not] at same
        have next : ((psSysPhysAddr 0 + ui32 * pageSize) % 2 ^ 32 +
            pageSize) % 2 ^ 32 =
            (psSysPhysAddr 0 + (ui32 + 1) * pageSize) % 2 ^ 32 := by
          rw [Nat.mod_add_mod, Nat.succ_mul, Nat.add_assoc]
        rw [next] at returned
        rcases found : allExpected psSysPhysAddr left (ui32 + 1)
          ((psSysPhysAddr 0 + (ui32 + 1) * pageSize) % 2 ^ 32) with
          ⟨rest, readsRest⟩
        simp only [found] at returned
        cases returned
        obtain ⟨isExpected, within⟩ := ih found (by omega)
        refine ⟨isExpected.trans ⟨fun later index behind before => ?_,
          fun all index behind => all index (by omega)⟩, ?_⟩
        · rcases Nat.eq_or_lt_of_le behind with rfl | further
          · exact same
          · exact later index further before
        · intro index member
          rcases List.mem_cons.mp member with rfl | later
          · omega
          · exact within index later

end Loops

/-! ## When the test is sound -/

section Sound

variable {pfnValid : Nat → Bool} {psSysPhysAddr : Nat → Nat}
  {ui32NumPages index : Nat}

/-- Consecutive addresses are those of a range. -/
theorem address_of_consecutive
    (consecutive : ∀ index, index + 1 < ui32NumPages →
      psSysPhysAddr (index + 1) = psSysPhysAddr index + pageSize)
    (within : index < ui32NumPages) :
    psSysPhysAddr index = psSysPhysAddr 0 + index * pageSize := by
  induction index with
  | zero => rw [Nat.zero_mul, Nat.add_zero]
  | succ index ih =>
    rw [consecutive index within, ih (by omega), Nat.succ_mul, Nat.add_assoc]

/-- Addresses that are consecutive in 32 bits and end below 2^32 are
consecutive. -/
theorem address_of_expected
    (expected : ∀ index < ui32NumPages,
      psSysPhysAddr index = (psSysPhysAddr 0 + index * pageSize) % 2 ^ 32)
    (below : psSysPhysAddr 0 + (ui32NumPages - 1) * pageSize < 2 ^ 32)
    (within : index < ui32NumPages) :
    psSysPhysAddr index = psSysPhysAddr 0 + index * pageSize := by
  have notLater : index * pageSize ≤ (ui32NumPages - 1) * pageSize :=
    Nat.mul_le_mul_right pageSize (Nat.le_sub_one_of_lt within)
  rw [expected index within]
  exact Nat.mod_eq_of_lt
    (Nat.lt_of_le_of_lt (Nat.add_le_add_left notLater _) below)

/-- The outcome of both loops for an array of addresses. -/
theorem testSound_scattered_iff
    {expected : Bool}
    {reads : List Nat}
    (nonempty : 0 < ui32NumPages)
    (isExpected : expected = true ↔ ∀ index < ui32NumPages,
      psSysPhysAddr index = (psSysPhysAddr 0 + index * pageSize) % 2 ^ 32)
    (within : ∀ index ∈ reads, index < ui32NumPages)
    (unknown : UnknownBelow pfnValid psSysPhysAddr false ui32NumPages) :
    TestSound pfnValid psSysPhysAddr false ui32NumPages (expected, reads) ↔
      TestFits pfnValid psSysPhysAddr false ui32NumPages := by
  simp only [TestFits, Bool.false_eq_true, if_false]
  constructor
  · intro sound
    refine ⟨unknown, fun all => ?_⟩
    have last : psSysPhysAddr (ui32NumPages - 1) =
        psSysPhysAddr 0 + (ui32NumPages - 1) * pageSize :=
      address_of_consecutive (sound.consecutive (isExpected.mpr all))
        (Nat.sub_one_lt_of_lt nonempty)
    rw [← last, all _ (Nat.sub_one_lt_of_lt nonempty)]
    exact Nat.mod_lt _ (Nat.two_pow_pos 32)
  · rintro ⟨_, below⟩
    refine ⟨within, fun positive index inside => ?_, fun positive => ?_⟩
    · have all := isExpected.mp positive
      have here := address_of_expected all (below all)
        (Nat.lt_of_succ_lt inside)
      change psSysPhysAddr (index + 1) = psSysPhysAddr index + pageSize
      rw [address_of_expected all (below all) inside, here, Nat.succ_mul,
        Nat.add_assoc]
    · have all := isExpected.mp positive
      obtain ⟨index, inside, invalid⟩ := unknown
      refine ⟨index, inside, ?_⟩
      have low : psSysPhysAddr index % 2 ^ 32 = psSysPhysAddr index := by
        rw [all index inside, Nat.mod_mod]
      change pfnValid (physToPfn (psSysPhysAddr index % 2 ^ 32)) = false
        at invalid
      rwa [low] at invalid

/-- The test of a non-empty array is sound exactly if the array has an address
whose low 32 bits the kernel does not know, and its addresses do not go on at
0 behind 2^32. -/
theorem treatExternalPagesAsContiguous_sound_iff
    (pfnValid : Nat → Bool)
    (psSysPhysAddr : Nat → Nat)
    (bPhysContig : Bool)
    (ui32Bytes : Nat)
    (nonempty : 0 < rangeToPages ui32Bytes) :
    TestSound pfnValid psSysPhysAddr bPhysContig (rangeToPages ui32Bytes)
        (treatExternalPagesAsContiguous pfnValid psSysPhysAddr bPhysContig
          ui32Bytes) ↔
      TestFits pfnValid psSysPhysAddr bPhysContig
        (rangeToPages ui32Bytes) := by
  have first : pageAddress psSysPhysAddr bPhysContig 0 = psSysPhysAddr 0 := by
    cases bPhysContig with
    | false => rfl
    | true => simp only [pageAddress, if_true, Nat.zero_mul, Nat.add_zero]
  unfold treatExternalPagesAsContiguous
  rcases found : firstInvalid pfnValid psSysPhysAddr bPhysContig
    (rangeToPages ui32Bytes) 0 (psSysPhysAddr 0 % 2 ^ 32) with ⟨stop, reads⟩
  simp only [found]
  rw [← first] at found
  rcases firstInvalid_stops found (Nat.zero_add _) with
    ⟨_, before, invalid, within⟩ | ⟨rfl, valid, readsEnd⟩
  · have unknown : UnknownBelow pfnValid psSysPhysAddr bPhysContig
        (rangeToPages ui32Bytes) := ⟨stop, before, invalid⟩
    have readsInside : ∀ index ∈ 0 :: reads,
        index < rangeToPages ui32Bytes := by
      rintro index (_ | ⟨_, later⟩)
      · exact nonempty
      · exact within index later
    rw [if_neg (Nat.ne_of_lt before)]
    cases bPhysContig with
    | true =>
      simp only [Bool.not_true, Bool.false_eq_true, if_false]
      simp only [TestFits, if_true]
      constructor
      · intro sound _
        exact sound.unknown rfl
      · intro fits
        refine ⟨readsInside, fun _ index _ => ?_, fun _ => fits unknown⟩
        simp only [pageAddress, if_true, Nat.succ_mul, Nat.add_assoc]
    | false =>
      rcases again : allExpected psSysPhysAddr (rangeToPages ui32Bytes) 0
        (psSysPhysAddr 0 % 2 ^ 32) with ⟨expected, readsAgain⟩
      simp only [Bool.not_false, if_true]
      have start : psSysPhysAddr 0 % 2 ^ 32 =
          (psSysPhysAddr 0 + 0 * pageSize) % 2 ^ 32 := by
        rw [Nat.zero_mul, Nat.add_zero]
      rw [start] at again
      obtain ⟨isExpected, withinAgain⟩ :=
        allExpected_iff again (Nat.zero_add _)
      refine testSound_scattered_iff nonempty (isExpected.trans
        ⟨fun all index => all index (Nat.zero_le index),
          fun all index _ => all index⟩) ?_ unknown
      intro index member
      rcases List.mem_append.mp member with earlier | later
      · exact readsInside index earlier
      · rcases List.mem_cons.mp later with rfl | inLoop
        · exact nonempty
        · exact withinAgain index inLoop
  · rw [if_pos rfl]
    have known : ¬ UnknownBelow pfnValid psSysPhysAddr bPhysContig
        (rangeToPages ui32Bytes) := by
      rintro ⟨index, inside, invalid⟩
      rw [valid index (Nat.zero_le index) inside] at invalid
      cases invalid
    cases bPhysContig with
    | true =>
      refine iff_of_true
        ⟨?_, fun impossible => absurd impossible Bool.false_ne_true,
          fun impossible => absurd impossible Bool.false_ne_true⟩ ?_
      · obtain rfl : reads = [] := readsEnd
        intro index member
        rw [List.mem_singleton.mp member]
        exact nonempty
      · exact fun unknown => absurd unknown known
    | false =>
      refine iff_of_false (fun sound => ?_) fun fits => known fits.1
      have beyond := sound.reads _ (List.mem_cons_of_mem 0 (readsEnd nonempty))
      exact Nat.lt_irrefl _ beyond

/-- Two pages above the memory of the kernel. -/
theorem treatExternalPagesAsContiguous_sound_iff_two :
    0 < rangeToPages 0x1800 ∧
      (TestSound (fun pfn => pfn < 0x80000)
          (fun index => 0xC0000000 + index * 0x1000) false
          (rangeToPages 0x1800)
          (treatExternalPagesAsContiguous (fun pfn => pfn < 0x80000)
            (fun index => 0xC0000000 + index * 0x1000) false 0x1800) ↔
        TestFits (fun pfn => pfn < 0x80000)
          (fun index => 0xC0000000 + index * 0x1000) false
          (rangeToPages 0x1800)) :=
  ⟨by decide, treatExternalPagesAsContiguous_sound_iff _ _ _ _ (by decide)⟩

/-- For one page that the kernel knows, the test reads the element behind the
array. -/
theorem treatExternalPagesAsContiguous_readsBeyond :
    ¬ ∀ (pfnValid : Nat → Bool) (psSysPhysAddr : Nat → Nat)
        (bPhysContig : Bool) (ui32Bytes : Nat),
      0 < rangeToPages ui32Bytes →
        TestSound pfnValid psSysPhysAddr bPhysContig (rangeToPages ui32Bytes)
          (treatExternalPagesAsContiguous pfnValid psSysPhysAddr bPhysContig
            ui32Bytes) := by
  intro always
  have sound := always (fun _ => true) (fun _ => 0x1000) false 0x1000
    (by decide)
  have read : 1 ∈ (treatExternalPagesAsContiguous (fun _ => true)
      (fun _ => 0x1000) false 0x1000).2 := by
    decide
  exact absurd (sound.reads 1 read) (by decide)

end Sound

end PvrServices.MMap
