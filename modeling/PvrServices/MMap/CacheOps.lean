import PvrServices.MMap.MapToUserCorrect

/-!
# Cache operations inside a mapping

A process asks for a cache operation on a range of addresses of an area.  The
check looks for the mapping of the area in the process, but compares only the
start of the range with the start of the mapping, and the two lengths.  A
kernel address of an area of vmalloc memory needs no mapping at all.
-/

namespace PvrServices.MMap.CacheOps

open MapState (noMemory plainKernel step translatedState wholeVma)

variable {α : Type} {kernel : Kernel} {lists : MMapState}

/-! ## When the check is enough -/

/-- A range lies inside a mapping. -/
def Contains
    (value : OffsetStruct) (pvRangeAddrStart ui32Length : Nat) : Prop :=
  value.ui32UserVAddr ≤ pvRangeAddrStart ∧
    pvRangeAddrStart + ui32Length ≤
      value.ui32UserVAddr + value.ui32RealByteSize

/-- An offset structure of the list is that of a mapping of the process. -/
structure Recorded
    (lists : MMapState) (ui32PID : Nat)
    (psMMapOffsetStructList : List Address) (value : OffsetStruct) :
    Prop where
  listed : ∃ psOffsetStruct ∈ psMMapOffsetStructList,
    lists.offsetStructs psOffsetStruct = some value
  process : value.ui32PID = ui32PID
  mapped : value.ui32UserVAddr ≠ 0

/-- The operation is performed only on a range inside a mapping of the area
in the process. -/
def StaysInside
    (kernel : Kernel) (pfnInnerCacheOp : Nat → Nat → α) (lists : MMapState)
    (ui32PID : Nat) (psMMapOffsetStructList : List Address)
    (areaData : AreaData) (pvRangeAddrStart ui32Length : Nat) : Prop :=
  ∀ result through,
    checkExecuteCacheOp kernel pfnInnerCacheOp lists ui32PID
        psMMapOffsetStructList areaData pvRangeAddrStart ui32Length =
      some (some result, through) →
    ∃ value, Recorded lists ui32PID psMMapOffsetStructList value ∧
      Contains value pvRangeAddrStart ui32Length

/-- The range does not begin at a kernel address, and where the mapping of the
process begins no later and is no shorter, it also ends no earlier. -/
structure EndsInside
    (kernel : Kernel) (lists : MMapState) (ui32PID : Nat)
    (psMMapOffsetStructList : List Address) (areaData : AreaData)
    (pvRangeAddrStart ui32Length : Nat) : Prop where
  user : atKernelAddress kernel areaData pvRangeAddrStart = false
  ends : asksMapping kernel areaData pvRangeAddrStart = true →
    ∀ value, Recorded lists ui32PID psMMapOffsetStructList value →
      value.ui32UserVAddr ≤ pvRangeAddrStart →
      ui32Length ≤ value.ui32RealByteSize →
      pvRangeAddrStart + ui32Length ≤
        value.ui32UserVAddr + value.ui32RealByteSize

/-! ## What the check compares -/

section Performed

variable {pfnInnerCacheOp : Nat → Nat → α} {areaData : AreaData}
  {psMMapOffsetStructList : List Address}
  {ui32PID pvRangeAddrStart ui32Length : Nat} {psLinuxMemArea : Address}
  {area : LinuxMemArea} {value other : OffsetStruct}
  (inv : lists.Inv) (isArea : lists.areas psLinuxMemArea = some area)
include inv isArea

/-- A process has at most one offset structure in the list of an area. -/
theorem process_unique
    {first second : Address}
    (member : first ∈ area.sMMapOffsetStructList)
    (memberToo : second ∈ area.sMMapOffsetStructList)
    (isValue : lists.offsetStructs first = some value)
    (isOther : lists.offsetStructs second = some other)
    (process : value.ui32PID = other.ui32PID) :
    value = other := by
  obtain ⟨_, isSame, owner⟩ :=
    inv.listed psLinuxMemArea area isArea first member
  obtain ⟨_, isSameToo, ownerToo⟩ :=
    inv.listed psLinuxMemArea area isArea second memberToo
  rw [isValue] at isSame
  rw [isOther] at isSameToo
  cases isSame
  cases isSameToo
  have same := inv.processes first second value other isValue isOther
    (owner.trans ownerToo.symm) process
  rw [same, isOther] at isValue
  exact (Option.some.inj isValue).symm

theorem Recorded.unique
    (recorded : Recorded lists ui32PID area.sMMapOffsetStructList value)
    (recordedToo : Recorded lists ui32PID area.sMMapOffsetStructList other) :
    value = other := by
  obtain ⟨first, member, isValue⟩ := recorded.listed
  obtain ⟨second, memberToo, isOther⟩ := recordedToo.listed
  exact process_unique inv isArea member memberToo isValue isOther
    (recorded.process.trans recordedToo.process.symm)

/-- The base is found if the process has a mapping that begins no later than
the range and is no shorter. -/
theorem findMMapBaseVAddr_finds :
    ∃ pvMinVAddr,
      findMMapBaseVAddr lists ui32PID area.sMMapOffsetStructList
          pvRangeAddrStart ui32Length = some pvMinVAddr ∧
      (pvMinVAddr ≠ 0 ↔
        ∃ value, Recorded lists ui32PID area.sMMapOffsetStructList value ∧
          value.ui32UserVAddr ≤ pvRangeAddrStart ∧
          ui32Length ≤ value.ui32RealByteSize) := by
  have live : ∀ psOffsetStruct ∈ area.sMMapOffsetStructList,
      (lists.offsetStructs psOffsetStruct).isSome = true := by
    intro psOffsetStruct member
    obtain ⟨value, isValue, _⟩ :=
      inv.listed psLinuxMemArea area isArea psOffsetStruct member
    rw [isValue, Option.isSome_some]
  unfold findMMapBaseVAddr
  rw [MMapState.findOffsetStruct_eq _ live, Option.bind_eq_bind,
    Option.bind_some]
  cases found : area.sMMapOffsetStructList.find? fun psOffsetStruct =>
      (lists.offsetStructs psOffsetStruct).any fun value =>
        value.ui32PID = ui32PID ∧ value.ui32UserVAddr ≤ pvRangeAddrStart ∧
          ui32Length ≤ value.ui32RealByteSize with
  | none =>
    refine ⟨0, rfl, ⟨fun impossible => absurd rfl impossible, ?_⟩⟩
    rintro ⟨value, recorded, starts, fits⟩
    obtain ⟨psOffsetStruct, member, isValue⟩ := recorded.listed
    have misses := List.find?_eq_none.mp found psOffsetStruct member
    rw [isValue, Option.any_some, decide_eq_true_iff] at misses
    exact absurd ⟨recorded.process, starts, fits⟩ misses
  | some psOffsetStruct =>
    have member := List.mem_of_find?_eq_some found
    obtain ⟨value, isValue, _⟩ :=
      inv.listed psLinuxMemArea area isArea psOffsetStruct member
    have test := List.find?_some found
    rw [isValue, Option.any_some, decide_eq_true_iff] at test
    obtain ⟨process, starts, fits⟩ := test
    refine ⟨value.ui32UserVAddr, ?_, ⟨fun mapped => ?_, ?_⟩⟩
    · simp only [isValue, Option.map_some]
    · exact ⟨value, ⟨⟨psOffsetStruct, member, isValue⟩, process, mapped⟩,
        starts, fits⟩
    · rintro ⟨other, recorded, _, _⟩
      obtain ⟨second, memberToo, isOther⟩ := recorded.listed
      have same := process_unique inv isArea member memberToo isValue
        isOther (process.trans recorded.process.symm)
      rw [same]
      exact recorded.mapped

end Performed

/-! ## Bases are words -/

/-- The bases of all mappings fit their fields. -/
def BasesFit (state : MMapState) : Prop :=
  ∀ psOffsetStruct value, state.offsetStructs psOffsetStruct = some value →
    value.ui32UserVAddr < 2 ^ 32

namespace BasesFit

variable {state after : MMapState}

theorem of_eq
    (fits : BasesFit state)
    (same : after.offsetStructs = state.offsetStructs) :
    BasesFit after := by
  intro psOffsetStruct value isValue
  rw [same] at isValue
  exact fits psOffsetStruct value isValue

theorem of_keeps
    (fits : BasesFit state)
    (kept : state.Keeps after) :
    BasesFit after := by
  intro psOffsetStruct value isValue
  rcases kept.bases psOffsetStruct value isValue with
    word | ⟨before, isBefore, same⟩
  · exact word
  · rw [same]
    exact fits psOffsetStruct before isBefore

end BasesFit

/-- The bases fit in every state that the calls lead to. -/
theorem basesFit_of_reachable
    {state : MapState}
    (reachable : MapState.Reachable kernel state) :
    BasesFit state.lists := by
  induction reachable with
  | init => exact fun _ _ impossible => by cases impossible
  | @step state after op reached enabled stepped fits =>
    cases op with
    | registerArea _ _ _ _ _ =>
      cases stepped
      exact fits.of_eq rfl
    | mmap ui32PID vma psVma memory =>
      obtain ⟨_, _, _, _, _, returned, lists, _, _⟩ :=
        reached.inv.pvrMMap_runs ui32PID vma enabled.2.2
      simp only [step, returned, Option.map_some] at stepped
      cases stepped
      exact fits.of_keeps (.pvrMMap lists)
    | other op isOther =>
      obtain ⟨lists, listsStepped, rfl⟩ := Option.map_eq_some_iff.mp stepped
      exact fits.of_keeps (.step isOther listsStepped)

/-! ## Performed inside a mapping -/

section Inside

variable {state : MapState} {areaData : AreaData}
  {psMMapOffsetStructList : List Address}
  {ui32PID pvRangeAddrStart ui32Length : Nat}

/-- No range inside a mapping begins at a kernel address. -/
theorem Recorded.user
    (reachable : MapState.Reachable kernel state)
    {value : OffsetStruct}
    (recorded : Recorded state.lists ui32PID psMMapOffsetStructList value)
    (inside : Contains value pvRangeAddrStart ui32Length) :
    atKernelAddress kernel areaData pvRangeAddrStart = false := by
  obtain ⟨psOffsetStruct, _, isValue⟩ := recorded.listed
  obtain ⟨area, _, _, size⟩ :=
    reachable.inv.lists.areaOf psOffsetStruct value isValue
  have base := basesFit_of_reachable reachable psOffsetStruct value isValue
  have sizeWord : value.ui32RealByteSize < 2 ^ 32 := by
    rw [size, LinuxMemArea.realByteSize, pageAlign]
    exact Nat.lt_of_le_of_lt (Nat.div_mul_le_self _ _)
      (Nat.mod_lt _ (Nat.two_pow_pos 32))
  have user : pvRangeAddrStart < 2 ^ 47 := by
    have ends := inside.2
    omega
  unfold atKernelAddress
  split
  · rw [kernel.isVmallocAddr_user pvRangeAddrStart user]
    simp only [Bool.false_eq_true, false_and, decide_false]
  · rfl

/-- The cache operation is performed only on ranges inside a recorded mapping
if and only if the range does not begin at a kernel address of the area and,
where a mapping is asked for, does not begin inside the mapping of the process
and end behind it. -/
theorem checkExecuteCacheOp_inside_iff
    (reachable : MapState.Reachable kernel state)
    {psLinuxMemArea : Address}
    {area : LinuxMemArea}
    (isArea : state.lists.areas psLinuxMemArea = some area)
    (pfnInnerCacheOp : Nat → Nat → α)
    (ui32PID pvRangeAddrStart ui32Length : Nat) :
    StaysInside kernel pfnInnerCacheOp state.lists ui32PID
        area.sMMapOffsetStructList (state.areaData psLinuxMemArea)
        pvRangeAddrStart ui32Length ↔
      EndsInside kernel state.lists ui32PID area.sMMapOffsetStructList
        (state.areaData psLinuxMemArea) pvRangeAddrStart ui32Length := by
  have inv := reachable.inv.lists
  obtain ⟨pvMinVAddr, finds, found⟩ :=
    @findMMapBaseVAddr_finds state.lists ui32PID pvRangeAddrStart ui32Length
      psLinuxMemArea area inv isArea
  obtain ⟨performed, through, returned, performs⟩ :=
    @checkExecuteCacheOp_performs kernel state.lists
      area.sMMapOffsetStructList pvRangeAddrStart ui32Length α pfnInnerCacheOp
      ui32PID pvMinVAddr (state.areaData psLinuxMemArea) finds
  constructor
  · intro stays
    constructor
    · cases starts : atKernelAddress kernel (state.areaData psLinuxMemArea)
          pvRangeAddrStart with
      | false => rfl
      | true =>
        have isResult := (performs _).mpr ⟨rfl, .inl starts⟩
        rw [isResult] at returned
        obtain ⟨value, recorded, inside⟩ := stays _ through returned
        exact starts.symm.trans (recorded.user reachable inside)
    · intro asks value recorded starts fits
      have mapped := found.mpr ⟨value, recorded, starts, fits⟩
      have isResult := (performs _).mpr ⟨rfl, .inr ⟨asks, mapped⟩⟩
      rw [isResult] at returned
      obtain ⟨other, recordedToo, inside⟩ := stays _ through returned
      rw [recorded.unique inv isArea recordedToo]
      exact inside.2
  · intro ends result throughToo performedToo
    rw [returned] at performedToo
    cases performedToo
    rcases ((performs result).mp rfl).2 with kernelAddress | ⟨asks, mapped⟩
    · rw [ends.user] at kernelAddress
      cases kernelAddress
    · obtain ⟨value, recorded, starts, fits⟩ := found.mp mapped
      exact ⟨value, recorded, starts,
        ends.ends asks value recorded starts fits⟩

end Inside

/-- Process 7 has mapped the two pages of the area at 0x40000000. -/
def mappedState : MapState :=
  match translatedState.pvrMMap plainKernel 7 20
      wholeVma noMemory with
  | some (after, _) => after
  | none => translatedState

theorem mappedState_reachable :
    MapState.Reachable plainKernel mappedState := by
  have stepped : translatedState.step plainKernel
      (.mmap 7 20 wholeVma noMemory) =
      some mappedState := rfl
  refine .step MapState.translatedState_reachable ?_ stepped
  exact ⟨by decide, by decide, fun _ _ => rfl⟩

/-- The second half of the second page is inside. -/
theorem checkExecuteCacheOp_inside_iff_page :
    StaysInside plainKernel (fun pvStart pvEnd => (pvStart, pvEnd))
        mappedState.lists 7 [10] (mappedState.areaData 1) 0x40001800 0x800 ↔
      EndsInside plainKernel mappedState.lists 7 [10]
        (mappedState.areaData 1) 0x40001800 0x800 := by
  have isArea : mappedState.lists.areas 1 = some _ := rfl
  exact checkExecuteCacheOp_inside_iff mappedState_reachable isArea _ 7
    0x40001800 0x800

/-- Two pages from there on are passed to the cache operation, although the
mapping ends after the first half page of them. -/
theorem checkExecuteCacheOp_behindMapping :
    ¬ ∀ (kernel : Kernel) (state : MapState) (psLinuxMemArea : Address)
        (area : LinuxMemArea)
        (ui32PID pvRangeAddrStart ui32Length : Nat),
      MapState.Reachable kernel state →
        state.lists.areas psLinuxMemArea = some area →
        pvRangeAddrStart < 2 ^ 64 → ui32Length < 2 ^ 32 →
        StaysInside kernel (fun pvStart pvEnd => (pvStart, pvEnd))
          state.lists ui32PID area.sMMapOffsetStructList
          (state.areaData psLinuxMemArea) pvRangeAddrStart ui32Length := by
  intro always
  have isArea : mappedState.lists.areas 1 = some _ := rfl
  obtain ⟨value, recorded, inside⟩ :=
    always _ _ 1 _ 7 0x40001800 0x2000 mappedState_reachable isArea
      (by decide) (by decide) _ _ rfl
  obtain ⟨psOffsetStruct, member, isValue⟩ := recorded.listed
  cases List.mem_singleton.mp member
  cases isValue
  exact absurd inside.2 (by decide)

end PvrServices.MMap.CacheOps
