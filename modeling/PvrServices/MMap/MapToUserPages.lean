import Mathlib.Data.Nat.ModEq
import PvrServices.Lib.FilledRange
import PvrServices.MMap.MapToUser
import PvrServices.MMap.OffsetStructsCorrect

/-!
# Pages and cache lines of a mapping

A successful `DoMapToUser` fills the page table from the start of the mapping
with the frames of the root of the area, if 32-bit offsets reach to its end,
and else maps nothing.  A cache operation flushes its range or nothing.
-/

namespace PvrServices.MMap

open FilledRange

variable {kernel : Kernel} {psVma : VmAreaStruct}

/-! ## Roots of sub-allocations -/

namespace AreaData

variable {areaData : AreaData} {ui32ByteOffset : Nat}

/-- The area in which a sub-allocation lies in the end. -/
def root : AreaData → AreaData
  | .subAlloc psParentLinuxMemArea _ => psParentLinuxMemArea.root
  | areaData => areaData

/-- Sum of the byte offsets on the way to the root. -/
def rootOffset : AreaData → Nat
  | .subAlloc psParentLinuxMemArea ui32ByteOffset =>
    ui32ByteOffset + psParentLinuxMemArea.rootOffset
  | _ => 0

/-- Offsets may be reduced to a word before or after another one is added. -/
theorem offset_mod (first second third : Nat) :
    (first + (second + third) % 2 ^ 32) % 2 ^ 32 =
      (second + first + third) % 2 ^ 32 := by
  omega

theorem linuxMemAreaToCpuPAddr_root
    (word : ui32ByteOffset < 2 ^ 32) :
    areaData.linuxMemAreaToCpuPAddr kernel ui32ByteOffset =
      areaData.root.linuxMemAreaToCpuPAddr kernel
        ((areaData.rootOffset + ui32ByteOffset) % 2 ^ 32) := by
  induction areaData generalizing ui32ByteOffset with
  | subAlloc parent ui32SubOffset ih =>
    rw [linuxMemAreaToCpuPAddr, root, rootOffset,
      ih (Nat.mod_lt _ (Nat.two_pow_pos 32)), offset_mod]
  | _ => simp only [root, rootOffset, Nat.zero_add, Nat.mod_eq_of_lt word]

end AreaData

/-- `DoMapToUser` maps pages of the root. -/
theorem doMapToUser_root
    {areaData : AreaData}
    {ui32ByteOffset : Nat}
    {table : PageTable}
    (word : ui32ByteOffset < 2 ^ 32) :
    doMapToUser kernel psVma table areaData ui32ByteOffset =
      mapPages kernel psVma areaData.root
        ((areaData.rootOffset + ui32ByteOffset) % 2 ^ 32) table := by
  induction areaData generalizing ui32ByteOffset with
  | subAlloc parent ui32SubOffset ih =>
    rw [doMapToUser, AreaData.root, AreaData.rootOffset,
      ih (Nat.mod_lt _ (Nat.two_pow_pos 32)),
      AreaData.offset_mod]
  | _ =>
    simp only [doMapToUser, AreaData.root, AreaData.rootOffset,
      Nat.zero_add, Nat.mod_eq_of_lt word]

/-! ## The loops -/

section Loops

variable {areaData : AreaData}
  {bound passes ui32PA ui32ByteEnd index pfn : Nat} {bMixedMap : Bool}
  {table after : PageTable}

/-- No pass of the first loop is made from the end on. -/
theorem findMixedMap_end
    (past : ui32ByteEnd ≤ ui32PA) :
    findMixedMap kernel areaData ui32ByteEnd (bound + 1) ui32PA bMixedMap =
      some bMixedMap := by
  rw [findMixedMap, if_neg (Nat.not_lt.mpr past)]

/-- No pass of the second loop is made from the end on. -/
theorem insertPages_end
    {ulVMAPos : Nat}
    (past : ui32ByteEnd ≤ ui32PA) :
    insertPages kernel psVma areaData bMixedMap ui32ByteEnd (bound + 1)
      ui32PA ulVMAPos table = some (table, true) := by
  rw [insertPages, if_neg (Nat.not_lt.mpr past)]

/-- The first loop ends, by the passes that are left. -/
theorem findMixedMap_returns
    {bMixedMap : Bool}
    (stop : ui32PA + passes * pageSize = ui32ByteEnd)
    (word : ui32ByteEnd < 2 ^ 32)
    (bounded : passes < bound) :
    ∃ result, findMixedMap kernel areaData ui32ByteEnd bound ui32PA
      bMixedMap = some result := by
  simp only [pageSize] at stop
  induction passes generalizing bound ui32PA bMixedMap with
  | zero =>
    obtain ⟨bound, rfl⟩ := Nat.exists_eq_add_of_lt bounded
    exact ⟨bMixedMap, findMixedMap_end (by omega)⟩
  | succ passes ih =>
    obtain ⟨bound, rfl⟩ := Nat.exists_eq_add_of_lt bounded
    simp only [findMixedMap, if_pos (by omega : ui32PA < ui32ByteEnd),
      Nat.mod_eq_of_lt (by omega : ui32PA + 4096 < 2 ^ 32)]
    exact ih (by omega) (by omega)

theorem Kernel.inserts
    (kernel : Kernel)
    (bMixedMap : Bool) :
    Inserts fun psVma address pfn table =>
      if bMixedMap then kernel.vmfInsertMixed psVma address pfn table
      else kernel.vmInsertPage psVma address pfn table := by
  cases bMixedMap with
  | false => exact kernel.vmInsertPage_inserts
  | true => exact kernel.vmfInsertMixed_inserts

/-- A pass of the second loop that inserts a page at a position within 32 bits
of the start inserts the page that many pages behind it. -/
theorem inserts_at_page
    (near : index * pageSize < 2 ^ 32)
    (absent : table (psVma.vmStart / pageSize + index) = none)
    (inserted :
      (if bMixedMap then
        kernel.vmfInsertMixed psVma
          ((psVma.vmStart + index * pageSize) % 2 ^ 32) pfn table
      else
        kernel.vmInsertPage psVma
          ((psVma.vmStart + index * pageSize) % 2 ^ 32) pfn table) =
        some after) :
    psVma.vmStart < 2 ^ 32 ∧
      after = Function.update table (psVma.vmStart / pageSize + index)
        (some pfn) := by
  obtain ⟨⟨behind, _⟩, maps⟩ := kernel.inserts bMixedMap _ _ _ _ _ inserted
  have exact : (psVma.vmStart + index * pageSize) % 2 ^ 32 =
      psVma.vmStart + index * pageSize := by
    omega
  have page : (psVma.vmStart + index * pageSize) / pageSize =
      psVma.vmStart / pageSize + index :=
    Nat.add_mul_div_right _ _ (by decide)
  rw [exact, page] at maps
  exact ⟨by omega, maps absent⟩

theorem next_position (start index : Nat) :
    ((start + index * 4096) % 2 ^ 32 + 4096) % 2 ^ 32 =
      (start + (index + 1) * 4096) % 2 ^ 32 := by
  omega

/-- The second loop ends, by the passes that are left, and fills as many pages
if it succeeds. -/
theorem insertPages_fills
    {bMixedMap : Bool}
    {index : Nat}
    {table : PageTable}
    (stop : ui32PA + passes * pageSize = ui32ByteEnd)
    (word : ui32ByteEnd < 2 ^ 32)
    (near : (index + passes) * pageSize < 2 ^ 32)
    (bounded : passes < bound)
    (absent : ∀ page < passes,
      table (psVma.vmStart / pageSize + index + page) = none) :
    ∃ after mapped,
      insertPages kernel psVma areaData bMixedMap ui32ByteEnd bound ui32PA
          ((psVma.vmStart + index * pageSize) % 2 ^ 32) table =
        some (after, mapped) ∧
      (mapped = true →
        (0 < passes → psVma.vmStart < 2 ^ 32) ∧
          after = fill table (psVma.vmStart / pageSize + index)
            (fun page => areaData.linuxMemAreaToCpuPFN kernel
              (ui32PA + page * pageSize) % 2 ^ 32) passes) := by
  simp only [pageSize] at stop near
  induction passes generalizing bound ui32PA index table with
  | zero =>
    obtain ⟨bound, rfl⟩ := Nat.exists_eq_add_of_lt bounded
    refine ⟨table, true, ?_, fun _ => ⟨fun none => by omega, ?_⟩⟩
    · exact insertPages_end (by omega)
    · rw [fill_zero]
  | succ passes ih =>
    obtain ⟨bound, rfl⟩ := Nat.exists_eq_add_of_lt bounded
    have nearIndex : index * 4096 < 2 ^ 32 :=
      Nat.lt_of_le_of_lt
        (Nat.mul_le_mul_right 4096 (Nat.le_add_right index (passes + 1)))
        near
    have stopRest : ui32PA + 4096 + passes * 4096 = ui32ByteEnd := by omega
    have nearRest : (index + 1 + passes) * 4096 < 2 ^ 32 :=
      Nat.lt_of_le_of_lt (Nat.mul_le_mul_right 4096 (by omega)) near
    have boundedRest : passes < passes + 1 + bound := by omega
    have advance : (ui32PA + pageSize) % 2 ^ 32 = ui32PA + 4096 :=
      Nat.mod_eq_of_lt (by omega : ui32PA + 4096 < 2 ^ 32)
    have next := next_position psVma.vmStart index
    rw [insertPages, if_pos (by omega : ui32PA < ui32ByteEnd), advance, next]
    dsimp only
    cases isInserted : (if bMixedMap then
        kernel.vmfInsertMixed psVma
          ((psVma.vmStart + index * pageSize) % 2 ^ 32)
          (areaData.linuxMemAreaToCpuPFN kernel ui32PA % 2 ^ 32) table
      else
        kernel.vmInsertPage psVma
          ((psVma.vmStart + index * pageSize) % 2 ^ 32)
          (areaData.linuxMemAreaToCpuPFN kernel ui32PA % 2 ^ 32) table) with
    | none => exact ⟨table, false, rfl, nofun⟩
    | some inserted =>
      obtain ⟨low, rfl⟩ := inserts_at_page nearIndex
        (absent 0 (Nat.succ_pos passes)) isInserted
      have shifted : ∀ page, ui32PA + 4096 + page * 4096 =
          ui32PA + (page + 1) * 4096 := by
        intro page
        rw [Nat.succ_mul, Nat.add_assoc, Nat.add_comm 4096]
      have absentRest : ∀ page < passes,
          Function.update table (psVma.vmStart / pageSize + index)
            (some (areaData.linuxMemAreaToCpuPFN kernel ui32PA % 2 ^ 32))
            (psVma.vmStart / pageSize + (index + 1) + page) = none := by
        intro page within
        rw [Function.update_of_ne (by omega)]
        have later := absent (page + 1) (Nat.succ_lt_succ within)
        rwa [show psVma.vmStart / pageSize + index + (page + 1) =
          psVma.vmStart / pageSize + (index + 1) + page by omega] at later
      obtain ⟨after, mapped, returned, fills⟩ :=
        ih stopRest nearRest boundedRest absentRest
      refine ⟨after, mapped, returned, fun success => ?_⟩
      obtain ⟨_, isFill⟩ := fills success
      refine ⟨fun _ => low, ?_⟩
      rw [isFill, ← fill_update]
      simp only [shifted]
      rfl

/-- Nothing is mapped if the last offset is not behind the first one. -/
theorem mapPages_nothing
    (past : (ui32PA + psVma.ui32ByteSize) % 2 ^ 32 ≤ ui32PA) :
    mapPages kernel psVma areaData ui32PA table = some (table, true) := by
  rw [mapPages, findMixedMap_end past, Option.bind_eq_bind,
    Option.bind_some, insertPages_end past]

/-- The pages of the mapping have no frames yet. -/
def Unmapped (psVma : VmAreaStruct) (table : PageTable) : Prop :=
  ∀ address, psVma.Contains address → table (address / pageSize) = none

theorem VmAreaStruct.ui32ByteSize_lt : psVma.ui32ByteSize < 2 ^ 32 :=
  Nat.mod_lt _ (Nat.two_pow_pos 32)

theorem Unmapped.absent
    (unmapped : Unmapped psVma table)
    {page : Nat}
    (within : page < psVma.ui32ByteSize / pageSize) :
    table (psVma.vmStart / pageSize + page) = none := by
  have shorter : psVma.ui32ByteSize ≤ psVma.vmEnd - psVma.vmStart :=
    Nat.mod_le _ _
  have start : (psVma.vmStart + page * pageSize) / pageSize =
      psVma.vmStart / pageSize + page :=
    Nat.add_mul_div_right _ _ (by decide)
  rw [← start]
  have before : page * 4096 < psVma.ui32ByteSize := by
    have whole := Nat.div_mul_le_self psVma.ui32ByteSize 4096
    simp only [pageSize] at within
    omega
  exact unmapped _ ⟨Nat.le_add_right _ _, by
    simp only [pageSize]
    omega⟩

/-- What `DoMapToUser` does to the page table when it succeeds, for an area
that is no sub-allocation. -/
theorem mapPages_fills
    {table : PageTable}
    (word : ui32PA < 2 ^ 32)
    (whole : pageSize ∣ psVma.ui32ByteSize)
    (unmapped : Unmapped psVma table) :
    ∃ after mapped,
      mapPages kernel psVma areaData ui32PA table = some (after, mapped) ∧
      (mapped = true →
        if ui32PA + psVma.ui32ByteSize < 2 ^ 32 then
          (0 < psVma.ui32ByteSize → psVma.vmStart < 2 ^ 32) ∧
            after = fill table (psVma.vmStart / pageSize)
              (fun page => areaData.linuxMemAreaToCpuPFN kernel
                (ui32PA + page * pageSize) % 2 ^ 32)
              (psVma.ui32ByteSize / pageSize)
        else after = table) := by
  have small : psVma.ui32ByteSize < 2 ^ 32 := VmAreaStruct.ui32ByteSize_lt
  by_cases reaches : ui32PA + psVma.ui32ByteSize < 2 ^ 32
  · have pages := Nat.div_mul_cancel whole
    have stop : ui32PA + psVma.ui32ByteSize / pageSize * pageSize =
        ui32PA + psVma.ui32ByteSize := by
      rw [pages]
    have near : (0 + psVma.ui32ByteSize / pageSize) * pageSize < 2 ^ 32 := by
      rw [Nat.zero_add, pages]
      exact small
    have bounded : psVma.ui32ByteSize / pageSize < loopBound := by
      simp only [pageSize, loopBound]
      omega
    obtain ⟨bMixedMap, finds⟩ :=
      @findMixedMap_returns kernel areaData loopBound _ ui32PA _ false stop
        reaches bounded
    obtain ⟨after, mapped, inserts, fills⟩ :=
      @insertPages_fills kernel psVma areaData loopBound _ ui32PA _ bMixedMap
        0 table stop reaches near bounded
        fun page within => unmapped.absent within
    refine ⟨after, mapped, ?_, fun success => ?_⟩
    · rw [Nat.zero_mul, Nat.add_zero] at inserts
      simp only [mapPages, Nat.mod_eq_of_lt reaches, finds, inserts,
        Option.bind_eq_bind, Option.bind_some]
    · obtain ⟨low, isFill⟩ := fills success
      rw [if_pos reaches]
      refine ⟨fun some => low ?_, isFill⟩
      exact Nat.div_pos (Nat.le_of_dvd some whole) (by decide)
  · refine ⟨table, true, mapPages_nothing (by omega), fun _ => ?_⟩
    rw [if_neg reaches]

end Loops

/-! ## Cache operations -/

section CacheOps

variable {lists : MMapState} {psMMapOffsetStructList : List Address}
  {pvRangeAddrStart ui32Length : Nat}

/-- A flush stays below a limit at the end of a cache line. -/
theorem mem_x86FlushCacheRange
    {pvStart pvEnd address limit : Nat}
    (member : address ∈ x86FlushCacheRange kernel pvStart pvEnd)
    (whole : kernel.x86ClflushSize ∣ limit)
    (inside : pvEnd ≤ limit) :
    pvStart ≤ address ∧ address < limit := by
  have positive : 0 < kernel.x86ClflushSize :=
    Nat.pos_of_dvd_of_pos kernel.x86ClflushSize_dvd (by decide)
  obtain ⟨lines, rfl⟩ := whole
  obtain ⟨index, within, rfl⟩ := List.mem_range'.mp member
  have last : ((pvEnd + (kernel.x86ClflushSize - 1)) % 2 ^ 64) /
      kernel.x86ClflushSize ≤ lines := by
    rw [← Nat.lt_succ_iff, Nat.div_lt_iff_lt_mul positive, Nat.succ_mul,
      Nat.mul_comm lines]
    have reduced := Nat.mod_le (pvEnd + (kernel.x86ClflushSize - 1)) (2 ^ 64)
    omega
  have lastByte := Nat.mul_le_mul_right kernel.x86ClflushSize last
  have passes := (Nat.le_div_iff_mul_le positive).mp within
  rw [Nat.succ_mul, Nat.mul_comm index] at passes
  rw [Nat.mul_comm lines] at lastByte
  omega

/-- The checks of the cache operations let the range through. -/
def Allowed
    (kernel : Kernel) (lists : MMapState)
    (psMMapOffsetStructList : List Address)
    (pvRangeAddrStart ui32Length : Nat) : Prop :=
  kernel.isVmallocAddr pvRangeAddrStart = true ∨
    ∃ psOffsetStruct ∈ psMMapOffsetStructList, ∃ value,
      lists.offsetStructs psOffsetStruct = some value ∧
        ui32Length ≤ value.ui32RealByteSize

/-- The area the switch is about, with `ui32AreaOffset`. -/
def switched : AreaData → AreaData × Nat
  | .subAlloc psParentLinuxMemArea ui32ByteOffset =>
    (psParentLinuxMemArea, ui32ByteOffset)
  | areaData => (areaData, 0)

theorem checkExecuteCacheOp_switched
    {α : Type}
    (pfnInnerCacheOp : Nat → Nat → α)
    (ui32PID : Nat)
    (areaData : AreaData) :
    checkExecuteCacheOp kernel pfnInnerCacheOp lists ui32PID
        psMMapOffsetStructList areaData pvRangeAddrStart ui32Length =
      executeCacheOp kernel pfnInnerCacheOp lists ui32PID
        psMMapOffsetStructList pvRangeAddrStart ui32Length
        (switched areaData).2 (switched areaData).1 := by
  cases areaData <;> rfl

/-- The range begins at a kernel address of vmalloc memory, at or behind the
area. -/
def atKernelAddress
    (kernel : Kernel) (areaData : AreaData) (pvRangeAddrStart : Nat) : Bool :=
  match switched areaData with
  | (.vmalloc pvVmallocAddress, ui32AreaOffset) =>
    kernel.isVmallocAddr pvRangeAddrStart ∧
      (pvVmallocAddress + ui32AreaOffset) % 2 ^ 64 ≤ pvRangeAddrStart
  | _ => false

/-- The check lets the range through if it finds a mapping. -/
def asksMapping
    (kernel : Kernel) (areaData : AreaData) (pvRangeAddrStart : Nat) : Bool :=
  match (switched areaData).1 with
  | .vmalloc _ => !kernel.isVmallocAddr pvRangeAddrStart
  | .externalKV _ pvExternalKV => pvExternalKV = 0
  | .allocPages _ => true
  | _ => false

theorem isVmallocAddr_of_kernel
    {areaData : AreaData}
    (starts : atKernelAddress kernel areaData pvRangeAddrStart = true) :
    kernel.isVmallocAddr pvRangeAddrStart = true := by
  unfold atKernelAddress at starts
  split at starts
  · exact (of_decide_eq_true starts).1
  · cases starts

/-- The operation is performed on a range that begins at a kernel address of
the area, and on one for which a mapping has been asked for and found. -/
theorem checkExecuteCacheOp_performs
    {α : Type}
    {pfnInnerCacheOp : Nat → Nat → α}
    {ui32PID pvMinVAddr : Nat}
    {areaData : AreaData}
    (finds : findMMapBaseVAddr lists ui32PID psMMapOffsetStructList
      pvRangeAddrStart ui32Length = some pvMinVAddr) :
    ∃ performed through,
      checkExecuteCacheOp kernel pfnInnerCacheOp lists ui32PID
          psMMapOffsetStructList areaData pvRangeAddrStart ui32Length =
        some (performed, through) ∧
      ∀ result, performed = some result ↔
        pfnInnerCacheOp pvRangeAddrStart
            ((pvRangeAddrStart + ui32Length) % 2 ^ 64) = result ∧
          (atKernelAddress kernel areaData pvRangeAddrStart = true ∨
            asksMapping kernel areaData pvRangeAddrStart = true ∧
              pvMinVAddr ≠ 0) := by
  rw [checkExecuteCacheOp_switched]
  unfold executeCacheOp atKernelAddress asksMapping
  simp only [finds, Option.bind_eq_bind, Option.bind_some]
  rcases switched areaData with ⟨parent, ui32AreaOffset⟩
  cases parent with
  | vmalloc pvVmallocAddress =>
    cases inVmalloc : kernel.isVmallocAddr pvRangeAddrStart with
    | true =>
      simp only [if_true]
      by_cases before : pvRangeAddrStart <
          (pvVmallocAddress + ui32AreaOffset) % 2 ^ 64
      · simp only [if_pos before]
        exact ⟨_, _, rfl, by simpa using before⟩
      · simp only [if_neg before]
        exact ⟨_, _, rfl, by simpa using before⟩
    | false =>
      simp only [Bool.false_eq_true, if_false]
      by_cases null : pvMinVAddr = 0
      · simp only [if_pos null]
        exact ⟨_, _, rfl, by simp [null]⟩
      · simp only [if_neg null]
        exact ⟨_, _, rfl, by simp [null]⟩
  | externalKV pSysPhysAddr pvExternalKV =>
    by_cases mapped : pvExternalKV = 0
    · simp only [if_neg (not_not.mpr mapped)]
      by_cases null : pvMinVAddr = 0
      · simp only [if_pos null]
        exact ⟨_, _, rfl, by simp [null]⟩
      · simp only [if_neg null]
        exact ⟨_, _, rfl, by simp [mapped, null]⟩
    · simp only [if_pos mapped]
      exact ⟨_, _, rfl, by simp [mapped]⟩
  | allocPages pvPageList =>
    by_cases null : pvMinVAddr = 0
    · simp only [if_pos null]
      exact ⟨_, _, rfl, by simp [null]⟩
    · simp only [if_neg null]
      exact ⟨_, _, rfl, by simp [null]⟩
  | _ => exact ⟨none, _, rfl, by simp⟩

section

variable (live : ∀ psOffsetStruct ∈ psMMapOffsetStructList,
      (lists.offsetStructs psOffsetStruct).isSome = true)
include live

/-- The base is that of a mapping as long as the range. -/
theorem findMMapBaseVAddr_returns
    (ui32PID : Nat) :
    ∃ pvMinVAddr,
      findMMapBaseVAddr lists ui32PID psMMapOffsetStructList
          pvRangeAddrStart ui32Length = some pvMinVAddr ∧
        (pvMinVAddr ≠ 0 →
          Allowed kernel lists psMMapOffsetStructList pvRangeAddrStart
            ui32Length) := by
  unfold findMMapBaseVAddr
  rw [MMapState.findOffsetStruct_eq _ live, Option.bind_eq_bind,
    Option.bind_some]
  cases found : psMMapOffsetStructList.find? fun psOffsetStruct =>
      (lists.offsetStructs psOffsetStruct).any fun value =>
        value.ui32PID = ui32PID ∧ value.ui32UserVAddr ≤ pvRangeAddrStart ∧
          ui32Length ≤ value.ui32RealByteSize with
  | none => exact ⟨0, rfl, fun impossible => absurd rfl impossible⟩
  | some psOffsetStruct =>
    have member := List.mem_of_find?_eq_some found
    obtain ⟨value, isValue⟩ :=
      Option.isSome_iff_exists.mp (live psOffsetStruct member)
    have test := List.find?_some found
    rw [isValue, Option.any_some, decide_eq_true_iff] at test
    refine ⟨value.ui32UserVAddr, ?_, fun _ => ?_⟩
    · simp only [isValue, Option.map_some]
    · exact .inr ⟨psOffsetStruct, member, value, isValue, test.2.2⟩

/-- The flush of a range returns, and flushes the range only if it may. -/
theorem osInvalidateCPUCacheRangeKM_flushes
    (ui32PID : Nat)
    (areaData : AreaData) :
    ∃ flushes through,
      osInvalidateCPUCacheRangeKM kernel lists ui32PID psMMapOffsetStructList
          areaData pvRangeAddrStart ui32Length = some (flushes, through) ∧
        (flushes = [] ∨
          flushes = x86FlushCacheRange kernel pvRangeAddrStart
              ((pvRangeAddrStart + ui32Length) % 2 ^ 64) ∧
            Allowed kernel lists psMMapOffsetStructList pvRangeAddrStart
              ui32Length) := by
  obtain ⟨pvMinVAddr, finds, allowed⟩ :=
    @findMMapBaseVAddr_returns kernel lists psMMapOffsetStructList
      pvRangeAddrStart ui32Length live ui32PID
  obtain ⟨performed, through, returned, performs⟩ :=
    @checkExecuteCacheOp_performs kernel lists psMMapOffsetStructList
      pvRangeAddrStart ui32Length _ (x86FlushCacheRange kernel) ui32PID
      pvMinVAddr areaData finds
  unfold osInvalidateCPUCacheRangeKM
  rw [returned]
  refine ⟨_, through, rfl, ?_⟩
  cases performed with
  | none => exact .inl rfl
  | some result =>
    obtain ⟨isFlush, starts | ⟨_, found⟩⟩ := (performs result).mp rfl
    · exact .inr ⟨isFlush.symm, .inl (isVmallocAddr_of_kernel starts)⟩
    · exact .inr ⟨isFlush.symm, allowed found⟩

end

end CacheOps

end PvrServices.MMap
