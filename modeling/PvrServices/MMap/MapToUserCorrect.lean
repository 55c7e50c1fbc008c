import PvrServices.MMap.MapToUserPages

/-!
# mmap maps exactly the area

In every state the calls can lead to, a successful mmap maps the pages of its
area one by one, provided that the length of the mapping, the offsets into the
root of the area and the frame numbers fit the 32-bit words they are kept in.
Otherwise pages are missing, or a page shows another frame.
-/

namespace PvrServices.MMap

open Nat (mod_eq_of_lt mod_lt two_pow_pos)
open Function (update update_of_ne update_self)
open Option (bind_eq_bind bind_eq_some_iff bind_some map_eq_some_iff)
open FilledRange

variable {kernel : Kernel}

/-! ## Physical addresses of areas stay -/

namespace MMapState

variable {state middle after : MMapState} {psOffsetStruct : Address}

/-- Areas that are left have the physical address they had. -/
def KeepsPAddr (state after : MMapState) : Prop :=
  ∀ psLinuxMemArea area, after.areas psLinuxMemArea = some area →
    ∃ before, state.areas psLinuxMemArea = some before ∧
      area.cpuPAddr = before.cpuPAddr

theorem KeepsPAddr.of_eq (same : after.areas = state.areas) :
    state.KeepsPAddr after := by
  intro psLinuxMemArea area isArea
  rw [same] at isArea
  exact ⟨area, isArea, rfl⟩

theorem KeepsPAddr.trans
    (first : state.KeepsPAddr middle)
    (second : middle.KeepsPAddr after) :
    state.KeepsPAddr after := by
  intro psLinuxMemArea area isArea
  obtain ⟨between, isBetween, sameAsBetween⟩ :=
    second psLinuxMemArea area isArea
  obtain ⟨before, isBefore, same⟩ := first psLinuxMemArea between isBetween
  exact ⟨before, isBefore, sameAsBetween.trans same⟩

theorem KeepsPAddr.of_update
    {psLinuxMemArea : Address}
    {area changed : LinuxMemArea}
    (isArea : state.areas psLinuxMemArea = some area)
    (updated : after.areas =
      update state.areas psLinuxMemArea (some changed))
    (same : changed.cpuPAddr = area.cpuPAddr) :
    state.KeepsPAddr after := by
  intro other value isValue
  rw [updated] at isValue
  by_cases self : other = psLinuxMemArea
  · subst self
    rw [update_self] at isValue
    cases isValue
    exact ⟨area, isArea, same⟩
  · rw [update_of_ne self] at isValue
    exact ⟨value, isValue, rfl⟩

/-- Offset structures have the base they had, or one that fits its field. -/
def KeepsBases (state after : MMapState) : Prop :=
  ∀ psOffsetStruct value, after.offsetStructs psOffsetStruct = some value →
    value.ui32UserVAddr < 2 ^ 32 ∨
      ∃ before, state.offsetStructs psOffsetStruct = some before ∧
        value.ui32UserVAddr = before.ui32UserVAddr

theorem KeepsBases.of_eq (same : after.offsetStructs = state.offsetStructs) :
    state.KeepsBases after := by
  intro psOffsetStruct value isValue
  rw [same] at isValue
  exact Or.inr ⟨value, isValue, rfl⟩

theorem KeepsBases.trans
    (first : state.KeepsBases middle)
    (second : middle.KeepsBases after) :
    state.KeepsBases after := by
  intro psOffsetStruct value isValue
  rcases second psOffsetStruct value isValue with
    word | ⟨between, isBetween, sameAsBetween⟩
  · exact Or.inl word
  · rw [sameAsBetween]
    exact first psOffsetStruct between isBetween

theorem KeepsBases.of_update
    {changed : Option OffsetStruct}
    (updated : after.offsetStructs =
      update state.offsetStructs psOffsetStruct changed)
    (kept : ∀ value ∈ changed, value.ui32UserVAddr < 2 ^ 32 ∨
      ∃ before, state.offsetStructs psOffsetStruct = some before ∧
        value.ui32UserVAddr = before.ui32UserVAddr) :
    state.KeepsBases after := by
  intro other value isValue
  rw [updated] at isValue
  by_cases self : other = psOffsetStruct
  · subst self
    rw [update_self] at isValue
    exact kept value isValue
  · rw [update_of_ne self] at isValue
    exact Or.inr ⟨value, isValue, rfl⟩

/-- A structure keeps its base. -/
theorem KeepsBases.of_kept
    {value changed : OffsetStruct}
    (isValue : state.offsetStructs psOffsetStruct = some value)
    (updated : after.offsetStructs =
      update state.offsetStructs psOffsetStruct (some changed))
    (same : changed.ui32UserVAddr = value.ui32UserVAddr) :
    state.KeepsBases after := by
  refine of_update updated ?_
  rintro _ ⟨⟩
  exact Or.inr ⟨value, isValue, same⟩

/-- Neither the physical addresses of areas nor the bases of offset structures
change. -/
structure Keeps (state after : MMapState) : Prop where
  paddrs : state.KeepsPAddr after
  bases : state.KeepsBases after

namespace Keeps

theorem refl : state.Keeps state := ⟨.of_eq rfl, .of_eq rfl⟩

theorem trans
    (first : state.Keeps middle)
    (second : middle.Keeps after) :
    state.Keeps after :=
  ⟨first.paddrs.trans second.paddrs, first.bases.trans second.bases⟩

variable {psOffsetStruct psVma : Address} {ui32PID : Nat} {list : List Address}
  {lookup : Option Address}

theorem destroyOffsetStruct
    (returned : state.destroyOffsetStruct psOffsetStruct = some after) :
    state.Keeps after := by
  simp only [MMapState.destroyOffsetStruct, bind_eq_bind,
    bind_eq_some_iff, Option.some.injEq] at returned
  obtain ⟨value, _, area, isArea, rfl⟩ := returned
  exact ⟨.of_update isArea rfl rfl, .of_update rfl nofun⟩

theorem mMapVOpenNoLock
    (returned : state.mMapVOpenNoLock psVma psOffsetStruct = some after) :
    state.Keeps after := by
  simp only [MMapState.mMapVOpenNoLock, bind_eq_bind,
    bind_eq_some_iff, Option.some.injEq] at returned
  obtain ⟨value, isValue, rfl⟩ := returned
  exact ⟨.of_eq rfl, .of_kept isValue rfl rfl⟩

theorem mMapVCloseNoLock
    (returned : state.mMapVCloseNoLock psVma psOffsetStruct = some after) :
    state.Keeps after := by
  simp only [MMapState.mMapVCloseNoLock, bind_eq_bind,
    bind_eq_some_iff] at returned
  obtain ⟨value, isValue, closed⟩ := returned
  split at closed
  · refine trans ?_ (destroyOffsetStruct closed)
    exact ⟨.of_eq rfl, .of_kept isValue rfl rfl⟩
  · cases closed
    exact ⟨.of_eq rfl, .of_kept isValue rfl rfl⟩

theorem destroyUnmapped
    {removed : Bool}
    (returned : destroyUnmapped list state = some (after, removed)) :
    state.Keeps after := by
  induction list generalizing state with
  | nil =>
    cases returned
    exact refl
  | cons psOffsetStruct rest ih =>
    simp only [MMapState.destroyUnmapped] at returned
    split at returned
    · cases returned
    · split at returned
      · cases returned
        exact refl
      · split at returned
        · cases returned
        · next middle destroyed =>
            exact (destroyOffsetStruct destroyed).trans (ih returned)

theorem destroyOfProcess
    (returned : destroyOfProcess ui32PID list state = some after) :
    state.Keeps after := by
  induction list generalizing state with
  | nil =>
    cases returned
    exact refl
  | cons psOffsetStruct rest ih =>
    simp only [MMapState.destroyOfProcess] at returned
    split at returned
    · cases returned
    · split at returned
      · split at returned
        · cases returned
        · next middle destroyed =>
            exact (destroyOffsetStruct destroyed).trans (ih returned)
      · exact ih returned

theorem pvrMMapRemoveRegisteredArea
    {psLinuxMemArea : Address}
    {result : Except MMapError Unit}
    (returned : state.pvrMMapRemoveRegisteredArea psLinuxMemArea =
      some (after, result)) :
    state.Keeps after := by
  simp only [MMapState.pvrMMapRemoveRegisteredArea, bind_eq_bind,
    bind_eq_some_iff] at returned
  obtain ⟨area, _, ⟨middle, removed⟩, destroyed, removes⟩ := returned
  have kept := destroyUnmapped destroyed
  split at removes
  · cases removes
    exact kept
  · cases removes
    refine ⟨fun other value isValue => ?_, kept.bases⟩
    by_cases self : other = psLinuxMemArea
    · subst self
      simp only [update_self, reduceCtorEq] at isValue
    · simp only [update_of_ne self] at isValue
      exact kept.paddrs other value isValue

theorem pvrMMapOSMemHandleToMMapData
    {hMHandle : Nat}
    {allocated : Option Address}
    {result : Except MMapError MMapData}
    (returned : state.pvrMMapOSMemHandleToMMapData ui32PID hMHandle lookup
      allocated = some (after, result)) :
    state.Keeps after := by
  cases lookup with
  | none =>
    cases returned
    exact refl
  | some psLinuxMemArea =>
    simp only [MMapState.pvrMMapOSMemHandleToMMapData, bind_eq_bind,
      bind_eq_some_iff] at returned
    obtain ⟨area, isArea, found, _, translates⟩ := returned
    cases found with
    | some psOffsetStruct =>
      simp only [bind_eq_some_iff] at translates
      obtain ⟨value, isValue, counted⟩ := translates
      cases counted
      exact ⟨.of_eq rfl, .of_kept isValue rfl rfl⟩
    | none =>
      cases allocated with
      | none =>
        cases translates
        exact refl
      | some psOffsetStruct =>
        dsimp only at translates
        split at translates
        · cases translates
        · cases translates
          refine ⟨.of_update isArea rfl rfl, .of_update rfl ?_⟩
          rintro _ ⟨⟩
          exact Or.inl (two_pow_pos 32)

theorem pvrMMapReleaseMMapData
    {result : Except MMapError ReleaseData}
    (returned : state.pvrMMapReleaseMMapData ui32PID lookup =
      some (after, result)) :
    state.Keeps after := by
  cases lookup with
  | none =>
    cases returned
    exact refl
  | some psLinuxMemArea =>
    simp only [MMapState.pvrMMapReleaseMMapData, bind_eq_bind,
      bind_eq_some_iff] at returned
    obtain ⟨area, isArea, found, _, releases⟩ := returned
    cases found with
    | none =>
      cases releases
      exact refl
    | some psOffsetStruct =>
      simp only [bind_eq_some_iff] at releases
      obtain ⟨value, isValue, released⟩ := releases
      split at released
      · cases released
        exact refl
      · cases released
        exact ⟨.of_eq rfl, .of_kept isValue rfl rfl⟩

theorem pvrMMap
    {ui32PID : Nat}
    {request : MMapRequest}
    {found : Option Address}
    {result : Except MMapError Unit}
    (returned : state.pvrMMap ui32PID request =
      some (after, found, result)) :
    state.Keeps after := by
  simp only [MMapState.pvrMMap, bind_eq_bind, bind_eq_some_iff] at returned
  obtain ⟨offsetStruct, _, maps⟩ := returned
  cases offsetStruct with
  | none =>
    cases maps
    exact refl
  | some psOffsetStruct =>
    simp only [bind_eq_some_iff] at maps
    obtain ⟨value, isValue, maps⟩ := maps
    have unlisted : state.Keeps (state.unlist psOffsetStruct value) :=
      ⟨.of_eq rfl, .of_kept isValue rfl rfl⟩
    split at maps
    · obtain ⟨gone, destroys, ends⟩ := bind_eq_some_iff.mp maps
      cases ends
      exact unlisted.trans (destroyOffsetStruct destroys)
    · obtain ⟨area, isArea, maps⟩ := bind_eq_some_iff.mp maps
      split at maps
      · obtain ⟨gone, destroys, ends⟩ := bind_eq_some_iff.mp maps
        cases ends
        exact unlisted.trans (destroyOffsetStruct destroys)
      · split at maps
        · obtain ⟨gone, destroys, ends⟩ := bind_eq_some_iff.mp maps
          cases ends
          exact unlisted.trans (destroyOffsetStruct destroys)
        · obtain ⟨last, opens, ends⟩ := bind_eq_some_iff.mp maps
          cases ends
          refine trans ?_ (mMapVOpenNoLock opens)
          refine ⟨.of_update isArea rfl rfl,
            unlisted.bases.trans (.of_update rfl ?_)⟩
          rintro _ ⟨⟩
          exact Or.inl (mod_lt _ (two_pow_pos 32))

/-- Every call but a registration keeps the physical addresses. -/
theorem step
    {op : MMapOp}
    (isOther : op.isOther = true)
    (stepped : state.step op = some after) :
    state.Keeps after := by
  cases op with
  | registerArea _ _ _ _ _ => cases isOther
  | mmap _ _ => cases isOther
  | removeRegisteredArea psLinuxMemArea =>
    obtain ⟨⟨_, result⟩, returned, rfl⟩ := map_eq_some_iff.mp stepped
    exact pvrMMapRemoveRegisteredArea returned
  | osMemHandleToMMapData ui32PID hMHandle lookup allocated =>
    obtain ⟨⟨_, result⟩, returned, rfl⟩ := map_eq_some_iff.mp stepped
    exact pvrMMapOSMemHandleToMMapData returned
  | releaseMMapData ui32PID lookup =>
    obtain ⟨⟨_, result⟩, returned, rfl⟩ := map_eq_some_iff.mp stepped
    exact pvrMMapReleaseMMapData returned
  | vOpen psVma psOffsetStruct => exact mMapVOpenNoLock stepped
  | vClose psVma psOffsetStruct => exact mMapVCloseNoLock stepped
  | disconnect ui32PID => exact destroyOfProcess stepped

end Keeps

end MMapState

namespace MapState

variable {state after : MapState} {psVma : VmAreaStruct}
  {psLinuxMemArea psOffsetStruct : Address} {value : OffsetStruct}
  {area : LinuxMemArea} {lists : MMapState} {memory : UserMemory}

/-! ## What is to hold -/

/-- The mapping is as long as the area, and each of its pages has the frame of
the area at that offset.  No other page is changed, and no other address
flushed. -/
structure MapsExactly
    (kernel : Kernel) (areaData : AreaData) (ui32ByteSize : Nat)
    (psVma : VmAreaStruct) (memory after : UserMemory) : Prop where
  length : psVma.vmEnd - psVma.vmStart =
    areaData.realByteSize kernel ui32ByteSize
  frames : ∀ page < (psVma.vmEnd - psVma.vmStart) / pageSize,
    after.pageTable ((psVma.vmStart + page * pageSize) / pageSize) =
      some (areaData.linuxMemAreaToCpuPFN kernel (page * pageSize))
  others : ∀ address, ¬ psVma.Contains address →
    after.pageTable (address / pageSize) =
      memory.pageTable (address / pageSize)
  flushes : ∀ address ∈ after.flushed,
    address ∈ memory.flushed ∨ psVma.Contains address

/-- The length of the mapping, behind the offset of the area in its root, is
less than 2^32, and the pages of the area lie below 2^44. -/
structure Fits
    (kernel : Kernel) (areaData : AreaData) (psVma : VmAreaStruct) :
    Prop where
  offsets : areaData.rootOffset % 2 ^ 32 +
    (psVma.vmEnd - psVma.vmStart) < 2 ^ 32
  addresses : ∀ page < (psVma.vmEnd - psVma.vmStart) / pageSize,
    areaData.linuxMemAreaToCpuPAddr kernel (page * pageSize) < 2 ^ 44

/-! ## What the calls may rely on -/

/-- New areas get unused memory, and the kernel hands new mappings to mmap,
without frames. -/
def Enabled (state : MapState) : MapOp → Prop
  | .registerArea psLinuxMemArea _ _ _ _ =>
    state.lists.areas psLinuxMemArea = none
  | .mmap _ vma psVma memory =>
    vma ∉ state.lists.vmas.map Prod.fst ∧
      state.lists.vmas.length + 1 < 2 ^ 32 ∧
      Unmapped psVma memory.pageTable
  | .other op _ => state.lists.Enabled op

/-- States that calls lead to. -/
inductive Reachable (kernel : Kernel) : MapState → Prop where
  | init : Reachable kernel MapState.init
  | step {state after : MapState} {op : MapOp}
      (reached : Reachable kernel state)
      (enabled : state.Enabled op)
      (stepped : state.step kernel op = some after) :
      Reachable kernel after

/-- The lists are in order, and know the first physical address of each
area. -/
structure Inv (kernel : Kernel) (state : MapState) : Prop where
  lists : state.lists.Inv
  described : ∀ psLinuxMemArea area,
    state.lists.areas psLinuxMemArea = some area →
      area.cpuPAddr =
        (state.areaData psLinuxMemArea).linuxMemAreaToCpuPAddr kernel 0

/-! ## A call of mmap -/

/-- The call as the lists see it. -/
def request
    (psVma : VmAreaStruct) (vma : Address) (doMapToUser : Bool) :
    MMapRequest where
  psVma := vma
  vmPgoff := psVma.vmPgoff
  ui32ByteSize := psVma.ui32ByteSize
  vmStart := psVma.vmStart
  vmWrite := psVma.vmWrite
  vmShared := psVma.vmShared
  doMapToUser

/-- What a successful call has done to the memory of its process. -/
structure Mapped
    (kernel : Kernel) (areaData : AreaData) (area : LinuxMemArea)
    (psVma : VmAreaStruct) (memory after : UserMemory) : Prop where
  size : psVma.ui32ByteSize = areaData.realByteSize kernel area.ui32ByteSize
  mapped : doMapToUser kernel psVma memory.pageTable areaData 0 =
    some (after.pageTable, true)
  flushes : ∀ address ∈ after.flushed, address ∈ memory.flushed ∨
    (kernel.isVmallocAddr
        ((psVma.vmStart + areaData.byteOffset kernel) % 2 ^ 64) = true ∨
      area.ui32ByteSize ≤ psVma.ui32ByteSize) ∧
    address ∈ x86FlushCacheRange kernel
      ((psVma.vmStart + areaData.byteOffset kernel) % 2 ^ 64)
      (((psVma.vmStart + areaData.byteOffset kernel) % 2 ^ 64 +
        area.ui32ByteSize) % 2 ^ 64)

theorem Inv.realByteSize_eq
    (inv : state.Inv kernel)
    (isArea : state.lists.areas psLinuxMemArea = some area) :
    area.realByteSize =
      (state.areaData psLinuxMemArea).realByteSize kernel
        area.ui32ByteSize := by
  unfold LinuxMemArea.realByteSize LinuxMemArea.byteOffset
  rw [inv.described psLinuxMemArea area isArea]
  rfl

/-- The size the area has for its process is one of whole pages. -/
theorem pageSize_dvd_realByteSize
    (areaData : AreaData)
    (ui32ByteSize : Nat) :
    pageSize ∣ areaData.realByteSize kernel ui32ByteSize :=
  Dvd.intro_left _ rfl

/-- `DoMapToUser` returns for a mapping of whole pages. -/
theorem doMapToUser_returns
    {table : PageTable}
    (areaData : AreaData)
    (whole : pageSize ∣ psVma.ui32ByteSize)
    (unmapped : Unmapped psVma table) :
    ∃ after mapped,
      doMapToUser kernel psVma table areaData 0 = some (after, mapped) := by
  rw [doMapToUser_root (two_pow_pos 32)]
  obtain ⟨after, mapped, returned, _⟩ :=
    @mapPages_fills kernel psVma areaData.root _ table
      (mod_lt (areaData.rootOffset + 0) (two_pow_pos 32)) whole
      unmapped
  exact ⟨after, mapped, returned⟩

/-- The structures of an area keep its size when one of them is changed. -/
theorem sized_of_update
    {changed : OffsetStruct}
    (inv : lists.Inv)
    (isArea : lists.areas psLinuxMemArea = some area)
    (isValue : lists.offsetStructs psOffsetStruct = some value)
    (sameSize : changed.ui32RealByteSize = value.ui32RealByteSize) :
    ∀ other ∈ area.sMMapOffsetStructList, ∃ entry,
      update lists.offsetStructs psOffsetStruct (some changed)
          other = some entry ∧
        entry.ui32RealByteSize = area.realByteSize := by
  intro other member
  obtain ⟨entry, isEntry, sameArea⟩ :=
    inv.listed psLinuxMemArea area isArea other member
  obtain ⟨owner, isOwner, _, size⟩ := inv.areaOf other entry isEntry
  rw [sameArea, isArea] at isOwner
  cases isOwner
  by_cases self : other = psOffsetStruct
  · subst self
    rw [isEntry] at isValue
    cases isValue
    exact ⟨changed, update_self .., sameSize.trans size⟩
  · exact ⟨entry, by rw [update_of_ne self, isEntry], size⟩

/-- A cache operation on an area whose structures have one size flushes
addresses of its range, which is no longer. -/
theorem osInvalidateCPUCacheRangeKM_within
    {psMMapOffsetStructList : List Address}
    {pvRangeAddrStart ui32Length ui32RealByteSize : Nat}
    (sized : ∀ other ∈ psMMapOffsetStructList, ∃ entry,
      lists.offsetStructs other = some entry ∧
        entry.ui32RealByteSize = ui32RealByteSize)
    (ui32PID : Nat)
    (areaData : AreaData) :
    ∃ flushes through,
      osInvalidateCPUCacheRangeKM kernel lists ui32PID
          psMMapOffsetStructList areaData pvRangeAddrStart ui32Length =
        some (flushes, through) ∧
        ∀ address ∈ flushes,
          (kernel.isVmallocAddr pvRangeAddrStart = true ∨
            ui32Length ≤ ui32RealByteSize) ∧
          address ∈ x86FlushCacheRange kernel pvRangeAddrStart
            ((pvRangeAddrStart + ui32Length) % 2 ^ 64) := by
  have live : ∀ other ∈ psMMapOffsetStructList,
      (lists.offsetStructs other).isSome = true := by
    intro other member
    obtain ⟨entry, isEntry, _⟩ := sized other member
    rw [isEntry, Option.isSome_some]
  obtain ⟨flushes, through, returned, flushed⟩ :=
    @osInvalidateCPUCacheRangeKM_flushes kernel lists psMMapOffsetStructList
      pvRangeAddrStart ui32Length live ui32PID areaData
  refine ⟨flushes, through, returned, fun address member => ?_⟩
  rcases flushed with rfl | ⟨rfl, allowed⟩
  · cases member
  · refine ⟨?_, member⟩
    rcases allowed with inVmalloc | ⟨other, among, entry, isEntry, covered⟩
    · exact .inl inVmalloc
    · obtain ⟨_, isSized, entrySize⟩ := sized other among
      rw [isEntry] at isSized
      cases isSized
      exact .inr (entrySize ▸ covered)

/-- After `DoMapToUser` has succeeded mmap succeeds, and flushes what it may
of the area. -/
theorem Inv.finishMMap_runs
    (inv : state.Inv kernel)
    (ui32PID vma : Nat)
    {pageTable : PageTable}
    (isArea : state.lists.areas value.psLinuxMemArea = some area)
    (isValue : state.lists.offsetStructs psOffsetStruct = some value)
    (size : psVma.ui32ByteSize =
      (state.areaData value.psLinuxMemArea).realByteSize kernel
        area.ui32ByteSize)
    (maps : doMapToUser kernel psVma memory.pageTable
      (state.areaData value.psLinuxMemArea) 0 = some (pageTable, true)) :
    ∃ after memoryAfter,
      MapState.finishMMap kernel
          { state with lists := state.lists.unlist psOffsetStruct value }
          ui32PID vma psVma memory pageTable psOffsetStruct value area =
        some (after, memoryAfter, some value.psLinuxMemArea, .ok ()) ∧
      (((state.lists.unlist psOffsetStruct value).setOffsetStruct
          psOffsetStruct
          { value with
            bOnMMapList := false
            ui32UserVAddr := psVma.vmStart % 2 ^ 32 }).setArea
          value.psLinuxMemArea
          { area with bNeedsCacheInvalidate := false }).mMapVOpenNoLock vma
          psOffsetStruct = some after.lists ∧
      after.areaData = state.areaData ∧
      Mapped kernel (state.areaData value.psLinuxMemArea) area psVma memory
        memoryAfter := by
  unfold MapState.finishMMap
  obtain ⟨listed, isListed⟩ : ∃ listed, listed =
      (state.lists.unlist psOffsetStruct value).setOffsetStruct
        psOffsetStruct
        { value with
          bOnMMapList := false
          ui32UserVAddr := psVma.vmStart % 2 ^ 32 } := ⟨_, rfl⟩
  obtain ⟨last, opens⟩ : ∃ last, (listed.setArea value.psLinuxMemArea
      { area with bNeedsCacheInvalidate := false }).mMapVOpenNoLock vma
      psOffsetStruct = some last := by
    rw [isListed]
    unfold MMapState.mMapVOpenNoLock
    simp only [MMapState.setArea, MMapState.setOffsetStruct,
      update_self, bind_eq_bind, bind_some]
    exact ⟨_, rfl⟩
  have sized : ∀ other ∈ area.sMMapOffsetStructList, ∃ entry,
      listed.offsetStructs other = some entry ∧
        entry.ui32RealByteSize = psVma.ui32ByteSize := by
    rw [isListed, size, ← inv.realByteSize_eq isArea]
    simp only [MMapState.unlist, MMapState.setOffsetStruct,
      Function.update_idem]
    exact sized_of_update inv.lists isArea isValue rfl
  obtain ⟨flushes, through, flush, within⟩ :=
    @osInvalidateCPUCacheRangeKM_within kernel listed area.sMMapOffsetStructList
      ((psVma.vmStart + AreaData.byteOffset kernel
        (state.areaData value.psLinuxMemArea)) % 2 ^ 64)
      area.ui32ByteSize psVma.ui32ByteSize sized ui32PID
      (state.areaData value.psLinuxMemArea)
  simp only [← isListed, opens, flush, bind_eq_bind, bind_some]
  by_cases needs : area.bNeedsCacheInvalidate = true
  · simp only [needs, if_true]
    refine ⟨_, _, rfl, rfl, rfl, size, maps, fun address member => ?_⟩
    exact (List.mem_append.mp member).imp id (within address)
  · simp only [needs, if_false, Bool.false_eq_true]
    refine ⟨_, _, rfl, rfl, rfl, size, maps, fun address member => ?_⟩
    rw [List.append_nil] at member
    exact .inl member

/-- mmap returns, and does to the lists what it does when `DoMapToUser` is an
answer. -/
theorem Inv.pvrMMap_runs
    (inv : state.Inv kernel)
    (ui32PID vma : Nat)
    (unmapped : Unmapped psVma memory.pageTable) :
    ∃ after memoryAfter found result answer,
      state.pvrMMap kernel ui32PID vma psVma memory =
          some (after, memoryAfter, found, result) ∧
        state.lists.pvrMMap ui32PID (request psVma vma answer) =
          some (after.lists, found, result) ∧
        after.areaData = state.areaData ∧
        ∀ psLinuxMemArea, found = some psLinuxMemArea → result = .ok () →
          ∃ area, state.lists.areas psLinuxMemArea = some area ∧
            Mapped kernel (state.areaData psLinuxMemArea) area psVma memory
              memoryAfter := by
  have word : psVma.ui32ByteSize % 2 ^ 32 = psVma.ui32ByteSize :=
    mod_eq_of_lt VmAreaStruct.ui32ByteSize_lt
  unfold MapState.pvrMMap MMapState.pvrMMap
  simp only [request, word]
  rcases inv.lists.find_offset (psVma.vmPgoff % 2 ^ 32) psVma.ui32ByteSize
      ui32PID with
    ⟨psOffsetStruct, value, found, isValue, waits, fits⟩ | ⟨found, _⟩
  · obtain ⟨area, isArea, _, areaSize⟩ :=
      inv.lists.areaOf psOffsetStruct value isValue
    obtain ⟨gone, _, destroys, _⟩ := inv.lists.destroyOffsetStruct isValue
      ((inv.lists.onList psOffsetStruct value isValue).mp waits)
    have unlisted := MMapState.destroyOffsetStruct_unlist isValue waits
    have size : psVma.ui32ByteSize =
        (state.areaData value.psLinuxMemArea).realByteSize kernel
          area.ui32ByteSize := by
      rw [← inv.realByteSize_eq isArea, ← areaSize]
      exact (MMapState.OffsetStruct.fits_iff.mp fits).2.1
    have whole : pageSize ∣ psVma.ui32ByteSize := by
      rw [size]
      exact pageSize_dvd_realByteSize _ _
    obtain ⟨pageTable, mapped, maps⟩ :=
      @doMapToUser_returns kernel psVma _
        (state.areaData value.psLinuxMemArea) whole unmapped
    have owned : (state.lists.unlist psOffsetStruct value).areas
        value.psLinuxMemArea = some area := isArea
    simp only [found, isValue, bind_eq_bind, bind_some]
    by_cases shareable : (psVma.vmWrite && !psVma.vmShared) = true
    · simp only [shareable, if_true, unlisted, destroys, bind_some]
      exact ⟨_, _, _, _, true, rfl, rfl, rfl,
        fun _ _ impossible => by cases impossible⟩
    · simp only [shareable, owned, bind_some, Bool.false_eq_true, if_false]
      by_cases known : (!area.knownCacheType) = true
      · simp only [known, if_true, unlisted, destroys, bind_some]
        exact ⟨_, _, _, _, true, rfl, rfl, rfl,
          fun _ _ impossible => by cases impossible⟩
      · simp only [known, maps, bind_some, Bool.false_eq_true, if_false]
        cases mapped with
        | false =>
          simp only [Bool.not_false, if_true, unlisted, destroys, bind_some]
          exact ⟨_, _, _, _, false, rfl, rfl, rfl,
            fun _ _ impossible => by cases impossible⟩
        | true =>
          obtain ⟨after, memoryAfter, returned, opens, same, isMapped⟩ :=
            inv.finishMMap_runs ui32PID vma isArea isValue size maps
          simp only [Bool.not_true, Bool.false_eq_true, if_false, returned]
          refine ⟨after, memoryAfter, _, _, true, rfl, ?_, same, ?_⟩
          · simp only [Bool.not_true, Bool.false_eq_true, if_false, opens,
              bind_some]
          · rintro _ ⟨⟩ _
            exact ⟨area, isArea, isMapped⟩
  · simp only [found, bind_eq_bind, bind_some]
    exact ⟨_, _, _, _, true, rfl, rfl, rfl,
      fun _ impossible => by cases impossible⟩

/-! ## Runs -/

/-- Areas that keep their physical address are described as before. -/
theorem Inv.of_keeps
    (inv : state.Inv kernel)
    (lists : after.lists.Inv)
    (kept : state.lists.Keeps after.lists)
    (same : after.areaData = state.areaData) :
    after.Inv kernel where
  lists := lists
  described := by
    intro psLinuxMemArea area isArea
    obtain ⟨before, isBefore, samePAddr⟩ :=
      kept.paddrs psLinuxMemArea area isArea
    rw [samePAddr, same]
    exact inv.described psLinuxMemArea before isBefore

theorem inv_init : MapState.init.Inv kernel where
  lists := MMapState.inv_init
  described := nofun

theorem Inv.step
    (inv : state.Inv kernel)
    {op : MapOp}
    (enabled : state.Enabled op)
    (stepped : state.step kernel op = some after) :
    after.Inv kernel := by
  cases op with
  | registerArea psLinuxMemArea ui32ByteSize areaData ui32AreaFlags
      bNeedsCacheInvalidate =>
    cases stepped
    refine ⟨inv.lists.registerArea enabled _ _ _ _, ?_⟩
    intro other area isArea
    simp only [MMapState.pvrMMapRegisterArea] at isArea
    by_cases self : other = psLinuxMemArea
    · subst self
      rw [update_self] at isArea
      cases isArea
      simp only [update_self]
    · rw [update_of_ne self] at isArea
      simp only [update_of_ne self]
      exact inv.described other area isArea
  | mmap ui32PID vma psVma memory =>
    obtain ⟨last, memoryAfter, found, result, answer, returned, lists, same,
      _⟩ := inv.pvrMMap_runs ui32PID vma enabled.2.2
    simp only [MapState.step, returned, Option.map_some] at stepped
    cases stepped
    obtain ⟨listsAfter, _, listsReturned, listsInv, _⟩ :=
      @MMapState.Inv.pvrMMap _ inv.lists ui32PID
        (request psVma vma answer) enabled.1 enabled.2.1
    rw [lists] at listsReturned
    cases listsReturned
    exact inv.of_keeps listsInv (.pvrMMap lists) same
  | other op isOther =>
    obtain ⟨lists, listsStepped, rfl⟩ := map_eq_some_iff.mp stepped
    obtain ⟨_, returned, listsInv, _⟩ := inv.lists.step enabled
    rw [listsStepped] at returned
    cases returned
    exact inv.of_keeps listsInv (.step isOther listsStepped) rfl

theorem Reachable.inv
    (reachable : Reachable kernel state) :
    state.Inv kernel := by
  induction reachable with
  | init => exact inv_init
  | step _ enabled stepped inv => exact inv.step enabled stepped

/-! ## When the mapping is exact -/

section Exact

variable {areaData : AreaData} {area : LinuxMemArea}
  {memory memoryAfter : UserMemory}

/-- An area that is no longer than its whole pages ends within them. -/
theorem byteOffset_add_le
    {ui32ByteSize : Nat}
    (covered : ui32ByteSize ≤ areaData.realByteSize kernel ui32ByteSize) :
    areaData.byteOffset kernel + ui32ByteSize ≤
      areaData.realByteSize kernel ui32ByteSize := by
  have inPage : areaData.byteOffset kernel < 4096 := mod_lt _ (by decide)
  unfold AreaData.realByteSize pageAlign at covered ⊢
  simp only [pageSize] at covered ⊢
  omega

/-- The frame of a page of the area, by its offset in the root. -/
theorem linuxMemAreaToCpuPFN_root
    {page : Nat}
    (within : areaData.rootOffset % 2 ^ 32 + page * pageSize < 2 ^ 32) :
    areaData.root.linuxMemAreaToCpuPFN kernel
        (areaData.rootOffset % 2 ^ 32 + page * pageSize) =
      areaData.linuxMemAreaToCpuPFN kernel (page * pageSize) := by
  have word : page * pageSize < 2 ^ 32 :=
    Nat.lt_of_le_of_lt (Nat.le_add_left _ _) within
  have offset : (areaData.rootOffset + page * pageSize) % 2 ^ 32 =
      areaData.rootOffset % 2 ^ 32 + page * pageSize := by
    rw [Nat.add_mod, mod_eq_of_lt word, mod_eq_of_lt within]
  unfold AreaData.linuxMemAreaToCpuPFN
  rw [AreaData.linuxMemAreaToCpuPAddr_root word, offset]

theorem linuxMemAreaToCpuPFN_lt_iff
    {ui32ByteOffset : Nat} :
    areaData.linuxMemAreaToCpuPFN kernel ui32ByteOffset < 2 ^ 32 ↔
      areaData.linuxMemAreaToCpuPAddr kernel ui32ByteOffset < 2 ^ 44 :=
  Nat.div_lt_iff_lt_mul (by decide)

/-- If the size reaches beyond 32-bit offsets, nothing is mapped.  Otherwise
the pages are filled with the frames of the area, cut to 32 bits. -/
theorem Mapped.fills
    (mapped : Mapped kernel areaData area psVma memory memoryAfter)
    (unmapped : Unmapped psVma memory.pageTable) :
    if areaData.rootOffset % 2 ^ 32 + psVma.ui32ByteSize < 2 ^ 32 then
      (0 < psVma.ui32ByteSize → psVma.vmStart < 2 ^ 32) ∧
        memoryAfter.pageTable = fill memory.pageTable
          (psVma.vmStart / pageSize)
          (fun page => areaData.linuxMemAreaToCpuPFN kernel
            (page * pageSize) % 2 ^ 32)
          (psVma.ui32ByteSize / pageSize)
    else memoryAfter.pageTable = memory.pageTable := by
  have whole : pageSize ∣ psVma.ui32ByteSize := by
    rw [mapped.size]
    exact pageSize_dvd_realByteSize _ _
  obtain ⟨pageTable, success, maps, fills⟩ :=
    @mapPages_fills kernel psVma areaData.root _ memory.pageTable
      (mod_lt areaData.rootOffset (two_pow_pos 32)) whole unmapped
  have returned := mapped.mapped
  rw [doMapToUser_root (two_pow_pos 32), Nat.add_zero, maps] at returned
  cases returned
  have filled := fills rfl
  by_cases reaches :
      areaData.rootOffset % 2 ^ 32 + psVma.ui32ByteSize < 2 ^ 32
  · rw [if_pos reaches] at filled ⊢
    refine ⟨filled.1, filled.2.trans ?_⟩
    rw [fill_eq_fill_iff]
    intro page within
    have before : page * pageSize < psVma.ui32ByteSize :=
      Nat.lt_of_lt_of_le (Nat.mul_lt_mul_of_pos_right within (by decide))
        (Nat.div_mul_le_self _ _)
    rw [linuxMemAreaToCpuPFN_root (by omega)]
  · rwa [if_neg reaches] at filled ⊢

/-- Pages of a mapping are numbered from that of its start. -/
theorem page_number (page : Nat) :
    (psVma.vmStart + page * pageSize) / pageSize =
      psVma.vmStart / pageSize + page :=
  Nat.add_mul_div_right _ _ (by decide)

variable (mapped : Mapped kernel areaData area psVma memory memoryAfter)
  (unmapped : Unmapped psVma memory.pageTable)
include mapped unmapped

/-- An exact mapping fits. -/
theorem Mapped.fits
    (exact : MapsExactly kernel areaData area.ui32ByteSize psVma memory
      memoryAfter) :
    Fits kernel areaData psVma := by
  have filled := mapped.fills unmapped
  have length : psVma.ui32ByteSize = psVma.vmEnd - psVma.vmStart :=
    mapped.size.trans exact.length.symm
  have whole : pageSize ∣ psVma.vmEnd - psVma.vmStart :=
    Nat.dvd_sub psVma.endAligned psVma.startAligned
  have pages : 0 < (psVma.vmEnd - psVma.vmStart) / pageSize :=
    Nat.div_pos
      (Nat.le_of_dvd (Nat.sub_pos_of_lt psVma.nonempty) whole) (by decide)
  rw [length] at filled
  by_cases reaches : areaData.rootOffset % 2 ^ 32 +
      (psVma.vmEnd - psVma.vmStart) < 2 ^ 32
  · rw [if_pos reaches] at filled
    refine ⟨reaches, fun page within => ?_⟩
    have frame := exact.frames page within
    rw [page_number, filled.2, fill_of_lt within] at frame
    rw [← linuxMemAreaToCpuPFN_lt_iff, ← Option.some.inj frame]
    exact mod_lt _ (two_pow_pos 32)
  · -- Nothing is mapped, not even at the start.
    rw [if_neg reaches] at filled
    have frame := exact.frames 0 pages
    rw [filled, Nat.zero_mul, Nat.add_zero,
      unmapped _ ⟨Nat.le_refl _, psVma.nonempty⟩] at frame
    cases frame

/-- A mapping that fits is exact. -/
theorem Mapped.mapsExactly
    (fits : Fits kernel areaData psVma) :
    MapsExactly kernel areaData area.ui32ByteSize psVma memory
      memoryAfter := by
  have reaches := fits.offsets
  have length : psVma.ui32ByteSize = psVma.vmEnd - psVma.vmStart :=
    mod_eq_of_lt (by omega)
  have filled := mapped.fills unmapped
  rw [length, if_pos reaches] at filled
  obtain ⟨low, isFill⟩ := filled
  have order := psVma.nonempty
  have start := low (Nat.sub_pos_of_lt order)
  refine ⟨length.symm.trans mapped.size, ?_, ?_, ?_⟩
  · intro page within
    rw [page_number, isFill, fill_of_lt within, mod_eq_of_lt
        (linuxMemAreaToCpuPFN_lt_iff.mpr (fits.addresses page within))]
  · intro address outside
    rw [isFill, fill_of_not]
    rintro ⟨behind, before⟩
    obtain ⟨first, isFirst⟩ := psVma.startAligned
    obtain ⟨last, isLast⟩ := psVma.endAligned
    simp only [pageSize] at behind before isFirst isLast
    exact outside ⟨by omega, by omega⟩
  · intro address member
    rcases mapped.flushes address member with old | ⟨allowed, flushed⟩
    · exact .inl old
    · right
      have inPage : areaData.byteOffset kernel < 4096 :=
        mod_lt _ (by decide)
      have isStart : (psVma.vmStart + areaData.byteOffset kernel) % 2 ^ 64 =
          psVma.vmStart + areaData.byteOffset kernel :=
        mod_eq_of_lt (by omega)
      rw [isStart] at allowed flushed
      have covered : area.ui32ByteSize ≤ psVma.ui32ByteSize := by
        rcases allowed with inVmalloc | covered
        · rw [kernel.isVmallocAddr_user _ (by omega)] at inVmalloc
          cases inVmalloc
        · exact covered
      rw [mapped.size] at covered
      have within := byteOffset_add_le covered
      rw [← mapped.size, length] at within
      have inside := mem_x86FlushCacheRange flushed
        (kernel.x86ClflushSize_dvd.trans psVma.endAligned)
        ((Nat.mod_le _ _).trans (by omega))
      exact ⟨by omega, inside.2⟩

end Exact

/-- A successful mmap maps exactly its area if the offset of the area in its
root and the length of the mapping together are less than 2^32, and its pages
lie below 2^44.  Otherwise it does not. -/
theorem pvrMMap_mapsExactly_iff
    {memory memoryAfter : UserMemory}
    {ui32PID vma : Nat}
    {psLinuxMemArea : Address}
    {area : LinuxMemArea}
    (reachable : Reachable kernel state)
    (unmapped : Unmapped psVma memory.pageTable)
    (returned : state.pvrMMap kernel ui32PID vma psVma memory =
      some (after, memoryAfter, some psLinuxMemArea, .ok ()))
    (isArea : state.lists.areas psLinuxMemArea = some area) :
    MapsExactly kernel (state.areaData psLinuxMemArea) area.ui32ByteSize
        psVma memory memoryAfter ↔
      Fits kernel (state.areaData psLinuxMemArea) psVma := by
  obtain ⟨_, _, _, _, _, runs, _, _, success⟩ :=
    reachable.inv.pvrMMap_runs ui32PID vma unmapped
  rw [returned] at runs
  cases runs
  obtain ⟨owned, isOwned, mapped⟩ := success psLinuxMemArea rfl rfl
  rw [isArea] at isOwned
  cases isOwned
  exact ⟨mapped.fits unmapped, mapped.mapsExactly unmapped⟩

/-! ## A small area and two mappings -/

/-- An insertion that fails outside the mapping and where a page has a
frame. -/
def plainInsertPage
    (psVma : VmAreaStruct) (address pfn : Nat) (table : PageTable) :
    Option PageTable :=
  if psVma.Contains address ∧ table (address / pageSize) = none then
    some (Function.update table (address / pageSize) (some pfn))
  else none

/-- An insertion that fails outside the mapping and leaves a page that has a
frame. -/
def plainInsertMixed
    (psVma : VmAreaStruct) (address pfn : Nat) (table : PageTable) :
    Option PageTable :=
  if psVma.Contains address then
    if table (address / pageSize) = none then
      some (Function.update table (address / pageSize) (some pfn))
    else some table
  else none

theorem plainInsertPage_inserts : Inserts plainInsertPage := by
  intro psVma address pfn table after inserted
  unfold plainInsertPage at inserted
  split at inserted
  · next within =>
      cases inserted
      exact ⟨within.1, fun _ => rfl⟩
  · cases inserted

theorem plainInsertMixed_inserts : Inserts plainInsertMixed := by
  intro psVma address pfn table after inserted
  unfold plainInsertMixed at inserted
  split at inserted
  · next within =>
      refine ⟨within, fun absent => ?_⟩
      rw [if_pos absent] at inserted
      exact (Option.some.inj inserted).symm
  · cases inserted

/-- A kernel with pages for 2 GiB of memory. -/
def plainKernel : Kernel where
  pfnValid pfn := pfn < 0x80000
  vmallocToPfn address := address / pageSize
  vmInsertPage := plainInsertPage
  vmfInsertMixed := plainInsertMixed
  isVmallocAddr address := 2 ^ 47 ≤ address
  x86ClflushSize := 64
  vmInsertPage_inserts := plainInsertPage_inserts
  vmfInsertMixed_inserts := plainInsertMixed_inserts
  isVmallocAddr_user address user := by
    rw [decide_eq_false_iff_not]
    exact Nat.not_le.mpr user
  x86ClflushSize_dvd := by decide

/-- A page and a half behind the first page of a list of pages. -/
def smallArea : AreaData :=
  .subAlloc (.allocPages fun index => 0x100 + 7 * index) 0x1000

/-- The state in which the area is registered. -/
def registeredState : MapState where
  lists := MMapState.init.pvrMMapRegisterArea 1 0x1800
    (smallArea.linuxMemAreaToCpuPAddr plainKernel 0) pvrsrvHapUncached true
  areaData := Function.update init.areaData 1 smallArea

/-- Process 7 has translated the handle of the area. -/
def translatedState : MapState where
  lists := (registeredState.lists.step
    (.osMemHandleToMMapData 7 5 (some 1) (some 10))).getD
      registeredState.lists
  areaData := registeredState.areaData

theorem translatedState_reachable :
    Reachable plainKernel translatedState := by
  have registered : MapState.init.step plainKernel
      (.registerArea 1 0x1800 smallArea pvrsrvHapUncached true) =
      some registeredState := rfl
  have translated : registeredState.step plainKernel
      (.other (.osMemHandleToMMapData 7 5 (some 1) (some 10)) rfl) =
      some translatedState := rfl
  refine .step (.step .init ?_ registered) ?_ translated
  · rfl
  · refine ⟨?_, ?_⟩
    · rintro _ ⟨⟩
      rfl
    · rintro _ ⟨⟩
      rfl

/-- The two pages of the area, from 0x40000000 on. -/
def wholeVma : VmAreaStruct where
  vmStart := 0x40000000
  vmEnd := 0x40002000
  vmPgoff := 0x80000005
  vmWrite := true
  vmShared := true
  nonempty := by decide
  startAligned := by decide
  endAligned := by decide
  representable := by decide

/-- 4 GiB more. -/
def longVma : VmAreaStruct where
  vmStart := 0x40000000
  vmEnd := 0x140002000
  vmPgoff := 0x80000005
  vmWrite := true
  vmShared := true
  nonempty := by decide
  startAligned := by decide
  endAligned := by decide
  representable := by decide

/-- Memory of a process without mappings. -/
def noMemory : UserMemory where
  pageTable := fun _ => none
  flushed := []

theorem pvrMMap_mapsExactly_iff_whole :
    ∃ after memoryAfter area,
      translatedState.pvrMMap plainKernel 7 20 wholeVma noMemory =
          some (after, memoryAfter, some 1, .ok ()) ∧
        (MapsExactly plainKernel (translatedState.areaData 1) area
            wholeVma noMemory memoryAfter ↔
          Fits plainKernel (translatedState.areaData 1) wholeVma) := by
  have maps : translatedState.pvrMMap plainKernel 7 20 wholeVma noMemory =
      some (_, _, some 1, .ok ()) := rfl
  have isArea : translatedState.lists.areas 1 = some _ := rfl
  exact ⟨_, _, _, maps, pvrMMap_mapsExactly_iff translatedState_reachable
    (fun _ _ => rfl) maps isArea⟩

/-- mmap of 4 GiB and two pages maps the two pages of the area, and returns
without an error. -/
theorem pvrMMap_mapsPart :
    ¬ ∀ (kernel : Kernel) (state after : MapState) (psVma : VmAreaStruct)
        (memory memoryAfter : UserMemory) (ui32PID vma : Nat)
        (psLinuxMemArea : Address) (area : LinuxMemArea),
      Reachable kernel state → Unmapped psVma memory.pageTable →
        state.pvrMMap kernel ui32PID vma psVma memory =
          some (after, memoryAfter, some psLinuxMemArea, .ok ()) →
        state.lists.areas psLinuxMemArea = some area →
        MapsExactly kernel (state.areaData psLinuxMemArea)
          area.ui32ByteSize psVma memory memoryAfter := by
  intro always
  have maps : translatedState.pvrMMap plainKernel 7 20 longVma noMemory =
      some (_, _, some 1, .ok ()) := rfl
  have isArea : translatedState.lists.areas 1 = some _ := rfl
  have exact := always _ _ _ _ _ _ _ _ _ _ translatedState_reachable
    (fun _ _ => rfl) maps isArea
  exact absurd exact.length (by decide)

end MapState

end PvrServices.MMap
