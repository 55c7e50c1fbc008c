import PvrServices.MMap.OffsetStructs

/-!
# Mapping an area to its process

mmap looks up the offset structure of the offset and the size it is given,
and enters the frames of its area in the page table of the process, one page
after the other.  The offsets into the area and the user addresses are 32-bit
words.  What the kernel's own functions do to the page table is a parameter.
-/

namespace PvrServices.MMap

/-! ## The kernel -/

/-- Frames of a process by the numbers of its user pages. -/
abbrev PageTable : Type := Nat → Option Nat

/-- `vm_area_struct`, as the kernel hands it to mmap: whole pages, and at
least one. -/
structure VmAreaStruct where
  vmStart : Nat
  vmEnd : Nat
  vmPgoff : Nat
  vmWrite : Bool
  vmShared : Bool
  nonempty : vmStart < vmEnd
  startAligned : pageSize ∣ vmStart
  endAligned : pageSize ∣ vmEnd
  representable : vmEnd < 2 ^ 64

namespace VmAreaStruct

/-- A user address belongs to the mapping. -/
def Contains (psVma : VmAreaStruct) (address : Nat) : Prop :=
  psVma.vmStart ≤ address ∧ address < psVma.vmEnd

instance (psVma : VmAreaStruct) (address : Nat) :
    Decidable (psVma.Contains address) :=
  inferInstanceAs (Decidable (_ ∧ _))

/-- `ui32ByteSize` of `PVRMMap` and `DoMapToUser`. -/
def ui32ByteSize (psVma : VmAreaStruct) : Nat :=
  (psVma.vmEnd - psVma.vmStart) % 2 ^ 32

end VmAreaStruct

/-- Insertion of a frame: it fails outside the mapping, and a page that had no
frame has the given one after a success. -/
def Inserts
    (insert : VmAreaStruct → Nat → Nat → PageTable → Option PageTable) :
    Prop :=
  ∀ psVma address pfn table after,
    insert psVma address pfn table = some after →
      psVma.Contains address ∧
        (table (address / pageSize) = none →
          after = Function.update table (address / pageSize) (some pfn))

/-- What `mmap.c` uses of the kernel.  `vmallocToPfn` is the frame number of
`vmalloc_to_page`. -/
structure Kernel where
  pfnValid : Nat → Bool
  vmallocToPfn : Nat → Nat
  vmInsertPage : VmAreaStruct → Nat → Nat → PageTable → Option PageTable
  vmfInsertMixed : VmAreaStruct → Nat → Nat → PageTable → Option PageTable
  isVmallocAddr : Nat → Bool
  x86ClflushSize : Nat
  vmInsertPage_inserts : Inserts vmInsertPage
  vmfInsertMixed_inserts : Inserts vmfInsertMixed
  isVmallocAddr_user : ∀ address < 2 ^ 47, isVmallocAddr address = false
  x86ClflushSize_dvd : x86ClflushSize ∣ pageSize

/-! ## Areas and their frames -/

/-- `eAreaType` with `uData`.  An array is what its memory holds by index; a
page of a list of pages is its frame number. -/
inductive AreaData where
  | ioremap (cpuPhysAddr : Nat)
  | externalKVContig (sysPhysAddr pvExternalKV : Nat)
  | externalKV (pSysPhysAddr : Nat → Nat) (pvExternalKV : Nat)
  | io (cpuPhysAddr : Nat)
  | vmalloc (pvVmallocAddress : Nat)
  | allocPages (pvPageList : Nat → Nat)
  | subAlloc (psParentLinuxMemArea : AreaData) (ui32ByteOffset : Nat)
  | unknown

/-- `VMallocToPhys`. -/
def vMallocToPhys (kernel : Kernel) (pCpuVAddr : Nat) : Nat :=
  (kernel.vmallocToPfn pCpuVAddr * pageSize + pCpuVAddr % pageSize) % 2 ^ 32

namespace AreaData

/-- `LinuxMemAreaToCpuPAddr`. -/
def linuxMemAreaToCpuPAddr (kernel : Kernel) : AreaData → Nat → Nat
  | .ioremap cpuPhysAddr, ui32ByteOffset =>
    (cpuPhysAddr + ui32ByteOffset) % 2 ^ 64
  | .externalKVContig sysPhysAddr _, ui32ByteOffset =>
    (sysPhysAddr + ui32ByteOffset) % 2 ^ 64
  | .externalKV pSysPhysAddr _, ui32ByteOffset =>
    (pSysPhysAddr (ui32ByteOffset / pageSize) +
      ui32ByteOffset % pageSize) % 2 ^ 64
  | .io cpuPhysAddr, ui32ByteOffset => (cpuPhysAddr + ui32ByteOffset) % 2 ^ 64
  | .vmalloc pvVmallocAddress, ui32ByteOffset =>
    vMallocToPhys kernel ((pvVmallocAddress + ui32ByteOffset) % 2 ^ 64)
  | .allocPages pvPageList, ui32ByteOffset =>
    (pvPageList (ui32ByteOffset / pageSize) * pageSize +
      ui32ByteOffset % pageSize) % 2 ^ 64
  | .subAlloc psParentLinuxMemArea ui32SubOffset, ui32ByteOffset =>
    psParentLinuxMemArea.linuxMemAreaToCpuPAddr kernel
      ((ui32SubOffset + ui32ByteOffset) % 2 ^ 32)
  | .unknown, _ => 0

/-- `LinuxMemAreaToCpuPFN`. -/
def linuxMemAreaToCpuPFN
    (kernel : Kernel) (areaData : AreaData) (ui32ByteOffset : Nat) : Nat :=
  areaData.linuxMemAreaToCpuPAddr kernel ui32ByteOffset / pageSize

/-- The byte offset `DetermineUsersSizeAndByteOffset` returns. -/
def byteOffset (kernel : Kernel) (areaData : AreaData) : Nat :=
  areaData.linuxMemAreaToCpuPAddr kernel 0 % pageSize

/-- The size `DetermineUsersSizeAndByteOffset` returns for an area of
`ui32ByteSize` bytes. -/
def realByteSize
    (kernel : Kernel) (areaData : AreaData) (ui32ByteSize : Nat) : Nat :=
  pageAlign ((ui32ByteSize + areaData.byteOffset kernel) % 2 ^ 32)

end AreaData

/-! ## The pages of a mapping -/

/-- Memory of a process: its page table, and the user addresses whose cache
lines have been flushed. -/
structure UserMemory where
  pageTable : PageTable
  flushed : List Nat

/-- A pass of the loops of `DoMapToUser` begins at most this often: they pass
over 2^32 bytes page by page. -/
abbrev loopBound : Nat := 2 ^ 20 + 1

/-- The first loop of `DoMapToUser`: `bMixedMap` is set if the kernel has no
page for a frame. -/
def findMixedMap
    (kernel : Kernel) (areaData : AreaData) (ui32ByteEnd : Nat) :
    Nat → Nat → Bool → Option Bool
  | 0, _, _ => none
  | bound + 1, ui32PA, bMixedMap =>
    if ui32PA < ui32ByteEnd then
      let pfn := areaData.linuxMemAreaToCpuPFN kernel ui32PA % 2 ^ 32
      findMixedMap kernel areaData ui32ByteEnd bound
        ((ui32PA + pageSize) % 2 ^ 32) (bMixedMap || !kernel.pfnValid pfn)
    else some bMixedMap

/-- The second loop of `DoMapToUser`: it inserts a page at `ulVMAPos` for each
page of the area, up to the first failure. -/
def insertPages
    (kernel : Kernel) (psVma : VmAreaStruct) (areaData : AreaData)
    (bMixedMap : Bool) (ui32ByteEnd : Nat) :
    Nat → Nat → Nat → PageTable → Option (PageTable × Bool)
  | 0, _, _, _ => none
  | bound + 1, ui32PA, ulVMAPos, table =>
    if ui32PA < ui32ByteEnd then
      let pfn := areaData.linuxMemAreaToCpuPFN kernel ui32PA % 2 ^ 32
      let inserted :=
        if bMixedMap then kernel.vmfInsertMixed psVma ulVMAPos pfn table
        else kernel.vmInsertPage psVma ulVMAPos pfn table
      match inserted with
      | none => some (table, false)
      | some table =>
        insertPages kernel psVma areaData bMixedMap ui32ByteEnd bound
          ((ui32PA + pageSize) % 2 ^ 32) ((ulVMAPos + pageSize) % 2 ^ 32)
          table
    else some (table, true)

/-- `DoMapToUser` of an area that is no sub-allocation. -/
def mapPages
    (kernel : Kernel) (psVma : VmAreaStruct) (areaData : AreaData)
    (ui32ByteOffset : Nat) (table : PageTable) :
    Option (PageTable × Bool) := do
  let ui32ByteEnd := (ui32ByteOffset + psVma.ui32ByteSize) % 2 ^ 32
  let bMixedMap ←
    findMixedMap kernel areaData ui32ByteEnd loopBound ui32ByteOffset false
  insertPages kernel psVma areaData bMixedMap ui32ByteEnd loopBound
    ui32ByteOffset (psVma.vmStart % 2 ^ 32) table

/-- `DoMapToUser`. -/
def doMapToUser
    (kernel : Kernel) (psVma : VmAreaStruct) (table : PageTable) :
    AreaData → Nat → Option (PageTable × Bool)
  | .subAlloc psParentLinuxMemArea ui32SubOffset, ui32ByteOffset =>
    doMapToUser kernel psVma table psParentLinuxMemArea
      ((ui32SubOffset + ui32ByteOffset) % 2 ^ 32)
  | areaData, ui32ByteOffset =>
    mapPages kernel psVma areaData ui32ByteOffset table

/-! ## Cache operations -/

/-- `x86_flush_cache_range`, by the addresses it flushes. -/
def x86FlushCacheRange (kernel : Kernel) (pvStart pvEnd : Nat) : List Nat :=
  let size := kernel.x86ClflushSize
  let pbEnd := (pvEnd + (size - 1)) % 2 ^ 64 / size * size
  List.range' pvStart ((pbEnd - pvStart + (size - 1)) / size) size

/-- `FindMMapBaseVAddr`. -/
def findMMapBaseVAddr
    (lists : MMapState) (ui32PID : Nat)
    (psMMapOffsetStructList : List Address)
    (pvRangeAddrStart ui32Length : Nat) :
    Option Nat := do
  let found ← lists.findOffsetStruct
    (fun value => value.ui32PID = ui32PID ∧
      value.ui32UserVAddr ≤ pvRangeAddrStart ∧
      ui32Length ≤ value.ui32RealByteSize)
    psMMapOffsetStructList
  match found with
  | none => some 0
  | some psOffsetStruct =>
    (lists.offsetStructs psOffsetStruct).map OffsetStruct.ui32UserVAddr

section Check

variable {α : Type} (kernel : Kernel) (pfnInnerCacheOp : Nat → Nat → α)
  (lists : MMapState) (ui32PID : Nat)
  (psMMapOffsetStructList : List Address)

/-- The switch of `CheckExecuteCacheOp`, for the area itself or the parent of
a sub-allocation: what `pfnInnerCacheOp` returns, if it is called, and whether
the operation is let through. -/
def executeCacheOp
    (pvRangeAddrStart ui32Length ui32AreaOffset : Nat)
    (areaData : AreaData) :
    Option (Option α × Bool) :=
  let performed : Option α × Bool :=
    (some (pfnInnerCacheOp pvRangeAddrStart
      ((pvRangeAddrStart + ui32Length) % 2 ^ 64)), true)
  let blocked : Option α × Bool := (none, false)
  let performMapped : Option (Option α × Bool) := do
    let pvMinVAddr ← findMMapBaseVAddr lists ui32PID psMMapOffsetStructList
      pvRangeAddrStart ui32Length
    some (if pvMinVAddr = 0 then blocked else performed)
  match areaData with
  | .vmalloc pvVmallocAddress =>
    if kernel.isVmallocAddr pvRangeAddrStart then
      let pvMinVAddr := (pvVmallocAddress + ui32AreaOffset) % 2 ^ 64
      some (if pvRangeAddrStart < pvMinVAddr then blocked else performed)
    else performMapped
  | .externalKVContig _ _ => some blocked
  | .externalKV _ pvExternalKV =>
    if pvExternalKV ≠ 0 then some blocked else performMapped
  | .allocPages _ => performMapped
  | _ => some (none, true)

/-- `CheckExecuteCacheOp`. -/
def checkExecuteCacheOp
    (areaData : AreaData) (pvRangeAddrStart ui32Length : Nat) :
    Option (Option α × Bool) :=
  match areaData with
  | .subAlloc psParentLinuxMemArea ui32ByteOffset =>
    executeCacheOp kernel pfnInnerCacheOp lists ui32PID
      psMMapOffsetStructList pvRangeAddrStart ui32Length ui32ByteOffset
      psParentLinuxMemArea
  | _ =>
    executeCacheOp kernel pfnInnerCacheOp lists ui32PID
      psMMapOffsetStructList pvRangeAddrStart ui32Length 0 areaData

end Check

/-- `OSInvalidateCPUCacheRangeKM`: the addresses it flushes, and whether the
operation is let through. -/
def osInvalidateCPUCacheRangeKM
    (kernel : Kernel) (lists : MMapState) (ui32PID : Nat)
    (psMMapOffsetStructList : List Address) (areaData : AreaData)
    (pvRangeAddrStart ui32Length : Nat) :
    Option (List Nat × Bool) := do
  let (flushes, through) ← checkExecuteCacheOp kernel
    (x86FlushCacheRange kernel) lists ui32PID psMMapOffsetStructList areaData
    pvRangeAddrStart ui32Length
  some (flushes.getD [], through)

/-! ## mmap -/

/-- The lists of `mmap.c`, and the type and data of each area. -/
structure MapState where
  lists : MMapState
  areaData : Address → AreaData

namespace MapState

section

variable (kernel : Kernel) (state : MapState) (ui32PID : Nat) (vma : Address)

/-- The rest of `PVRMMap` after `DoMapToUser` has succeeded. -/
def finishMMap
    (psVma : VmAreaStruct) (memory : UserMemory) (pageTable : PageTable)
    (psOffsetStruct : Address) (value : OffsetStruct) (area : LinuxMemArea) :
    Option (MapState × UserMemory × Option Address × Except MMapError Unit) :=
  do
  let psLinuxMemArea := value.psLinuxMemArea
  let areaData := state.areaData psLinuxMemArea
  let lists := state.lists.setOffsetStruct psOffsetStruct
    { value with
      bOnMMapList := false
      ui32UserVAddr := psVma.vmStart % 2 ^ 32 }
  let (flushes, _) ←
    if area.bNeedsCacheInvalidate then
      osInvalidateCPUCacheRangeKM kernel lists ui32PID
        area.sMMapOffsetStructList areaData
        ((psVma.vmStart + areaData.byteOffset kernel) % 2 ^ 64)
        area.ui32ByteSize
    else some ([], true)
  let lists := lists.setArea psLinuxMemArea
    { area with bNeedsCacheInvalidate := false }
  let lists ← lists.mMapVOpenNoLock vma psOffsetStruct
  some ({ state with lists },
    { pageTable, flushed := memory.flushed ++ flushes },
    some psLinuxMemArea, .ok ())

/-- `PVRMMap`, with the memory of the process after the call and the area of
the offset structure that it finds. -/
def pvrMMap
    (psVma : VmAreaStruct) (memory : UserMemory) :
    Option (MapState × UserMemory × Option Address × Except MMapError Unit) :=
  do
  let lists := state.lists
  let found ← lists.findOffsetStructByOffset (psVma.vmPgoff % 2 ^ 32)
    psVma.ui32ByteSize ui32PID
  match found with
  | none => some (state, memory, none, .error .noEntry)
  | some psOffsetStruct => do
      let value ← lists.offsetStructs psOffsetStruct
      let psLinuxMemArea := value.psLinuxMemArea
      let lists := lists.unlist psOffsetStruct value
      if psVma.vmWrite && !psVma.vmShared then do
        let lists ← lists.destroyOffsetStruct psOffsetStruct
        some ({ state with lists }, memory, some psLinuxMemArea,
          .error .invalidParams)
      else do
        let area ← lists.areas psLinuxMemArea
        if !area.knownCacheType then do
          let lists ← lists.destroyOffsetStruct psOffsetStruct
          some ({ state with lists }, memory, some psLinuxMemArea,
            .error .invalidParams)
        else do
          let areaData := state.areaData psLinuxMemArea
          let (pageTable, mapped) ←
            doMapToUser kernel psVma memory.pageTable areaData 0
          if !mapped then do
            let lists ← lists.destroyOffsetStruct psOffsetStruct
            some ({ state with lists }, { memory with pageTable },
              some psLinuxMemArea, .error .again)
          else do
            ({ state with lists }).finishMMap kernel ui32PID vma psVma memory
              pageTable psOffsetStruct value area

end

/-! ## Runs -/

/-- Before the first call. -/
def init : MapState where
  lists := MMapState.init
  areaData := fun _ => .unknown

end MapState

/-- The call is neither a registration nor an mmap. -/
def MMapOp.isOther : MMapOp → Bool
  | .registerArea .. => false
  | .mmap .. => false
  | _ => true

/-- Registrations with the type and data of the area, mmap with the memory of
its process, and the other calls. -/
inductive MapOp where
  | registerArea
      (psLinuxMemArea : Address) (ui32ByteSize : Nat) (areaData : AreaData)
      (ui32AreaFlags : BitVec 32) (bNeedsCacheInvalidate : Bool)
  | mmap
      (ui32PID : Nat) (vma : Address) (psVma : VmAreaStruct)
      (memory : UserMemory)
  | other (op : MMapOp) (isOther : op.isOther = true)

namespace MapState

/-- Perform one call. -/
def step (kernel : Kernel) (state : MapState) : MapOp → Option MapState
  | .registerArea psLinuxMemArea ui32ByteSize areaData ui32AreaFlags
      bNeedsCacheInvalidate =>
    some
      { lists := state.lists.pvrMMapRegisterArea psLinuxMemArea ui32ByteSize
          (areaData.linuxMemAreaToCpuPAddr kernel 0) ui32AreaFlags
          bNeedsCacheInvalidate
        areaData := Function.update state.areaData psLinuxMemArea areaData }
  | .mmap ui32PID vma psVma memory =>
    (state.pvrMMap kernel ui32PID vma psVma memory).map Prod.fst
  | .other op _ => (state.lists.step op).map fun lists => { state with lists }

end MapState

end PvrServices.MMap
