import PvrServices.BufferManager.Buffers
import PvrServices.Resman.Base

/-!
# Making device memory

Device memory is a mem info with a buffer, and with a sync info unless it is
asked for without one.  It is allocated, wrapped around memory that is there
already, or mapped from other device memory, and then registered as a resource
of the process.  A function that fails on the way gives back what it has
acquired at the labels at its end.
-/

namespace PvrServices.DeviceMem

open BufferManager (Address pvrsrvHapCachetypeMask)
open Resman
  (PvrsrvError pvrsrvOk pvrsrvErrorOutOfMemory pvrsrvErrorInvalidParams)

/-! ## Constants -/

/-- `PVRSRV_ERROR_BAD_MAPPING`. -/
abbrev pvrsrvErrorBadMapping : PvrsrvError := 8

/-- `PVRSRV_ERROR_UNABLE_TO_FIND_MAPPING_HEAP`. -/
abbrev pvrsrvErrorUnableToFindMappingHeap : PvrsrvError := 81

/-- `PVRSRV_MEM_NO_SYNCOBJ`. -/
abbrev pvrsrvMemNoSyncobj : BitVec 32 := 1 <<< 3

/-- `PVRSRV_MEM_NO_RESMAN`. -/
abbrev pvrsrvMemNoResman : BitVec 32 := 1 <<< 10

/-! ## What is held -/

/-- What the functions acquire.  Buffers, exports of buffers, and references
of mem infos and sync infos are held once for each time they are counted. -/
inductive Resource where
  | memInfo (psMemInfo : Address)
  | syncInfo (psKernelSyncInfo : Address)
  | mapData (psMapData : Address)
  | addressArray (psSysPAddr : Address)
  | physPages (hOSWrapMem : Address)
  | buffer (hBuffer : Address)
  | bufferExport (hBuffer : Address)
  | memInfoRef (psMemInfo : Address)
  | syncInfoRef (psKernelSyncInfo : Address)
  | resItem (hResItem : Address)
deriving DecidableEq

/-- What a function has written through the pointer of its caller. -/
inductive Output where
  | unwritten
  | null
  | memInfo (psMemInfo : Address)
deriving DecidableEq

/-- What is held, the last one first, with what a call has given back so far
and what it has written through the pointer of its caller. -/
structure State where
  held : List Resource
  released : List Resource
  output : Output

namespace State

/-- The state in which a call begins. -/
def start (held : List Resource) : State :=
  ⟨held, [], .unwritten⟩

/-- Acquire something. -/
def acquire (state : State) (resource : Resource) : State :=
  { state with held := resource :: state.held }

/-- Give something back. -/
def release (state : State) (resource : Resource) : State :=
  { state with
    held := state.held.erase resource
    released := resource :: state.released }

/-- Acquire something, if it is there. -/
def acquireSome (state : State) (resource : Option Resource) : State :=
  match resource with
  | none => state
  | some resource => state.acquire resource

/-- Give something back, if it is there. -/
def releaseSome (state : State) (resource : Option Resource) : State :=
  match resource with
  | none => state
  | some resource => state.release resource

end State

/-! ## Mem infos and sync infos -/

/-- How the calls that make a mem info return: `OSAllocMem`, and `BM_Alloc` or
`BM_Wrap`. -/
structure MemAnswers where
  psMemInfo : Option Address
  hBuffer : Option Address

/-- How the calls that `PVRSRVAllocSyncInfoKM` makes return. -/
structure SyncAnswers where
  psKernelSyncInfo : Option Address
  syncData : MemAnswers

/-- A `PVRSRV_KERNEL_MEM_INFO` with the buffer in it. -/
structure MemInfo where
  psMemInfo : Address
  hBuffer : Address

namespace State

/-- `AllocDeviceMem`.  It runs out of memory, or makes a mem info. -/
def allocDeviceMem (state : State) (answers : MemAnswers) :
    State × Option MemInfo :=
  match answers.psMemInfo with
  | none => (state, none)
  | some psMemInfo =>
    let state := state.acquire (.memInfo psMemInfo)
    match answers.hBuffer with
    | none => (state.release (.memInfo psMemInfo), none)
    | some hBuffer =>
      (state.acquire (.buffer hBuffer), some { psMemInfo, hBuffer })

/-- `FreeDeviceMem`, of a mem info that has no backup of its memory. -/
def freeDeviceMem (state : State) (memInfo : MemInfo) : State :=
  (state.release (.buffer memInfo.hBuffer)).release (.memInfo memInfo.psMemInfo)

/-- `PVRSRVAllocSyncInfoKM`.  It runs out of memory, or makes a sync info
without references. -/
def allocSyncInfoKM (state : State) (answers : SyncAnswers) :
    State × Option Address :=
  match answers.psKernelSyncInfo with
  | none => (state, none)
  | some psKernelSyncInfo =>
    match (state.acquire (.syncInfo psKernelSyncInfo)).allocDeviceMem
        answers.syncData with
    | (state, none) => (state.release (.syncInfo psKernelSyncInfo), none)
    | (state, some _) => (state, some psKernelSyncInfo)

end State

/-! ## Allocating -/

/-- The arguments of `_PVRSRVAllocDeviceMemKM`. -/
structure AllocCall where
  hDevMemHeap : Option Address
  ui32Flags : BitVec 32
  ui32Size : BitVec 32
  ui32Alignment : BitVec 32

/-- How the calls that `_PVRSRVAllocDeviceMemKM` and `PVRSRVWrapExtMemoryKM`
make return, the last one of them `ResManRegisterRes`. -/
structure MakeAnswers where
  memInfo : MemAnswers
  syncInfo : SyncAnswers
  hResItem : Option Address

/-- `_PVRSRVAllocDeviceMemKM` takes the arguments. -/
def AllocCall.Accepted (call : AllocCall) : Prop :=
  call.hDevMemHeap ≠ none ∧ call.ui32Size ≠ 0 ∧
    (call.ui32Flags &&& pvrsrvHapCachetypeMask ≠ 0 →
      call.ui32Size % 0x1000 = 0 ∧ call.ui32Alignment % 0x1000 = 0)

instance (call : AllocCall) : Decidable call.Accepted :=
  inferInstanceAs (Decidable (_ ∧ _))

namespace State

/-- The end of `_PVRSRVAllocDeviceMemKM`, from where the mem info is written
through the pointer. -/
def registerAllocation
    (state : State) (ui32Flags : BitVec 32) (memInfo : MemInfo)
    (hResItem : Option Address) :
    State × PvrsrvError :=
  let state := { state with output := .memInfo memInfo.psMemInfo }
  if ui32Flags &&& pvrsrvMemNoResman ≠ 0 then
    (state.acquire (.memInfoRef memInfo.psMemInfo), pvrsrvOk)
  else
    match hResItem with
    | none => (state.freeDeviceMem memInfo, pvrsrvErrorOutOfMemory)
    | some hResItem =>
      ((state.acquire (.resItem hResItem)).acquire
        (.memInfoRef memInfo.psMemInfo), pvrsrvOk)

/-- `_PVRSRVAllocDeviceMemKM`. -/
def allocDeviceMemKM
    (state : State) (call : AllocCall) (answers : MakeAnswers) :
    State × PvrsrvError :=
  if ¬ call.Accepted then (state, pvrsrvErrorInvalidParams)
  else
    match state.allocDeviceMem answers.memInfo with
    | (state, none) => (state, pvrsrvErrorOutOfMemory)
    | (state, some memInfo) =>
      if call.ui32Flags &&& pvrsrvMemNoSyncobj ≠ 0 then
        state.registerAllocation call.ui32Flags memInfo answers.hResItem
      else
        match state.allocSyncInfoKM answers.syncInfo with
        | (state, none) =>
          (state.freeDeviceMem memInfo, pvrsrvErrorOutOfMemory)
        | (state, some psKernelSyncInfo) =>
          (state.acquire (.syncInfoRef psKernelSyncInfo)).registerAllocation
            call.ui32Flags memInfo answers.hResItem

end State

/-! ## Wrapping -/

/-- What is read of a `DEVICE_MEMORY_HEAP_INFO`. -/
structure HeapInfo where
  ui32HeapID : BitVec 32
  perContext : Bool
  ui32HeapSize : BitVec 32
  hDevMemHeap : Option Address

/-- The arguments of `PVRSRVWrapExtMemoryKM` that decide what it does, with
the table of heaps of the device.  Of `hDevCookie` and `pvLinAddr` it matters
whether they are NULL. -/
structure WrapCall where
  hDevCookie : Bool
  psDeviceMemoryHeap : List HeapInfo
  ui32MappingHeapID : BitVec 32
  pvLinAddr : Bool

/-- The heap that the loop of `PVRSRVWrapExtMemoryKM` finds.  The context
keeps a heap that `BM_CreateHeap` makes for it. -/
def WrapCall.mappingHeap
    (call : WrapCall) (bmCreateHeap : Option Address) : Option Address :=
  match (call.psDeviceMemoryHeap.take 32).find? fun info =>
      info.ui32HeapID &&& 0xFFFFFF == call.ui32MappingHeapID with
  | none => none
  | some info =>
    if info.perContext then
      if 0 < info.ui32HeapSize then bmCreateHeap else none
    else info.hDevMemHeap

/-- How the calls that `PVRSRVWrapExtMemoryKM` makes return. -/
structure WrapAnswers extends MakeAnswers where
  psIntSysPAddr : Option Address
  hOSWrapMem : Option Address
  bmCreateHeap : Option Address

/-- The array of page addresses that `PVRSRVWrapExtMemoryKM` has made, with
the pages. -/
structure AcquiredPages where
  psIntSysPAddr : Address
  hOSWrapMem : Address

namespace State

/-- `ErrorExitPhase2` of `PVRSRVWrapExtMemoryKM`, and what follows. -/
def errorExitPhase2 (state : State) (pages : Option AcquiredPages) : State :=
  match pages with
  | none => state
  | some pages =>
    (state.release (.physPages pages.hOSWrapMem)).release
      (.addressArray pages.psIntSysPAddr)

/-- `PVRSRVWrapExtMemoryKM`, from the search for the heap on.  The result of
`ResManRegisterRes` is not looked at. -/
def wrapPages
    (state : State) (call : WrapCall) (answers : WrapAnswers)
    (pages : Option AcquiredPages) :
    State × PvrsrvError :=
  match call.mappingHeap answers.bmCreateHeap with
  | none => (state.errorExitPhase2 pages, pvrsrvErrorUnableToFindMappingHeap)
  | some _ =>
    match answers.memInfo.psMemInfo with
    | none => (state.errorExitPhase2 pages, pvrsrvErrorOutOfMemory)
    | some psMemInfo =>
      let state := state.acquire (.memInfo psMemInfo)
      match answers.memInfo.hBuffer with
      | none =>
        ((state.release (.memInfo psMemInfo)).errorExitPhase2 pages,
        pvrsrvErrorBadMapping)
      | some hBuffer =>
        match (state.acquire (.buffer hBuffer)).allocSyncInfoKM
            answers.syncInfo with
        | (state, none) =>
          ((state.freeDeviceMem { psMemInfo, hBuffer }).errorExitPhase2
            pages, pvrsrvErrorOutOfMemory)
        | (state, some psKernelSyncInfo) =>
          let state :=
            ((state.acquire (.syncInfoRef psKernelSyncInfo)).acquire
              (.memInfoRef psMemInfo)).acquireSome
                (answers.hResItem.map .resItem)
          ({ state with output := .memInfo psMemInfo }, pvrsrvOk)

/-- `PVRSRVWrapExtMemoryKM`. -/
def wrapExtMemoryKM
    (state : State) (call : WrapCall) (answers : WrapAnswers) :
    State × PvrsrvError :=
  if ¬ call.hDevCookie then (state, pvrsrvErrorInvalidParams)
  else if ¬ call.pvLinAddr then state.wrapPages call answers none
  else
    match answers.psIntSysPAddr with
    | none => (state, pvrsrvErrorOutOfMemory)
    | some psIntSysPAddr =>
      let state := state.acquire (.addressArray psIntSysPAddr)
      match answers.hOSWrapMem with
      | none =>
        (state.release (.addressArray psIntSysPAddr),
        pvrsrvErrorOutOfMemory)
      | some hOSWrapMem =>
        (state.acquire (.physPages hOSWrapMem)).wrapPages call answers
          (some { psIntSysPAddr, hOSWrapMem })

end State

/-! ## Mapping -/

/-- What is read of the mem info that is mapped. -/
structure SrcMemInfo where
  psSrcMemInfo : Address
  hBuffer : Address
  psKernelSyncInfo : Option Address

/-- The arguments of `PVRSRVMapDeviceMemoryKM`.  Of `ppsDstMemInfo` it matters
whether it is NULL. -/
structure MapCall where
  psSrcMemInfo : Option SrcMemInfo
  hDstDevMemHeap : Option Address
  ppsDstMemInfo : Bool

/-- How the calls that `PVRSRVMapDeviceMemoryKM` makes return. -/
structure MapAnswers where
  psSysPAddr : Option Address
  psMapData : Option Address
  memInfo : MemAnswers
  hResItem : Option Address

namespace State

/-- `ErrorExit` of `PVRSRVMapDeviceMemoryKM`. -/
def errorExit
    (state : State) (psSysPAddr : Address) (psMemInfo psMapData : Option Address) :
    State :=
  ((state.release (.addressArray psSysPAddr)).releaseSome
    (psMemInfo.map .memInfo)).releaseSome (psMapData.map .mapData)

/-- `PVRSRVMapDeviceMemoryKM`, with arguments that are not NULL.  The result
of `ResManRegisterRes` is not looked at. -/
def mapSource
    (state : State) (src : SrcMemInfo) (answers : MapAnswers) :
    State × PvrsrvError :=
  match answers.psSysPAddr with
  | none => (state, pvrsrvErrorOutOfMemory)
  | some psSysPAddr =>
    let state := state.acquire (.addressArray psSysPAddr)
    match answers.psMapData with
    | none => (state.errorExit psSysPAddr none none, pvrsrvErrorOutOfMemory)
    | some psMapData =>
      let state := state.acquire (.mapData psMapData)
      match answers.memInfo.psMemInfo with
      | none =>
        (state.errorExit psSysPAddr none (some psMapData),
        pvrsrvErrorOutOfMemory)
      | some psMemInfo =>
        let state := state.acquire (.memInfo psMemInfo)
        match answers.memInfo.hBuffer with
        | none =>
          (state.errorExit psSysPAddr (some psMemInfo)
            (some psMapData), pvrsrvErrorBadMapping)
        | some hBuffer =>
          let state :=
            (state.acquire (.buffer hBuffer)).acquireSome
              (src.psKernelSyncInfo.map .syncInfoRef)
          let state :=
            ((state.acquire (.memInfoRef psMemInfo)).acquire
              (.memInfoRef src.psSrcMemInfo)).acquire
                (.bufferExport src.hBuffer)
          ({ state.acquireSome (answers.hResItem.map .resItem) with
            output := .memInfo psMemInfo }, pvrsrvOk)

/-- `PVRSRVMapDeviceMemoryKM`. -/
def mapDeviceMemoryKM
    (state : State) (call : MapCall) (answers : MapAnswers) :
    State × PvrsrvError :=
  match call.psSrcMemInfo, call.hDstDevMemHeap, call.ppsDstMemInfo with
  | some src, some _, true =>
    { state with output := .null }.mapSource src answers
  | _, _, _ => (state, pvrsrvErrorInvalidParams)

end State

/-! ## Calls -/

/-- A call that makes device memory, with the way its own calls return. -/
inductive MakeCall where
  | alloc (call : AllocCall) (answers : MakeAnswers)
  | wrap (call : WrapCall) (answers : WrapAnswers)
  | map (call : MapCall) (answers : MapAnswers)

/-- Perform a call, with what is held before. -/
def MakeCall.perform (held : List Resource) : MakeCall → State × PvrsrvError
  | alloc call answers => (State.start held).allocDeviceMemKM call answers
  | wrap call answers => (State.start held).wrapExtMemoryKM call answers
  | map call answers => (State.start held).mapDeviceMemoryKM call answers

end PvrServices.DeviceMem
