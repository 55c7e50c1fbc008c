import PvrServices.BufferManager.WrapPages
import PvrServices.BufferManager.XProc

/-!
# What a failing creation gives back

Buffers are made in steps, each of which acquires something: memory for the
structures, an area of the operating system, a shared allocation, a segment of
an arena, a range of device addresses.  Where a step fails, the labels at the
end of the functions give back what the steps before it have acquired, or what
they are meant to.  The buffers and mappings are only read here; what a
creation writes to them is a matter of the runs of all buffers.
-/

namespace PvrServices.BufferManager.Creation

open WrapPages (pvrsrvMemDummy)
open XProc (pvrsrvMemXProc)

/-! ## Heaps and what is held -/

/-- What the functions read of a `BM_HEAP` and of its import arena. -/
structure Heap where
  ui32Attribs : BitVec 32
  ui32DataPageSize : BitVec 32
  uQuantum : BitVec 32

/-- `PVRSRV_BACKINGSTORE_SYSMEM_NONCONTIG` of the heap. -/
def Heap.noncontig (heap : Heap) : Bool :=
  heap.ui32Attribs &&& pvrsrvBackingstoreSysmemNoncontig != 0

/-- `PVRSRV_BACKINGSTORE_LOCALMEM_CONTIG` of the heap. -/
def Heap.localmem (heap : Heap) : Bool :=
  heap.ui32Attribs &&& pvrsrvBackingstoreLocalmemContig != 0

/-- What a creation acquires.  An area is a `LinuxMemArea`, a share one more
use of memory shared between processes, and a span a part of the import
arena. -/
inductive Resource where
  | buf (pBuf : Address)
  | mapping (pMapping : Address)
  | area (hOSMemHandle : Address)
  | subArea (hOSMemHandle : Address)
  | share (hOSMemHandle : Address)
  | localSegment (sSysPAddr : BitVec 64)
  | deviceRange (devVAddr : BitVec 32)
  | segment (base : BitVec 32)
  | span (base : BitVec 32)
deriving DecidableEq

/-- What is held, by all buffers, the last one first, with the hash table of
wrapped buffers and the structures its entries lead to. -/
structure State where
  held : List Resource
  pBufferHash : List (BitVec 64 × Address)
  bufs : Address → Option BmBuf
  mappings : Address → Option BmMapping

namespace State

/-- Acquire something. -/
def acquire (state : State) (resource : Resource) : State :=
  { state with held := resource :: state.held }

/-- Give something back. -/
def release (state : State) (resource : Resource) : State :=
  { state with held := state.held.erase resource }

end State

/-! ## Importing memory -/

/-- How `XProcWorkaroundAllocShareable` returns: with a handle, or with an
error.  From the local arena it may keep a segment when it fails. -/
inductive ShareAnswer where
  | shared (hOSMemHandle : Address)
  | refused
  | keptSegment (sSysPAddr : BitVec 64)

/-- How the calls that `BM_ImportMemory` makes return.  `OSReservePhys`
answers a handle, and whether there is an address of the CPU.  `shareFound`
says whether `XProcWorkaroundFreeShareable` finds the handle. -/
structure ImportAnswers where
  pMapping : Option Address
  shareNoncontig : ShareAnswer
  shareLocal : ShareAnswer
  shareFound : Bool
  osAllocPages : Option Address
  raAllocLocal : Option (BitVec 64)
  osReservePhys : Option (Bool × Address)
  mmuAlloc : Option (BitVec 32)

/-- The fields of a `BM_MAPPING` that say what it is made of.  `memory` is
`none` where neither the address nor the handle is set. -/
structure Backing where
  memory : Option (Bool × Address)
  sSysPAddr : BitVec 64

/-- How far `BM_ImportMemory` gets before it asks for device addresses. -/
inductive Obtained where
  | backing (backing : Backing)
  | failMappingAlloc
  | failDevMemAlloc (backing : Backing)

/-- A mapping that has been imported. -/
structure Imported where
  pMapping : Address
  backing : Backing
  uSize : BitVec 32
  devVAddr : BitVec 32

namespace State

/-- `XProcWorkaroundAllocShareable`, with an arena or without. -/
def allocShareable (state : State) (psArena : Bool) (answer : ShareAnswer) :
    State × Option Address :=
  match answer with
  | .shared hOSMemHandle =>
    (state.acquire (.share hOSMemHandle), some hOSMemHandle)
  | .refused => (state, none)
  | .keptSegment sSysPAddr =>
    (if psArena then state.acquire (.localSegment sSysPAddr) else state, none)

/-- `XProcWorkaroundFreeShareable`. -/
def freeShareable (state : State) (hOSMemHandle : Address) (found : Bool) :
    State :=
  if found then state.release (.share hOSMemHandle) else state

/-- `uPSize` is not made of whole pages for a backing store in pages. -/
def splitsNoncontig (heap : Heap) (uPSize : BitVec 32) : Bool :=
  uPSize % (if 0x1000 < heap.ui32DataPageSize then heap.ui32DataPageSize
    else 0x1000) != 0

/-- `uPSize` is not made of whole pages of the heap. -/
def splitsLocal (heap : Heap) (uPSize : BitVec 32) : Bool :=
  uPSize % heap.ui32DataPageSize != 0

/-- The part of `BM_ImportMemory` for memory shared between processes.  Where
the heap has both backing stores, the second handle replaces the first. -/
def obtainShared
    (state : State) (heap : Heap) (uPSize : BitVec 32)
    (answers : ImportAnswers) :
    State × Obtained :=
  let second (state : State) (memory : Option (Bool × Address)) :
      State × Obtained :=
    if heap.localmem then
      if splitsLocal heap uPSize then (state, .failMappingAlloc)
      else
        match state.allocShareable true answers.shareLocal with
        | (state, none) => (state, .failMappingAlloc)
        | (state, some hOSMemHandle) =>
          (state, .backing ⟨some (true, hOSMemHandle), 0⟩)
    else
      match memory with
      | none => (state, .failMappingAlloc)
      | some memory => (state, .backing ⟨some memory, 0⟩)
  if heap.noncontig then
    if splitsNoncontig heap uPSize then (state, .failMappingAlloc)
    else
      match state.allocShareable false answers.shareNoncontig with
      | (state, none) => (state, .failMappingAlloc)
      | (state, some hOSMemHandle) => second state (some (true, hOSMemHandle))
  else second state none

/-- The part of `BM_ImportMemory` that obtains the memory. -/
def obtain
    (state : State) (heap : Heap) (uPSize uFlags : BitVec 32)
    (answers : ImportAnswers) :
    State × Obtained :=
  if uFlags &&& pvrsrvMemXProc ≠ 0 then
    state.obtainShared heap uPSize answers
  else if heap.noncontig then
    match answers.osAllocPages with
    | none => (state, .failMappingAlloc)
    | some hOSMemHandle =>
      (state.acquire (.area hOSMemHandle),
      .backing ⟨some (true, hOSMemHandle), 0⟩)
  else if heap.localmem then
    match answers.raAllocLocal with
    | none => (state, .failMappingAlloc)
    | some sSysPAddr =>
      let state := state.acquire (.localSegment sSysPAddr)
      match answers.osReservePhys with
      | none => (state, .failDevMemAlloc ⟨none, sSysPAddr⟩)
      | some (CpuVAddr, hOSMemHandle) =>
        (state.acquire (.area hOSMemHandle),
        .backing ⟨some (CpuVAddr, hOSMemHandle), sSysPAddr⟩)
  else (state, .failMappingAlloc)

/-- What `BM_ImportMemory` gives back at `fail_dev_mem_alloc`: nothing where
the mapping has neither an address nor a handle. -/
def failDevMemAlloc
    (state : State) (heap : Heap) (uFlags : BitVec 32) (backing : Backing)
    (shareFound : Bool) :
    State :=
  match backing.memory with
  | none => state
  | some (CpuVAddr, hOSMemHandle) =>
    if uFlags &&& pvrsrvMemXProc ≠ 0 then
      state.freeShareable hOSMemHandle shareFound
    else if heap.noncontig then state.release (.area hOSMemHandle)
    else
      let state :=
        if CpuVAddr then state.release (.area hOSMemHandle) else state
      state.release (.localSegment backing.sSysPAddr)

/-- `BM_ImportMemory`. -/
def importMemory
    (state : State) (heap : Heap) (uRequestSize uFlags : BitVec 32)
    (answers : ImportAnswers) :
    State × Option Imported :=
  let uSize := hostPagealign uRequestSize
  match answers.pMapping with
  | none => (state, none)
  | some pMapping =>
    let state := state.acquire (.mapping pMapping)
    let uPSize :=
      if uFlags &&& pvrsrvMemDummy ≠ 0 then heap.ui32DataPageSize else uSize
    match state.obtain heap uPSize uFlags answers with
    | (state, .failMappingAlloc) => (state.release (.mapping pMapping), none)
    | (state, .failDevMemAlloc backing) =>
      ((state.failDevMemAlloc heap uFlags backing
        answers.shareFound).release (.mapping pMapping), none)
    | (state, .backing backing) =>
      match answers.mmuAlloc with
      | none =>
        ((state.failDevMemAlloc heap uFlags backing
          answers.shareFound).release (.mapping pMapping), none)
      | some devVAddr =>
        (state.acquire (.deviceRange devVAddr),
        some
          { pMapping
            backing
            uSize :=
              if uFlags &&& pvrsrvMemInterleaved ≠ 0 then uSize * 2
              else uSize
            devVAddr })

/-- `BM_FreeMemory`, of memory that has just been imported. -/
def freeMemory
    (state : State) (heap : Heap) (uFlags : BitVec 32) (imported : Imported)
    (shareFound : Bool) :
    State :=
  let state := state.release (.deviceRange imported.devVAddr)
  let state :=
    match imported.backing.memory with
    | none => state
    | some (_, hOSMemHandle) =>
      if uFlags &&& pvrsrvMemXProc ≠ 0 then
        state.freeShareable hOSMemHandle shareFound
      else if heap.noncontig then state.release (.area hOSMemHandle)
      else if heap.localmem then
        (state.release (.area hOSMemHandle)).release
          (.localSegment imported.backing.sSysPAddr)
      else state
  state.release (.mapping imported.pMapping)

end State

/-! ## Allocating -/

/-- How the steps of `RA_Alloc` end: the first attempt, with the size of the
mapping of its segment, the import, the insertion of the span, and the second
attempt. -/
structure RaAnswers where
  first : Option (BitVec 32 × BitVec 32)
  imports : ImportAnswers
  inserted : Bool
  second : Option (BitVec 32)

/-- How the calls that `BM_Alloc` makes return.  `mmuAlloc` is the address
where `pfnMMUAlloc` chooses one and finds it. -/
structure CallAnswers where
  pBuf : Option Address
  segment : RaAnswers
  subHandle : Option Address
  zeroed : Bool
  mmuAlloc : Option (BitVec 32)
  pMapping : Option Address

/-- The arguments of `BM_Alloc`. -/
structure AllocCall where
  hDevMemHeap : Heap
  psDevVAddr : Option (BitVec 32)
  uSize : BitVec 32
  pui32Flags : Option (BitVec 32)
  uDevVAddrAlignment : BitVec 32

/-- `uImportSize` of `RA_Alloc`. -/
def importSize (heap : Heap) (uSize uAlignment : BitVec 32) : BitVec 32 :=
  let uImportSize :=
    if heap.uQuantum < uAlignment then uSize + (uAlignment - 1) else uSize
  (uImportSize + heap.uQuantum - 1) / heap.uQuantum * heap.uQuantum

namespace State

/-- `RA_Alloc` of the import arena of a heap: the base of the segment, and the
size of its mapping. -/
def raAlloc
    (state : State) (heap : Heap) (uSize uFlags uAlignment : BitVec 32)
    (answers : RaAnswers) :
    State × Option (BitVec 32 × BitVec 32) :=
  match answers.first with
  | some (base, uMappingSize) =>
    (state.acquire (.segment base), some (base, uMappingSize))
  | none =>
    match state.importMemory heap (importSize heap uSize uAlignment) uFlags
        answers.imports with
    | (state, none) => (state, none)
    | (state, some imported) =>
      if ¬ answers.inserted then
        (state.freeMemory heap uFlags imported answers.imports.shareFound,
        none)
      else
        let state := state.acquire (.span imported.devVAddr)
        match answers.second with
        | none => (state, none)
        | some base =>
          (state.acquire (.segment base), some (base, imported.uSize))

/-- The first branch of `AllocMemory`. -/
def allocRamBacked
    (state : State) (heap : Heap) (uSize uFlags uDevVAddrAlignment : BitVec 32)
    (answers : CallAnswers) :
    State × Bool :=
  if uFlags &&& pvrsrvMemUserSuppliedDevvaddr ≠ 0 then (state, false)
  else if ¬ heap.noncontig ∧ ¬ heap.localmem then (state, false)
  else
    match state.raAlloc heap uSize uFlags uDevVAddrAlignment
        answers.segment with
    | (state, none) => (state, false)
    | (state, some (_, uMappingSize)) =>
      let zeroes (state : State) : State × Bool :=
        (state, uFlags &&& pvrsrvMemZero = 0 ∨ answers.zeroed)
      if uSize = uMappingSize then zeroes state
      else
        match answers.subHandle with
        | none => (state, false)
        | some subHandle => zeroes (state.acquire (.subArea subHandle))

/-- The second branch of `AllocMemory`.  The result of `pfnMMUAlloc` is
ignored, and it takes no range where the address is given. -/
def allocUnbacked
    (state : State) (psDevVAddr : Option (BitVec 32)) (uFlags : BitVec 32)
    (answers : CallAnswers) :
    State × Bool :=
  let map (state : State) : State × Bool :=
    match answers.pMapping with
    | none => (state, false)
    | some pMapping => (state.acquire (.mapping pMapping), true)
  if uFlags &&& pvrsrvMemUserSuppliedDevvaddr ≠ 0 then
    match psDevVAddr with
    | none => (state, false)
    | some _ => map state
  else
    match answers.mmuAlloc with
    | none => map state
    | some devVAddr => map (state.acquire (.deviceRange devVAddr))

/-- `AllocMemory`. -/
def allocMemory
    (state : State) (call : AllocCall)
    (uFlags uDevVAddrAlignment : BitVec 32) (answers : CallAnswers) :
    State × Bool :=
  if uFlags &&& pvrsrvMemRamBackedAllocation ≠ 0 then
    state.allocRamBacked call.hDevMemHeap call.uSize uFlags uDevVAddrAlignment
      answers
  else state.allocUnbacked call.psDevVAddr uFlags answers

/-- `BM_Alloc`. -/
def bmAlloc (state : State) (call : AllocCall) (answers : CallAnswers) :
    State × Option Address :=
  match call.pui32Flags, answers.pBuf with
  | some uFlags, some pBuf =>
    let uDevVAddrAlignment :=
      if call.uDevVAddrAlignment = 0 then 1 else call.uDevVAddrAlignment
    match (state.acquire (.buf pBuf)).allocMemory call uFlags
        uDevVAddrAlignment answers with
    | (state, false) => (state.release (.buf pBuf), none)
    | (state, true) => (state, some pBuf)
  | _, _ => (state, none)

end State

/-! ## Wrapping -/

/-- The arguments of `BM_Wrap`.  Of `psSysAddr` the first address is read
here, and of `pvCPUVAddr` it matters whether it is NULL. -/
structure WrapCall where
  hDevMemHeap : Heap
  ui32Size : BitVec 32
  ui32Offset : BitVec 32
  bPhysContig : Bool
  sysAddr : BitVec 64
  pvCPUVAddr : Bool
  pui32Flags : Option (BitVec 32)

/-- `uFlags` of `BM_Wrap`. -/
def WrapCall.uFlags (call : WrapCall) : BitVec 32 :=
  BmState.wrapFlags call.hDevMemHeap.ui32Attribs call.pui32Flags

/-- `sHashAddress` of `BM_Wrap`. -/
def WrapCall.sHashAddress (call : WrapCall) : BitVec 64 :=
  call.sysAddr + call.ui32Offset.setWidth 64

/-- `PVRSRV_HAP_KERNEL_ONLY`. -/
abbrev pvrsrvHapKernelOnly : BitVec 32 := 1 <<< 15

/-- `PVRSRV_HAP_SINGLE_PROCESS`. -/
abbrev pvrsrvHapSingleProcess : BitVec 32 := 1 <<< 16

/-- The functions that make and release areas know the type of mapping. -/
def knownMapType (uFlags : BitVec 32) : Bool :=
  let mapType := uFlags &&& pvrsrvHapMaptypeMask
  mapType == pvrsrvHapKernelOnly || mapType == pvrsrvHapSingleProcess ||
    mapType == pvrsrvHapMultiProcess

/-- The area that `OSReservePhys`, `OSRegisterMem` and their siblings make:
none for a type of mapping that they do not know. -/
def WrapCall.area (call : WrapCall) (answers : WrapAnswers) : Option Address :=
  if knownMapType call.uFlags then answers.hOSMemHandle else none

namespace State

/-- `HASH_Remove`. -/
def hashRemove (state : State) (key : BitVec 64) : State :=
  { state with
    pBufferHash := state.pBufferHash.filter fun entry => entry.1 ≠ key }

/-- `WrapMemory`, with `DevMemoryAlloc`.  It is `none` where the clean-up
releases an area that is NULL: the mapping then has an address of the CPU, and
the release knows the type of mapping. -/
def wrapMemory (state : State) (call : WrapCall) (answers : WrapAnswers) :
    Option (State × Bool) :=
  match answers.pMapping with
  | none => some (state, false)
  | some pMapping =>
    let state := state.acquire (.mapping pMapping)
    match call.area answers with
    | none =>
      if call.pvCPUVAddr ∧ knownMapType call.uFlags then none
      else some (state.release (.mapping pMapping), false)
    | some hOSMemHandle =>
      let state := state.acquire (.area hOSMemHandle)
      let cleanup (state : State) : State :=
        (state.release (.area hOSMemHandle)).release (.mapping pMapping)
      match answers.mmuAlloc with
      | none => some (cleanup state, false)
      | some devVAddr =>
        let state := state.acquire (.deviceRange devVAddr)
        let zeroed : Bool := call.uFlags &&& pvrsrvMemZero = 0 ∨ answers.zeroed
        if call.ui32Offset = 0 then some (state, zeroed)
        else
          match answers.subHandle with
          | none => some (cleanup state, false)
          | some subHandle => some (state.acquire (.subArea subHandle), zeroed)

/-- Give something back, if it is there. -/
def releaseSome (state : State) (resource : Option Resource) : State :=
  match resource with
  | none => state
  | some resource => state.release resource

/-- `FreeBuf` of a buffer that has just been wrapped, with what `WrapMemory`
has acquired for it. -/
def freeWrapped
    (state : State) (call : WrapCall) (pBuf : Address)
    (answers : WrapAnswers) :
    State :=
  let parts :=
    if call.ui32Offset = 0 then state
    else state.releaseSome (answers.subHandle.map .subArea)
  (((parts.releaseSome ((call.area answers).map .area)).releaseSome
    (answers.mmuAlloc.map .deviceRange)).releaseSome
      (answers.pMapping.map .mapping)).release (.buf pBuf)

/-- The part of `BM_Wrap` that makes a buffer. -/
def wrapNew (state : State) (call : WrapCall) (answers : WrapAnswers) :
    Option (State × Option Address) :=
  match answers.pBuf with
  | none => some (state, none)
  | some pBuf => do
      let (state, wrapped) ← (state.acquire (.buf pBuf)).wrapMemory call answers
      if ¬ wrapped then some (state.release (.buf pBuf), none)
      else if ¬ call.bPhysContig then some (state, some pBuf)
      else if answers.inserted then
        some
          ({ state with
              pBufferHash := (call.sHashAddress, pBuf) :: state.pBufferHash },
          some pBuf)
      else some (state.freeWrapped call pBuf answers, none)

/-- `BM_Wrap`. -/
def bmWrap (state : State) (call : WrapCall) (answers : WrapAnswers) :
    Option (State × Option Address) :=
  match state.pBufferHash.lookup call.sHashAddress with
  | none => state.wrapNew call answers
  | some pBuf => do
      let buf ← state.bufs pBuf
      let mapping ← state.mappings buf.pMapping
      if mapping.uSize = hostPagealign (call.ui32Size + call.ui32Offset) ∧
          mapping.eCpuMemoryOrigin.isCached then
        some (state, some pBuf)
      else (state.hashRemove call.sHashAddress).wrapNew call answers

end State

/-- A creation of a buffer, with the way its calls return. -/
inductive CreateCall where
  | alloc (call : AllocCall) (answers : CallAnswers)
  | wrap (call : WrapCall) (answers : WrapAnswers)

/-- Perform a creation.  It has no value where it touches memory that is not
there. -/
def CreateCall.perform (state : State) :
    CreateCall → Option (State × Option Address)
  | alloc call answers => some (state.bmAlloc call answers)
  | wrap call answers => state.bmWrap call answers

end PvrServices.BufferManager.Creation
