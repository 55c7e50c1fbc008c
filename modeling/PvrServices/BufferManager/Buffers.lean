import Mathlib.Data.BitVec

/-!
# Buffers of a memory context

Buffers are allocated from the arena of a heap, or wrap memory that exists
already.  A buffer is kept while it is allocated, wrapped or exported.  A
wrapped contiguous buffer is in a hash table under its physical address, so
that the same memory is not wrapped twice.  A function that touches freed
memory has no value.
-/

namespace PvrServices.BufferManager

open Function (update)

/-- Address of a buffer, a mapping, an arena or an area of the OS. -/
abbrev Address : Type := Nat

/-! ## Flags -/

/-- `PVRSRV_MEM_INTERLEAVED`. -/
abbrev pvrsrvMemInterleaved : BitVec 32 := 1 <<< 4

/-- `PVRSRV_MEM_ZERO`. -/
abbrev pvrsrvMemZero : BitVec 32 := 1 <<< 7

/-- `PVRSRV_MEM_USER_SUPPLIED_DEVVADDR`. -/
abbrev pvrsrvMemUserSuppliedDevvaddr : BitVec 32 := 1 <<< 8

/-- `PVRSRV_MEM_RAM_BACKED_ALLOCATION`. -/
abbrev pvrsrvMemRamBackedAllocation : BitVec 32 := 1 <<< 9

/-- `PVRSRV_HAP_CACHETYPE_MASK`. -/
abbrev pvrsrvHapCachetypeMask : BitVec 32 := 7 <<< 12

/-- `PVRSRV_HAP_MULTI_PROCESS`. -/
abbrev pvrsrvHapMultiProcess : BitVec 32 := 1 <<< 17

/-- `PVRSRV_HAP_MAPTYPE_MASK`. -/
abbrev pvrsrvHapMaptypeMask : BitVec 32 := 31 <<< 15

/-- `PVRSRV_BACKINGSTORE_SYSMEM_NONCONTIG`. -/
abbrev pvrsrvBackingstoreSysmemNoncontig : BitVec 32 := 1 <<< 25

/-- `PVRSRV_BACKINGSTORE_LOCALMEM_CONTIG`. -/
abbrev pvrsrvBackingstoreLocalmemContig : BitVec 32 := 1 <<< 26

/-! ## Data -/

/-- `eCpuMemoryOrigin`.  Memory that was not written may hold any value. -/
inductive CpuMemoryOrigin where
  | hmWrapped
  | hmWrappedScatter
  | hmWrappedVirtaddr
  | hmWrappedScatterVirtaddr
  | hmEnv
  | hmContiguous
  | other (value : Nat)
deriving DecidableEq, Repr

namespace CpuMemoryOrigin

/-- `FreeBuf` releases the memory area of the mapping. -/
def isWrapped : CpuMemoryOrigin → Bool
  | .hmWrapped | .hmWrappedScatter | .hmWrappedVirtaddr
  | .hmWrappedScatterVirtaddr => true
  | _ => false

/-- Buffers of this origin are in the hash table. -/
def isCached : CpuMemoryOrigin → Bool
  | .hmWrapped | .hmWrappedVirtaddr => true
  | _ => false

/-- The origin `WrapMemory` gives to a mapping. -/
def ofWrap (pvCPUVAddr bPhysContig : Bool) : CpuMemoryOrigin :=
  match pvCPUVAddr, bPhysContig with
  | true, true => .hmWrappedVirtaddr
  | true, false => .hmWrappedScatterVirtaddr
  | false, true => .hmWrapped
  | false, false => .hmWrappedScatter

end CpuMemoryOrigin

/-- `BM_MAPPING`.  `pArena` is NULL in a mapping that is not of an arena. -/
structure BmMapping where
  eCpuMemoryOrigin : CpuMemoryOrigin
  pArena : Option Address
  cpuPAddr : BitVec 64
  devVAddr : BitVec 32
  uSize : BitVec 32
  hOSMemHandle : Address
deriving DecidableEq

/-- `BM_BUF`. -/
structure BmBuf where
  hOSMemHandle : Address
  cpuPAddr : BitVec 64
  devVAddr : BitVec 32
  pMapping : Address
  ui32RefCount : Nat
  ui32ExportCount : Nat
deriving DecidableEq

/-- `BM_HEAP`.  The driver creates RAM backed heaps only, and none whose
addresses its users choose. -/
structure BmHeap where
  ui32Attribs : BitVec 32
  pImportArena : Address
  ramBacked : ui32Attribs &&& pvrsrvMemRamBackedAllocation ≠ 0
  notUserSupplied : ui32Attribs &&& pvrsrvMemUserSuppliedDevvaddr = 0

/-- A segment that `RA_Alloc` has handed out, and the import it is part of. -/
structure Segment where
  pArena : Address
  base : BitVec 32
  psMapping : Address
deriving DecidableEq

/-- What a buffer is made of.  An area is a `LinuxMemArea`, and a device range
is one of `pfnMMUAlloc`. -/
inductive Resource where
  | segment (pArena : Address) (base : BitVec 32)
  | area (hOSMemHandle : Address)
  | deviceRange (devVAddr : BitVec 32)
  | mapping (pMapping : Address)
  | buf (pBuf : Address)
deriving DecidableEq

/-- The buffers of a memory context.  `pBufferHash` is a finite map, last
entry first.  The last five fields are a record of the past: the allocations,
wraps and exports that are outstanding, by buffer, the flags handed out with
it, and the resources acquired and released. -/
structure BmState where
  bufs : Address → Option BmBuf
  mappings : Address → Option BmMapping
  pBufferHash : List (BitVec 64 × Address)
  segments : List Segment
  allocations : List Address
  exports : List Address
  handedFlags : Address → BitVec 32
  acquired : List Resource
  released : List Resource

/-- What `RA_Alloc` returns, with the mapping that it has imported for it. -/
structure SegmentAnswer where
  base : BitVec 32
  psMapping : Address
  imported : Option BmMapping

/-- How the calls that `BM_Alloc` makes return.  `eCpuMemoryOrigin` is what
the memory for a mapping holds before it is written. -/
structure AllocAnswers where
  pBuf : Option Address
  segment : Option SegmentAnswer
  subHandle : Option Address
  zeroed : Bool
  mmuAlloc : Option (BitVec 32)
  pMapping : Option Address
  eCpuMemoryOrigin : CpuMemoryOrigin

/-- How the calls that `BM_Wrap` makes return. -/
structure WrapAnswers where
  pBuf : Option Address
  pMapping : Option Address
  hOSMemHandle : Option Address
  mmuAlloc : Option (BitVec 32)
  subHandle : Option Address
  zeroed : Bool
  inserted : Bool

/-! ## Arithmetic -/

/-- `HOST_PAGEALIGN`. -/
def hostPagealign (addr : BitVec 32) : BitVec 32 :=
  (addr + 4095) &&& ~~~4095

/-- One less, in 32 bits. -/
def oneLess (word : Nat) : Nat :=
  if word = 0 then 2 ^ 32 - 1 else word - 1

namespace BmState

/-! ## Changes of the state -/

/-- Change a buffer. -/
def setBuf (state : BmState) (pBuf : Address) (buf : BmBuf) : BmState :=
  { state with bufs := update state.bufs pBuf (some buf) }

/-- Change a mapping. -/
def setMapping (state : BmState) (pMapping : Address) (mapping : BmMapping) :
    BmState :=
  { state with
    mappings := update state.mappings pMapping (some mapping) }

/-- Record an acquisition. -/
def acquire (state : BmState) (resource : Resource) : BmState :=
  { state with acquired := resource :: state.acquired }

/-- Record a release. -/
def release (state : BmState) (resource : Resource) : BmState :=
  { state with released := resource :: state.released }

/-- `OSFreeMem` of a mapping. -/
def freeMapping (state : BmState) (pMapping : Address) : BmState :=
  { state with mappings := update state.mappings pMapping none }.release
    (.mapping pMapping)

/-- `OSFreeMem` of a buffer. -/
def freeBuffer (state : BmState) (pBuf : Address) : BmState :=
  { state with bufs := update state.bufs pBuf none }.release
    (.buf pBuf)

/-- `OSUnReservePhys`, `OSUnRegisterMem` and their siblings, and
`OSReleaseSubMemHandle`.  They keep an area that a process still maps. -/
def releaseArea (state : BmState) (removes : Address → Bool)
    (hOSMemHandle : Address) :
    BmState :=
  if removes hOSMemHandle then state.release (.area hOSMemHandle) else state

/-- `RA_Alloc`. -/
def raAlloc (state : BmState) (pArena : Address) (answer : SegmentAnswer) :
    BmState :=
  { state with
    segments := ⟨pArena, answer.base, answer.psMapping⟩ :: state.segments
    mappings :=
      match answer.imported with
      | none => state.mappings
      | some mapping => update state.mappings answer.psMapping (some mapping)
    acquired := .segment pArena answer.base :: state.acquired }

/-- `RA_Free`.  It frees an import with its last segment. -/
def raFree (state : BmState) (pArena : Option Address) (base : BitVec 32) :
    BmState :=
  match pArena with
  | none => state
  | some pArena =>
    match state.segments.find? fun segment =>
        segment.pArena = pArena ∧ segment.base = base with
    | none => state
    | some segment =>
      let segments := state.segments.erase segment
      { state with
        segments
        mappings :=
          if segments.any fun other =>
              other.psMapping = segment.psMapping then
            state.mappings
          else update state.mappings segment.psMapping none
        released := .segment pArena base :: state.released }

/-! ## Allocating -/

/-- The buffer of a segment, without references. -/
def segmentBuf
    (segment : SegmentAnswer) (mapping : BmMapping) (hOSMemHandle : Address) :
    BmBuf :=
  let uOffset := (segment.base - mapping.devVAddr).setWidth 64
  { hOSMemHandle
    cpuPAddr := mapping.cpuPAddr + uOffset
    devVAddr := segment.base
    pMapping := segment.psMapping
    ui32RefCount := 0
    ui32ExportCount := 0 }

/-- The first branch of `AllocMemory`. -/
def allocRamBacked
    (state : BmState) (heap : BmHeap) (uSize uFlags : BitVec 32)
    (answers : AllocAnswers) :
    Option (BmState × Option BmBuf) :=
  if uFlags &&& pvrsrvMemUserSuppliedDevvaddr ≠ 0 then some (state, none)
  else if heap.ui32Attribs &&& (pvrsrvBackingstoreSysmemNoncontig |||
      pvrsrvBackingstoreLocalmemContig) = 0 then
    some (state, none)
  else
    match answers.segment with
    | none => some (state, none)
    | some segment => do
        let state := state.raAlloc heap.pImportArena segment
        let mapping ← state.mappings segment.psMapping
        let zeroes (state : BmState) (buf : BmBuf) :
            BmState × Option BmBuf :=
          if uFlags &&& pvrsrvMemZero ≠ 0 ∧ ¬ answers.zeroed then
            (state, none)
          else
            (state.setMapping segment.psMapping
              { mapping with pArena := some heap.pImportArena },
            some buf)
        if uSize = mapping.uSize then
          some (zeroes state (segmentBuf segment mapping mapping.hOSMemHandle))
        else
          match answers.subHandle with
          | none => some (state, none)
          | some subHandle =>
            some (zeroes (state.acquire (.area subHandle))
              (segmentBuf segment mapping subHandle))

/-- The second branch of `AllocMemory`.  The result of `pfnMMUAlloc` is
ignored. -/
def allocUnbacked
    (state : BmState) (psDevVAddr : Option (BitVec 32))
    (uSize uFlags : BitVec 32) (answers : AllocAnswers) :
    Option (BmState × Option BmBuf) :=
  let map (devVAddr : BitVec 32) : Option (BmState × Option BmBuf) :=
    let state :=
      if answers.mmuAlloc.isSome then state.acquire (.deviceRange devVAddr)
      else state
    match answers.pMapping with
    | none => some (state, none)
    | some pMapping =>
      some
        ((state.acquire (.mapping pMapping)).setMapping pMapping
          { eCpuMemoryOrigin := answers.eCpuMemoryOrigin
            pArena := none
            cpuPAddr := 0
            devVAddr
            uSize
            hOSMemHandle := 0 },
        some
          { hOSMemHandle := 0
            cpuPAddr := 0
            devVAddr
            pMapping
            ui32RefCount := 0
            ui32ExportCount := 0 })
  if uFlags &&& pvrsrvMemUserSuppliedDevvaddr ≠ 0 then
    match psDevVAddr with
    | none => some (state, none)
    | some devVAddr => map devVAddr
  else map (answers.mmuAlloc.getD 0)

/-- `AllocMemory`.  `pArena` is the arena of the heap if the allocation is RAM
backed, and NULL otherwise. -/
def allocMemory
    (state : BmState) (heap : BmHeap) (psDevVAddr : Option (BitVec 32))
    (uSize uFlags : BitVec 32) (answers : AllocAnswers) :
    Option (BmState × Option BmBuf) :=
  if uFlags &&& pvrsrvMemRamBackedAllocation ≠ 0 then
    state.allocRamBacked heap uSize uFlags answers
  else state.allocUnbacked psDevVAddr uSize uFlags answers

/-- The flags `BM_Alloc` hands out. -/
def allocFlags (heap : BmHeap) (uFlags : BitVec 32) : BitVec 32 :=
  if uFlags &&& pvrsrvHapCachetypeMask ≠ 0 then
    ((uFlags ||| heap.ui32Attribs) &&& ~~~pvrsrvHapCachetypeMask) |||
      (uFlags &&& pvrsrvHapCachetypeMask)
  else uFlags ||| heap.ui32Attribs

/-- Hand out a buffer, with flags. -/
def handOut
    (state : BmState) (pBuf : Address) (buf : BmBuf) (flags : BitVec 32) :
    BmState :=
  { state.setBuf pBuf buf with
    allocations := pBuf :: state.allocations
    handedFlags := update state.handedFlags pBuf flags }

/-- `BM_Alloc`. -/
def bmAlloc
    (state : BmState) (heap : BmHeap) (psDevVAddr : Option (BitVec 32))
    (uSize uFlags : BitVec 32) (answers : AllocAnswers) :
    Option (BmState × Option (Address × BitVec 32)) :=
  match answers.pBuf with
  | none => some (state, none)
  | some pBuf => do
      let (state, allocated) ← (state.acquire (.buf pBuf)).allocMemory heap
        psDevVAddr uSize uFlags answers
      match allocated with
      | none => some (state.release (.buf pBuf), none)
      | some buf =>
        let flags := allocFlags heap uFlags
        some (state.handOut pBuf { buf with ui32RefCount := 1 } flags,
          some (pBuf, flags))

/-! ## Freeing -/

/-- `FreeBuf`.  The mapping of a buffer is cleared only where the buffer is
freed next. -/
def freeBuf
    (state : BmState) (pBuf : Address) (ui32Flags : BitVec 32)
    (bFromAllocator : Bool) (removes : Address → Bool) :
    Option BmState := do
  let buf ← state.bufs pBuf
  let last : Bool := buf.ui32ExportCount = 0 ∧ buf.ui32RefCount = 0
  let state ←
    if ui32Flags &&& pvrsrvMemUserSuppliedDevvaddr ≠ 0 then
      if last ∧ ui32Flags &&& pvrsrvMemRamBackedAllocation = 0 then do
        let _ ← state.mappings buf.pMapping
        some (state.freeMapping buf.pMapping)
      else some state
    else do
      let mapping ← state.mappings buf.pMapping
      let state :=
        if last ∧ buf.hOSMemHandle ≠ mapping.hOSMemHandle then
          state.releaseArea removes buf.hOSMemHandle
        else state
      if ui32Flags &&& pvrsrvMemRamBackedAllocation ≠ 0 then
        some (if last then state.raFree mapping.pArena buf.devVAddr else state)
      else
        let state :=
          if last ∧ mapping.eCpuMemoryOrigin.isWrapped then
            state.releaseArea removes mapping.hOSMemHandle
          else state
        let state :=
          if bFromAllocator then state.release (.deviceRange mapping.devVAddr)
          else state
        some (if last then state.freeMapping buf.pMapping else state)
  some (if last then state.freeBuffer pBuf else state)

/-- `BM_Export`. -/
def bmExport (state : BmState) (hBuf : Address) : Option BmState := do
  let buf ← state.bufs hBuf
  some
    { state.setBuf hBuf
        { buf with ui32ExportCount := (buf.ui32ExportCount + 1) % 2 ^ 32 }
      with exports := hBuf :: state.exports }

/-- `BM_FreeExport`. -/
def bmFreeExport
    (state : BmState) (hBuf : Address) (ui32Flags : BitVec 32)
    (removes : Address → Bool) :
    Option BmState := do
  let buf ← state.bufs hBuf
  let state :=
    { state.setBuf hBuf
        { buf with ui32ExportCount := oneLess buf.ui32ExportCount }
      with exports := state.exports.erase hBuf }
  state.freeBuf hBuf ui32Flags false removes

/-- `HASH_Remove`. -/
def hashRemove (state : BmState) (key : BitVec 64) : BmState :=
  { state with
    pBufferHash := state.pBufferHash.filter fun entry => entry.1 ≠ key }

/-- `BM_Free`.  Physical addresses of the CPU and of the system are the
same. -/
def bmFree
    (state : BmState) (hBuf : Address) (ui32Flags : BitVec 32)
    (removes : Address → Bool) :
    Option BmState := do
  let buf ← state.bufs hBuf
  let ui32RefCount := oneLess buf.ui32RefCount
  let state :=
    { state.setBuf hBuf { buf with ui32RefCount }
      with allocations := state.allocations.erase hBuf }
  if ui32RefCount = 0 then do
    let mapping ← state.mappings buf.pMapping
    let state :=
      if mapping.eCpuMemoryOrigin.isCached then state.hashRemove buf.cpuPAddr
      else state
    state.freeBuf hBuf ui32Flags true removes
  else some state

/-! ## Wrapping -/

/-- `WrapMemory`, with the part of `DevMemoryAlloc` that may fail.  Areas that
it has only just made are not mapped, and can be released. -/
def wrapMemory
    (state : BmState) (ui32Size ui32BaseOffset : BitVec 32)
    (bPhysContig : Bool) (sysAddr : BitVec 64) (pvCPUVAddr : Bool)
    (uFlags : BitVec 32) (answers : WrapAnswers) :
    Option (BmState × Option BmBuf) :=
  match answers.pMapping with
  | none => some (state, none)
  | some pMapping =>
    let state := state.acquire (.mapping pMapping)
    match answers.hOSMemHandle with
    | none =>
      -- the clean-up releases an area that is NULL if there is an address
      if pvCPUVAddr then none
      else some (state.release (.mapping pMapping), none)
    | some hOSMemHandle =>
      let state := state.acquire (.area hOSMemHandle)
      let cleanup (state : BmState) : BmState :=
        (state.release (.area hOSMemHandle)).release (.mapping pMapping)
      match answers.mmuAlloc with
      | none => some (cleanup state, none)
      | some devVAddr =>
        let state := state.acquire (.deviceRange devVAddr)
        let uSize := hostPagealign (ui32Size + ui32BaseOffset)
        let cpuPAddr := if bPhysContig then sysAddr else 0
        let mapping : BmMapping :=
          { eCpuMemoryOrigin := .ofWrap pvCPUVAddr bPhysContig
            pArena := none
            cpuPAddr
            devVAddr
            uSize :=
              if uFlags &&& pvrsrvMemInterleaved ≠ 0 then uSize * 2
              else uSize
            hOSMemHandle }
        let buf (hOSMemHandle : Address) : BmBuf :=
          { hOSMemHandle
            cpuPAddr := cpuPAddr + ui32BaseOffset.setWidth 64
            devVAddr := devVAddr + ui32BaseOffset
            pMapping
            ui32RefCount := 0
            ui32ExportCount := 0 }
        let zeroes (state : BmState) (buf : BmBuf) :
            BmState × Option BmBuf :=
          if uFlags &&& pvrsrvMemZero ≠ 0 ∧ ¬ answers.zeroed then
            (state, none)
          else (state.setMapping pMapping mapping, some buf)
        if ui32BaseOffset = 0 then
          some (zeroes state (buf hOSMemHandle))
        else
          match answers.subHandle with
          | none => some (cleanup state, none)
          | some subHandle =>
            some (zeroes (state.acquire (.area subHandle))
              (buf subHandle))

/-- The flags with which `BM_Wrap` wraps. -/
def wrapFlags
    (ui32Attribs : BitVec 32) (pui32Flags : Option (BitVec 32)) :
    BitVec 32 :=
  let uFlags := ui32Attribs &&&
    (pvrsrvHapCachetypeMask ||| pvrsrvHapMaptypeMask)
  match pui32Flags with
  | none => uFlags
  | some flags =>
    if flags &&& pvrsrvHapCachetypeMask ≠ 0 then
      (uFlags &&& ~~~pvrsrvHapCachetypeMask) |||
        (flags &&& pvrsrvHapCachetypeMask)
    else uFlags

/-- The part of `BM_Wrap` that makes a buffer. -/
def wrapNew
    (state : BmState) (ui32Size ui32Offset : BitVec 32) (bPhysContig : Bool)
    (sysAddr : BitVec 64) (pvCPUVAddr : Bool) (uFlags : BitVec 32)
    (answers : WrapAnswers) :
    Option (BmState × Option (Address × BitVec 32)) :=
  match answers.pBuf with
  | none => some (state, none)
  | some pBuf => do
      let (state, wrapped) ← (state.acquire (.buf pBuf)).wrapMemory ui32Size
        ui32Offset bPhysContig sysAddr pvCPUVAddr uFlags answers
      match wrapped with
      | none => some (state.release (.buf pBuf), none)
      | some buf => do
          let mapping ← state.mappings buf.pMapping
          let flags := (uFlags &&& ~~~pvrsrvHapMaptypeMask) |||
            pvrsrvHapMultiProcess
          let wrapped : BmBuf := { buf with ui32RefCount := 1 }
          if mapping.eCpuMemoryOrigin.isCached then
            if answers.inserted then
              let key := sysAddr + ui32Offset.setWidth 64
              some
                ({ state.handOut pBuf wrapped flags with
                    pBufferHash := (key, pBuf) :: state.pBufferHash },
                some (pBuf, flags))
            else do
              let state ← (state.setBuf pBuf buf).freeBuf pBuf uFlags true
                fun _ => true
              some (state, none)
          else some (state.handOut pBuf wrapped flags, some (pBuf, flags))

/-- `BM_Wrap`.  `sysAddr` is the first of the addresses of the memory. -/
def bmWrap
    (state : BmState) (heap : BmHeap) (ui32Size ui32Offset : BitVec 32)
    (bPhysContig : Bool) (sysAddr : BitVec 64) (pvCPUVAddr : Bool)
    (pui32Flags : Option (BitVec 32)) (answers : WrapAnswers) :
    Option (BmState × Option (Address × BitVec 32)) :=
  let uFlags := wrapFlags heap.ui32Attribs pui32Flags
  let key := sysAddr + ui32Offset.setWidth 64
  match state.pBufferHash.lookup key with
  | none =>
    state.wrapNew ui32Size ui32Offset bPhysContig sysAddr pvCPUVAddr uFlags
      answers
  | some pBuf => do
      let buf ← state.bufs pBuf
      let mapping ← state.mappings buf.pMapping
      if mapping.uSize = hostPagealign (ui32Size + ui32Offset) ∧
          mapping.eCpuMemoryOrigin.isCached then
        some
          ({ state.setBuf pBuf
              { buf with ui32RefCount := (buf.ui32RefCount + 1) % 2 ^ 32 }
            with allocations := pBuf :: state.allocations },
          some (pBuf, uFlags))
      else
        (state.hashRemove key).wrapNew ui32Size ui32Offset bPhysContig sysAddr
          pvCPUVAddr uFlags answers

end BmState

/-! ## Runs -/

/-- Calls of the buffer manager. -/
inductive BmOp where
  | alloc
      (heap : BmHeap) (psDevVAddr : Option (BitVec 32))
      (uSize uFlags : BitVec 32) (answers : AllocAnswers)
  | wrap
      (heap : BmHeap) (ui32Size ui32Offset : BitVec 32) (bPhysContig : Bool)
      (sysAddr : BitVec 64) (pvCPUVAddr : Bool)
      (pui32Flags : Option (BitVec 32)) (answers : WrapAnswers)
  | export (hBuf : Address)
  | freeExport
      (hBuf : Address) (ui32Flags : BitVec 32) (removes : Address → Bool)
  | free (hBuf : Address) (ui32Flags : BitVec 32) (removes : Address → Bool)

namespace BmState

/-- A new memory context. -/
def init : BmState where
  bufs := fun _ => none
  mappings := fun _ => none
  pBufferHash := []
  segments := []
  allocations := []
  exports := []
  handedFlags := fun _ => 0
  acquired := []
  released := []

/-- Perform one call. -/
def step (state : BmState) : BmOp → Option BmState
  | .alloc heap psDevVAddr uSize uFlags answers =>
    (state.bmAlloc heap psDevVAddr uSize uFlags answers).map Prod.fst
  | .wrap heap ui32Size ui32Offset bPhysContig sysAddr pvCPUVAddr pui32Flags
      answers =>
    (state.bmWrap heap ui32Size ui32Offset bPhysContig sysAddr pvCPUVAddr
      pui32Flags answers).map Prod.fst
  | .export hBuf => state.bmExport hBuf
  | .freeExport hBuf ui32Flags removes =>
    state.bmFreeExport hBuf ui32Flags removes
  | .free hBuf ui32Flags removes => state.bmFree hBuf ui32Flags removes

/-- Perform the calls of a run. -/
def run : BmState → List BmOp → Option BmState
  | state, [] => some state
  | state, op :: ops => (state.step op).bind fun after => after.run ops

end BmState

end PvrServices.BufferManager
