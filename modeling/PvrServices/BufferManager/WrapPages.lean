import PvrServices.BufferManager.Buffers
import PvrServices.Mmu.Geometry

/-!
# The pages of wrapped buffers

A wrap makes a mapping in a heap and writes the page table entries of its
device addresses.  A wrap of memory that is wrapped already finds the buffer in
the hash table, by its first address and its size, and returns it as it is.
-/

namespace PvrServices.BufferManager.WrapPages

open Function (update)

/-! ## Constants -/

/-- `PVRSRV_MEM_DUMMY`. -/
abbrev pvrsrvMemDummy : BitVec 32 := 1 <<< 5

/-- `SGX_MMU_PTE_ADDR_MASK`. -/
abbrev sgxMmuPteAddrMask : BitVec 32 := 0xFFFFF000

/-- `PVRSRV_MEM_READ | PVRSRV_MEM_WRITE`. -/
abbrev readWrite : BitVec 32 := Mmu.pvrsrvMemRead ||| Mmu.pvrsrvMemWrite

/-! ## Heaps, mappings and requests -/

/-- `BM_HEAP`, with the heap of the memory management unit behind it.  The
pages of the driver's heaps are those of the host. -/
structure DevHeap extends BmHeap where
  pMMUHeap : Mmu.MmuHeap
  placed : pMMUHeap.psDevArena.Placed
  pageSize : pMMUHeap.ui32DataPageSize = 0x1000
  pageMask : pMMUHeap.ui32DataPageMask = 0xFFF

/-- `BM_MAPPING`, with the heap it is in. -/
structure WrapMapping extends BmMapping where
  pBMHeap : DevHeap

/-- The arguments of `BM_Wrap`.  `psSysAddr` is read by index, and of
`pvCPUVAddr` it matters whether it is NULL. -/
structure WrapRequest where
  hDevMemHeap : DevHeap
  ui32Size : BitVec 32
  ui32Offset : BitVec 32
  bPhysContig : Bool
  psSysAddr : Nat → BitVec 64
  pvCPUVAddr : Bool
  pui32Flags : Option (BitVec 32)

/-- The flags with which `BM_Wrap` wraps. -/
def WrapRequest.uFlags (request : WrapRequest) : BitVec 32 :=
  BmState.wrapFlags request.hDevMemHeap.ui32Attribs request.pui32Flags

/-- `sHashAddress` of `BM_Wrap`. -/
def WrapRequest.sHashAddress (request : WrapRequest) : BitVec 64 :=
  request.psSysAddr 0 + request.ui32Offset.setWidth 64

/-- `ui32MappingSize` of `BM_Wrap`. -/
def WrapRequest.ui32MappingSize (request : WrapRequest) : BitVec 32 :=
  hostPagealign (request.ui32Size + request.ui32Offset)

/-- The buffers and mappings of a memory context, its hash table with the last
entry first, and the page table entries by number of the device page. -/
structure WrapState where
  bufs : Address → Option BmBuf
  mappings : Address → Option WrapMapping
  pBufferHash : List (BitVec 64 × Address)
  pageEntries : Nat → BitVec 32

/-- How the calls that `BM_Wrap` makes return, and the pages whose entries
`MMU_Free` clears where the new buffer is freed again. -/
structure PageAnswers extends WrapAnswers where
  cleared : Nat → Bool

namespace WrapState

/-! ## The memory management unit -/

/-- `MMU_MapPage`. -/
def mmuMapPage
    (state : WrapState) (pMMUHeap : Mmu.MmuHeap) (DevVAddr : BitVec 32)
    (DevPAddr : BitVec 64) (ui32MemFlags : BitVec 32) :
    WrapState :=
  { state with
    pageEntries := update state.pageEntries (DevVAddr.toNat / 4096)
      (pMMUHeap.ptEntry DevPAddr ui32MemFlags) }

/-- The loop of `MMU_MapScatter` and `MMU_MapPages`, over a number of
pages. -/
def mapPagesUpTo
    (state : WrapState) (pMMUHeap : Mmu.MmuHeap) (DevVAddr : BitVec 32)
    (devPAddr : Nat → BitVec 64) (ui32MemFlags : BitVec 32) :
    Nat → WrapState
  | 0 => state
  | i + 1 =>
    (state.mapPagesUpTo pMMUHeap DevVAddr devPAddr ui32MemFlags i).mmuMapPage
      pMMUHeap (DevVAddr + BitVec.ofNat 32 (i * 4096)) (devPAddr i)
      ui32MemFlags

/-- `MMU_MapScatter`.  Addresses of the system and of the device are the
same. -/
def mmuMapScatter
    (state : WrapState) (pMMUHeap : Mmu.MmuHeap) (DevVAddr : BitVec 32)
    (psSysAddr : Nat → BitVec 64) (uSize ui32MemFlags : BitVec 32) :
    WrapState :=
  state.mapPagesUpTo pMMUHeap DevVAddr psSysAddr ui32MemFlags
    ((uSize.toNat + 4095) / 4096)

/-- `MMU_MapPages`. -/
def mmuMapPages
    (state : WrapState) (pMMUHeap : Mmu.MmuHeap) (DevVAddr : BitVec 32)
    (SysPAddr : BitVec 64) (uSize ui32MemFlags : BitVec 32) :
    WrapState :=
  let ui32PAdvance := if ui32MemFlags &&& pvrsrvMemDummy ≠ 0 then 0 else 4096
  state.mapPagesUpTo pMMUHeap DevVAddr
    (fun i => SysPAddr + BitVec.ofNat 64 (i * ui32PAdvance)) ui32MemFlags
    ((uSize.toNat + 4095) / 4096)

/-- `MMU_Free`.  The arena of the heap hands on the pages to clear. -/
def mmuFree
    (state : WrapState) (pMMUHeap : Mmu.MmuHeap)
    (DevVAddr ui32Size : BitVec 32) (cleared : Nat → Bool) :
    WrapState :=
  if pMMUHeap.psDevArena.BaseDevVAddr ≤ DevVAddr ∧
      DevVAddr + ui32Size ≤
        pMMUHeap.psDevArena.BaseDevVAddr + pMMUHeap.psDevArena.ui32Size then
    { state with
      pageEntries := fun page =>
        if cleared page then 0 else state.pageEntries page }
  else state

/-! ## Changes of the state -/

/-- Store a buffer. -/
def setBuf (state : WrapState) (pBuf : Address) (buf : BmBuf) : WrapState :=
  { state with bufs := update state.bufs pBuf (some buf) }

/-- Store a mapping. -/
def setMapping
    (state : WrapState) (pMapping : Address) (mapping : WrapMapping) :
    WrapState :=
  { state with
    mappings := update state.mappings pMapping (some mapping) }

/-- `OSFreeMem` of a mapping. -/
def freeMapping (state : WrapState) (pMapping : Address) : WrapState :=
  { state with mappings := update state.mappings pMapping none }

/-- `OSFreeMem` of a buffer. -/
def freeBuffer (state : WrapState) (pBuf : Address) : WrapState :=
  { state with bufs := update state.bufs pBuf none }

/-- `HASH_Remove`. -/
def hashRemove (state : WrapState) (key : BitVec 64) : WrapState :=
  { state with
    pBufferHash := state.pBufferHash.filter fun entry => entry.1 ≠ key }

@[simp] theorem setBuf_bufs
    (state : WrapState) (address : Address) (buf : BmBuf) :
    (state.setBuf address buf).bufs =
      update state.bufs address (some buf) :=
  rfl

/-! ## Freeing -/

/-- `DevMemoryFree`. -/
def devMemoryFree
    (state : WrapState) (mapping : WrapMapping) (cleared : Nat → Bool) :
    WrapState :=
  state.mmuFree mapping.pBMHeap.pMMUHeap mapping.devVAddr mapping.uSize cleared

/-- `FreeBuf` of a wrapped buffer, called from the allocator.  The mapping is
of no arena, so that `RA_Free` does nothing.  What is held of the operating
system is left out. -/
def freeBuf
    (state : WrapState) (pBuf : Address) (ui32Flags : BitVec 32)
    (cleared : Nat → Bool) :
    Option WrapState := do
  let buf ← state.bufs pBuf
  let last : Bool := buf.ui32ExportCount = 0 ∧ buf.ui32RefCount = 0
  let state ←
    if ui32Flags &&& pvrsrvMemUserSuppliedDevvaddr ≠ 0 then
      if last ∧ ui32Flags &&& pvrsrvMemRamBackedAllocation = 0 then
        some (state.freeMapping buf.pMapping)
      else some state
    else do
      let mapping ← state.mappings buf.pMapping
      if ui32Flags &&& pvrsrvMemRamBackedAllocation ≠ 0 then some state
      else
        let state := state.devMemoryFree mapping cleared
        some (if last then state.freeMapping buf.pMapping else state)
  some (if last then state.freeBuffer pBuf else state)

/-- `BM_Free`. -/
def bmFree
    (state : WrapState) (hBuf : Address) (ui32Flags : BitVec 32)
    (cleared : Nat → Bool) :
    Option WrapState := do
  let buf ← state.bufs hBuf
  let ui32RefCount := oneLess buf.ui32RefCount
  let state := state.setBuf hBuf { buf with ui32RefCount }
  if ui32RefCount = 0 then do
    let mapping ← state.mappings buf.pMapping
    let state :=
      if mapping.eCpuMemoryOrigin.isCached then state.hashRemove buf.cpuPAddr
      else state
    state.freeBuf hBuf ui32Flags cleared
  else some state

/-! ## Wrapping -/

/-- `DevMemoryAlloc`, for the origins that a wrap gives.  It changes the
mapping it is called with. -/
def devMemoryAlloc
    (state : WrapState) (mapping : WrapMapping) (psSysAddr : Nat → BitVec 64)
    (uFlags : BitVec 32) (mmuAlloc : Option (BitVec 32)) :
    Option (WrapState × WrapMapping) :=
  let uSize :=
    if uFlags &&& pvrsrvMemInterleaved ≠ 0 then mapping.uSize * 2
    else mapping.uSize
  let pMMUHeap := mapping.pBMHeap.pMMUHeap
  match mmuAlloc, mapping.eCpuMemoryOrigin with
  | some devVAddr, .hmWrapped | some devVAddr, .hmWrappedVirtaddr =>
    some
      (state.mmuMapPages pMMUHeap devVAddr mapping.cpuPAddr uSize uFlags,
      { mapping with uSize, devVAddr })
  | some devVAddr, .hmWrappedScatter
  | some devVAddr, .hmWrappedScatterVirtaddr =>
    some
      (state.mmuMapScatter pMMUHeap devVAddr psSysAddr uSize uFlags,
      { mapping with uSize, devVAddr })
  | _, _ => none

/-- The rest of `WrapMemory`, with the mapping that `DevMemoryAlloc` has
left. -/
def wrapMapped
    (state : WrapState) (request : WrapRequest) (pMapping : Address)
    (mapping : WrapMapping) (answers : PageAnswers) :
    WrapState × Option BmBuf :=
  let buf (hOSMemHandle : Address) : BmBuf :=
    { hOSMemHandle
      cpuPAddr := mapping.cpuPAddr + request.ui32Offset.setWidth 64
      devVAddr := mapping.devVAddr + request.ui32Offset
      pMapping
      ui32RefCount := 0
      ui32ExportCount := 0 }
  let zeroes (buf : BmBuf) : WrapState × Option BmBuf :=
    if request.uFlags &&& pvrsrvMemZero ≠ 0 ∧ ¬ answers.zeroed then
      (state, none)
    else (state.setMapping pMapping mapping, some buf)
  if request.ui32Offset = 0 then zeroes (buf mapping.hOSMemHandle)
  else
    match answers.subHandle with
    | none => (state, none)
    | some subHandle => zeroes (buf subHandle)

/-- `WrapMemory`.  A mapping that is freed again has not been stored. -/
def wrapMemory
    (state : WrapState) (request : WrapRequest) (answers : PageAnswers) :
    Option (WrapState × Option BmBuf) :=
  match answers.pMapping with
  | none => some (state, none)
  | some pMapping =>
    match answers.hOSMemHandle with
    | none =>
      -- the clean-up releases an area that is NULL if there is an address
      if request.pvCPUVAddr then none else some (state, none)
    | some hOSMemHandle =>
      let mapping : WrapMapping :=
        { eCpuMemoryOrigin := .ofWrap request.pvCPUVAddr request.bPhysContig
          pArena := none
          cpuPAddr := if request.bPhysContig then request.psSysAddr 0 else 0
          devVAddr := 0
          uSize := request.ui32MappingSize
          hOSMemHandle
          pBMHeap := request.hDevMemHeap }
      match state.devMemoryAlloc mapping request.psSysAddr
          (request.uFlags ||| readWrite) answers.mmuAlloc with
      | none => some (state, none)
      | some (state, mapping) =>
        some (state.wrapMapped request pMapping mapping answers)

/-- The part of `BM_Wrap` that makes a buffer. -/
def wrapNew
    (state : WrapState) (request : WrapRequest) (answers : PageAnswers) :
    Option (WrapState × Option Address) :=
  match answers.pBuf with
  | none => some (state, none)
  | some pBuf => do
      let (state, wrapped) ← state.wrapMemory request answers
      match wrapped with
      | none => some (state, none)
      | some buf => do
          let mapping ← state.mappings buf.pMapping
          let done := state.setBuf pBuf { buf with ui32RefCount := 1 }
          if mapping.eCpuMemoryOrigin.isCached then
            if answers.inserted then
              some
                ({ done with
                    pBufferHash :=
                      (request.sHashAddress, pBuf) :: state.pBufferHash },
                some pBuf)
            else do
              let state ← (state.setBuf pBuf buf).freeBuf pBuf request.uFlags
                answers.cleared
              some (state, none)
          else some (done, some pBuf)

/-- `BM_Wrap`.  The flags that it hands out are left out. -/
def bmWrap
    (state : WrapState) (request : WrapRequest) (answers : PageAnswers) :
    Option (WrapState × Option Address) :=
  match state.pBufferHash.lookup request.sHashAddress with
  | none => state.wrapNew request answers
  | some pBuf => do
      let buf ← state.bufs pBuf
      let mapping ← state.mappings buf.pMapping
      if mapping.uSize = request.ui32MappingSize ∧
          mapping.eCpuMemoryOrigin.isCached then
        some
          (state.setBuf pBuf
            { buf with ui32RefCount := (buf.ui32RefCount + 1) % 2 ^ 32 },
          some pBuf)
      else (state.hashRemove request.sHashAddress).wrapNew request answers

end WrapState

/-! ## Runs -/

/-- Calls of `BM_Wrap` and `BM_Free`. -/
inductive WrapCall where
  | wrap (request : WrapRequest) (answers : PageAnswers)
  | free (hBuf : Address) (ui32Flags : BitVec 32) (cleared : Nat → Bool)

/-- A page of the device belongs to a mapping. -/
def WrapMapping.Covers (mapping : WrapMapping) (page : Nat) : Prop :=
  mapping.devVAddr.toNat / 4096 ≤ page ∧
    page < mapping.devVAddr.toNat / 4096 + mapping.uSize.toNat / 4096

namespace WrapState

/-- The mapping of a buffer. -/
def mappingOf (state : WrapState) (pBuf : Address) : Option WrapMapping :=
  (state.bufs pBuf).bind fun buf => state.mappings buf.pMapping

/-- Perform one call. -/
def perform (state : WrapState) : WrapCall → Option WrapState
  | .wrap request answers => (state.bmWrap request answers).map Prod.fst
  | .free hBuf ui32Flags cleared => state.bmFree hBuf ui32Flags cleared

/-- What the allocators promise to a wrap: memory that is not in use, and a
range of whole pages inside the heap with no page of a live mapping.  Where
the new buffer is freed again, `MMU_Free` clears no page of another one. -/
structure WrapAllowed
    (state : WrapState) (request : WrapRequest) (answers : PageAnswers) :
    Prop where
  pBuf : ∀ pBuf, answers.pBuf = some pBuf → state.bufs pBuf = none
  pMapping : ∀ pMapping, answers.pMapping = some pMapping →
    state.mappings pMapping = none
  aligned : ∀ devVAddr, answers.mmuAlloc = some devVAddr →
    devVAddr.toNat % 4096 = 0
  contained : ∀ devVAddr, answers.mmuAlloc = some devVAddr →
    request.hDevMemHeap.pMMUHeap.psDevArena.Contains devVAddr.toNat
      (devVAddr.toNat + request.ui32MappingSize.toNat)
  unused : ∀ devVAddr, answers.mmuAlloc = some devVAddr →
    ∀ pBuf mapping, state.mappingOf pBuf = some mapping →
      ∀ i < request.ui32MappingSize.toNat / 4096,
        ¬ mapping.Covers (devVAddr.toNat / 4096 + i)
  kept : ∀ pBuf mapping, state.mappingOf pBuf = some mapping →
    ∀ page, mapping.Covers page → answers.cleared page = false

/-- What is promised to a call.  Freeing a buffer clears no page of another
one. -/
def Allowed (state : WrapState) : WrapCall → Prop
  | .wrap request answers => state.WrapAllowed request answers
  | .free hBuf _ cleared => ∀ pBuf mapping, pBuf ≠ hBuf →
      state.mappingOf pBuf = some mapping →
        ∀ page, mapping.Covers page → cleared page = false

/-- States of a memory context in which wrapped buffers come and go, from one
without any on. -/
inductive Reachable : WrapState → Prop where
  | new (pageEntries : Nat → BitVec 32) :
      Reachable ⟨fun _ => none, fun _ => none, [], pageEntries⟩
  | step {state after : WrapState} {call : WrapCall} :
      Reachable state → state.Allowed call → state.perform call = some after →
        Reachable after

end WrapState

end PvrServices.BufferManager.WrapPages
