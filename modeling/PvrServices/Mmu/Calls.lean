import PvrServices.Mmu.Base

/-!
# Calls of the memory management unit

The entry points that the buffer manager calls, over the loops on page tables.
The arena of a heap is not part of the state: a call takes what it answered.
-/

namespace PvrServices.Mmu

open Function (update)

/-! ## Contexts -/

/-- `MMU_Initialise`, where there was memory for the context and its
directory. -/
def mmuInitialise (state : MmuState) (psMMUContext : Nat) : MmuState :=
  { state with
    pvPDCpuVAddr := update state.pvPDCpuVAddr psMMUContext (fun _ => 0)
    apsPTInfoList := update state.apsPTInfoList psMMUContext (fun _ => none)
    pvMMUContextList := psMMUContext :: state.pvMMUContextList }

/-- `MMU_Finalise`. -/
def mmuFinalise (state : MmuState) (psMMUContext : Nat) : MmuState :=
  { state with
    pvPDCpuVAddr := update state.pvPDCpuVAddr psMMUContext (fun _ => 0)
    pvMMUContextList := state.pvMMUContextList.erase psMMUContext }

/-- The first entries of the loop of `MMU_InsertHeap`. -/
def mmuInsertHeapUpTo
    (state : MmuState)
    (psMMUContext : Nat)
    (heap : MmuHeap) :
    Nat → MmuState
  | 0 => state
  | ui32PDEntry + 1 =>
    let state := mmuInsertHeapUpTo state psMMUContext heap ui32PDEntry
    let index := heap.pdIndex heap.psDevArena.BaseDevVAddr + ui32PDEntry
    state.writePD psMMUContext index
      (state.pvPDCpuVAddr heap.psMMUContext index)

/-- `MMU_InsertHeap`. -/
def mmuInsertHeap
    (state : MmuState)
    (psMMUContext : Nat)
    (heap : MmuHeap) :
    MmuState :=
  mmuInsertHeapUpTo state psMMUContext heap heap.ui32PageTableCount.toNat

/-- `BM_CreateContext_InsertHeap_ForEachVaCb`. -/
def bmCreateContextInsertHeap
    (state : MmuState)
    (psMMUContext : Nat)
    (heap : MmuHeap) :
    MmuState :=
  match heap.psDevArena.DevMemHeapType with
  | .shared | .sharedExported => mmuInsertHeap state psMMUContext heap
  | .perContext | .kernel => state

/-! ## Heaps -/

/-- `MMU_Create`, with the answers of the memory allocator and of
`RA_Create`.  The result says whether there is a heap. -/
def mmuCreate
    (state : MmuState)
    (pMMUHeap psMMUContext : Nat)
    (psDevArena : DevArenaDescriptor)
    (heapAllocated arenaCreated : Bool) :
    MmuState × Bool :=
  match heapAllocated, mmuHeap psMMUContext psDevArena with
  | true, some heap =>
    let state := { state with
      ui32PTETotalUsable := update state.ui32PTETotalUsable
        pMMUHeap (psDevArena.ui32Size >>> heap.ui32PTShift) }
    if arenaCreated then
      ({ state with
        heaps := update state.heaps pMMUHeap (some heap) }, true)
    else (deferredFreePageTables state pMMUHeap heap, false)
  | _, _ => (state, false)

/-- `MMU_Delete`. -/
def mmuDelete
    (state : MmuState)
    (pMMUHeap : Nat)
    (heap : MmuHeap) :
    MmuState :=
  let state := deferredFreePageTables state pMMUHeap heap
  { state with heaps := update state.heaps pMMUHeap none }

/-- The result of `MMU_Alloc` when there are page tables, or when there are
not. -/
def mmuAllocResult
    (devVAddr : BitVec 32)
    (result : MmuState × Bool) :
    MmuState × Option (BitVec 32) :=
  (result.1, if result.2 then some devVAddr else none)

/-- `MMU_Alloc`, with the address that the heap's arena answered. -/
def mmuAlloc
    (state : MmuState)
    (heap : MmuHeap)
    (uSize : BitVec 32)
    (raAlloc : Option (BitVec 32))
    (answers : Nat → PtAllocation) :
    MmuState × Option (BitVec 32) :=
  match raAlloc with
  | none => (state, none)
  | some devVAddr =>
    mmuAllocResult devVAddr
      (deferredAllocPagetables state heap devVAddr uSize answers)

/-- `MMU_Free`, where the arena gives back the range of the address: it calls
`MMU_FreePageTables` for the part that it hands on. -/
def mmuFree
    (state : MmuState)
    (pMMUHeap : Nat)
    (heap : MmuHeap)
    (DevVAddr ui32Size : BitVec 32)
    (handedOn : Option (BitVec 32 × BitVec 32)) :
    MmuState :=
  if heap.psDevArena.BaseDevVAddr ≤ DevVAddr ∧
      DevVAddr + ui32Size ≤
        heap.psDevArena.BaseDevVAddr + heap.psDevArena.ui32Size then
    match handedOn with
    | none => state
    | some (ui32Start, ui32End) =>
      mmuFreePageTables state pMMUHeap heap ui32Start ui32End
  else state

/-! ## Pages -/

/-- `SGX_MMU_PTE_WRITEONLY`. -/
abbrev sgxMmuPteWriteOnly : BitVec 32 := 0x00000002

/-- `SGX_MMU_PTE_READONLY`. -/
abbrev sgxMmuPteReadOnly : BitVec 32 := 0x00000004

/-- `SGX_MMU_PTE_CACHECONSISTENT`. -/
abbrev sgxMmuPteCacheConsistent : BitVec 32 := 0x00000008

/-- `SGX_MMU_PTE_EDMPROTECT`. -/
abbrev sgxMmuPteEdmProtect : BitVec 32 := 0x00000010

/-- `PVRSRV_MEM_READ`. -/
abbrev pvrsrvMemRead : BitVec 32 := 0x1

/-- `PVRSRV_MEM_WRITE`. -/
abbrev pvrsrvMemWrite : BitVec 32 := 0x2

/-- `PVRSRV_MEM_CACHE_CONSISTENT`. -/
abbrev pvrsrvMemCacheConsistent : BitVec 32 := 0x4

/-- `PVRSRV_MEM_EDM_PROTECT`. -/
abbrev pvrsrvMemEdmProtect : BitVec 32 := 0x40

/-- `ui32MMUFlags` of `MMU_MapPage`. -/
def mmuFlags (ui32MemFlags : BitVec 32) : BitVec 32 :=
  let has (flag : BitVec 32) : Bool := ui32MemFlags &&& flag != 0
  (if has pvrsrvMemRead && has pvrsrvMemWrite then 0
    else if has pvrsrvMemRead then sgxMmuPteReadOnly
    else if has pvrsrvMemWrite then sgxMmuPteWriteOnly
    else 0) |||
  (if has pvrsrvMemCacheConsistent then sgxMmuPteCacheConsistent else 0) |||
  (if has pvrsrvMemEdmProtect then sgxMmuPteEdmProtect else 0)

/-- The entry that `MMU_MapPage` writes.  The address is cut to 32 bits. -/
def MmuHeap.ptEntry
    (heap : MmuHeap)
    (DevPAddr : BitVec 64)
    (ui32MemFlags : BitVec 32) :
    BitVec 32 :=
  ((DevPAddr &&& (~~~heap.ui32DataPageMask).setWidth 64) |||
    sgxMmuPteValid.setWidth 64 |||
    (mmuFlags ui32MemFlags).setWidth 64).setWidth 32

/-- `MMU_MapPage`.  It has no value where the page table is missing. -/
def mmuMapPage
    (state : MmuState)
    (heap : MmuHeap)
    (DevVAddr : BitVec 32)
    (DevPAddr : BitVec 64)
    (ui32MemFlags : BitVec 32) :
    Option MmuState :=
  match state.apsPTInfoList heap.psMMUContext (heap.pdIndex DevVAddr) with
  | some ⟨some page, ui32ValidPTECount⟩ =>
    let entries := update page.entries (heap.ptIndex DevVAddr)
      (heap.ptEntry DevPAddr ui32MemFlags)
    some (state.setPTInfo heap.psMMUContext (heap.pdIndex DevVAddr)
      (some ⟨some { page with entries }, ui32ValidPTECount + 1⟩))
  | _ => none

/-- One iteration of `MMU_UnmapPages`.  It has no value where a page table has
no page. -/
def mmuUnmapPage
    (state : MmuState)
    (heap : MmuHeap)
    (sTmpDevVAddr : BitVec 32) :
    Option MmuState :=
  match state.apsPTInfoList heap.psMMUContext
    (heap.pdIndex sTmpDevVAddr) with
  | none => some state
  | some ⟨none, _⟩ => none
  | some ⟨some page, ui32ValidPTECount⟩ =>
    let ui32PTIndex := heap.ptIndex sTmpDevVAddr
    let ui32ValidPTECount := page.countWithout ui32PTIndex ui32ValidPTECount
    let entries := update page.entries ui32PTIndex 0
    some (state.setPTInfo heap.psMMUContext (heap.pdIndex sTmpDevVAddr)
      (some ⟨some { page with entries }, ui32ValidPTECount⟩))

/-- The loop of `MMU_UnmapPages`. -/
def mmuUnmapPagesUpTo
    (state : MmuState)
    (heap : MmuHeap)
    (sDevVAddr : BitVec 32) :
    Nat → Option MmuState
  | 0 => some state
  | i + 1 => do
      let state ← mmuUnmapPagesUpTo state heap sDevVAddr i
      mmuUnmapPage state heap
        (sDevVAddr + heap.ui32DataPageSize * BitVec.ofNat 32 i)

/-- `MMU_UnmapPages`. -/
def mmuUnmapPages
    (state : MmuState)
    (heap : MmuHeap)
    (sDevVAddr ui32PageCount : BitVec 32) :
    Option MmuState :=
  (mmuUnmapPagesUpTo state heap sDevVAddr ui32PageCount.toNat).map
    mmuInvalidatePageTableCache

end PvrServices.Mmu
