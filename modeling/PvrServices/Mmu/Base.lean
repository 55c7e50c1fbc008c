import Mathlib.Logic.Function.Iterate
import Mathlib.Data.List.Basic

/-!
# The SGX memory management unit

A memory context has a page directory, and a page table for each of its
entries that is in use.  A heap is a range of device addresses.  The page
tables of a shared heap belong to the kernel's context, and every context has
its entries for them.  Contexts and heaps are named by their addresses.
-/

namespace PvrServices.Mmu

open Function (update)

/-! ## Constants -/

/-- `SGX_MMU_PAGE_SHIFT`. -/
abbrev sgxMmuPageShift : Nat := 12

/-- `SGX_MMU_PT_SHIFT`. -/
abbrev sgxMmuPtShift : Nat := 10

/-- `SGX_MMU_PT_MASK`. -/
abbrev sgxMmuPtMask : BitVec 32 := 0x003FF000

/-- `SGX_MMU_PD_MASK`. -/
abbrev sgxMmuPdMask : BitVec 32 := 0xFFC00000

/-- `SGX_MMU_PDE_VALID`. -/
abbrev sgxMmuPdeValid : BitVec 32 := 0x00000001

/-- `SGX_MMU_PDE_ADDR_MASK`. -/
abbrev sgxMmuPdeAddrMask : BitVec 32 := 0xFFFFF000

/-- `SGX_MMU_PTE_VALID`. -/
abbrev sgxMmuPteValid : BitVec 32 := 0x00000001

/-- `UINT32_MAX_VALUE`. -/
abbrev uint32MaxValue : BitVec 32 := 0xFFFFFFFF

/-- `SGXMKIF_CC_INVAL_BIF_PT`. -/
abbrev invalBifPt : BitVec 32 := 0x1

/-- `SGXMKIF_CC_INVAL_BIF_PD`. -/
abbrev invalBifPd : BitVec 32 := 0x2

/-! ## Data -/

/-- `DEVICE_MEMORY_HEAP_TYPE`. -/
inductive DeviceMemoryHeapType where
  | perContext
  | kernel
  | shared
  | sharedExported
deriving DecidableEq, Repr

/-- `MMU_IsHeapShared`. -/
def DeviceMemoryHeapType.isShared : DeviceMemoryHeapType → Bool
  | .shared | .sharedExported => true
  | .perContext | .kernel => false

/-- `DEV_ARENA_DESCRIPTOR`. -/
structure DevArenaDescriptor where
  DevMemHeapType : DeviceMemoryHeapType
  BaseDevVAddr : BitVec 32
  ui32Size : BitVec 32
  ui32DataPageSize : BitVec 32
deriving DecidableEq, Repr

/-- The page of a page table: its address for the device, and what its CPU
address points at. -/
structure PtPage where
  devPAddr : BitVec 64
  entries : Nat → BitVec 32

/-- `MMU_PT_INFO`.  There is a page when its handle and its CPU address are
not `NULL`. -/
structure MmuPtInfo where
  page : Option PtPage
  ui32ValidPTECount : BitVec 32

/-- `MMU_HEAP`, without the count that changes. -/
structure MmuHeap where
  psMMUContext : Nat
  psDevArena : DevArenaDescriptor
  ui32PDBaseIndex : BitVec 32
  ui32PageTableCount : BitVec 32
  ui32PDEPageSizeCtrl : BitVec 32
  ui32DataPageSize : BitVec 32
  ui32DataPageMask : BitVec 32
  ui32PTShift : Nat
  ui32PTBitWidth : Nat
  ui32PTMask : BitVec 32
  ui32PTNumEntriesUsable : BitVec 32
  ui32PDShift : Nat
deriving DecidableEq, Repr

/-- The contexts of the device, its heaps, and the addresses of the pages that
hold page tables.  A context has the entries of its page directory and a list
of page tables. -/
structure MmuState where
  pvPDCpuVAddr : Nat → Nat → BitVec 32
  apsPTInfoList : Nat → Nat → Option MmuPtInfo
  pvMMUContextList : List Nat
  heaps : Nat → Option MmuHeap
  ui32PTETotalUsable : Nat → BitVec 32
  pageTables : List (BitVec 64)
  ui32CacheControl : BitVec 32

/-- What the system's allocators answer for one page table: whether there is
memory for its `MMU_PT_INFO`, and the page. -/
structure PtAllocation where
  infoAllocated : Bool
  page : Option (BitVec 64)

/-! ## Heaps -/

/-- The scale of a data page size, and the bits that tell a directory entry of
it.  Sizes above four kilobytes need `SGX_FEATURE_VARIABLE_MMU_PAGE_SIZE`, and
a build without it has the heaps of the first size only. -/
def dataPageScale (ui32DataPageSize : BitVec 32) : Option (Nat × BitVec 32) :=
  if ui32DataPageSize = 0x1000 then some (0, 0x0)
  else if ui32DataPageSize = 0x4000 then some (2, 0x2)
  else if ui32DataPageSize = 0x10000 then some (4, 0x4)
  else if ui32DataPageSize = 0x40000 then some (6, 0x6)
  else if ui32DataPageSize = 0x100000 then some (8, 0x8)
  else if ui32DataPageSize = 0x400000 then some (10, 0xA)
  else none

/-- The heap that `MMU_Create` sets up. -/
def mmuHeap
    (psMMUContext : Nat)
    (psDevArena : DevArenaDescriptor) :
    Option MmuHeap :=
  (dataPageScale psDevArena.ui32DataPageSize).map
    fun (ui32ScaleSize, ui32PDEPageSizeCtrl) =>
      let ui32PTShift := sgxMmuPageShift + ui32ScaleSize
      let ui32PTBitWidth := sgxMmuPtShift - ui32ScaleSize
      let ui32PTNumEntriesUsable := (1 : BitVec 32) <<< ui32PTBitWidth
      let ui32PTETotalUsable := psDevArena.ui32Size >>> ui32PTShift
      let ui32PDShift := ui32PTBitWidth + ui32PTShift
      { psMMUContext, psDevArena, ui32PDEPageSizeCtrl, ui32PTShift,
        ui32PTBitWidth, ui32PTNumEntriesUsable, ui32PDShift
        ui32PDBaseIndex :=
          (psDevArena.BaseDevVAddr &&& sgxMmuPdMask) >>> ui32PDShift
        ui32PageTableCount :=
          (ui32PTETotalUsable + ui32PTNumEntriesUsable - 1) >>> ui32PTBitWidth
        ui32DataPageSize := psDevArena.ui32DataPageSize
        ui32DataPageMask := psDevArena.ui32DataPageSize - 1
        ui32PTMask := sgxMmuPtMask &&& (sgxMmuPtMask <<< ui32ScaleSize) }

/-- The directory index of a device address. -/
def MmuHeap.pdIndex (heap : MmuHeap) (DevVAddr : BitVec 32) : Nat :=
  (DevVAddr >>> heap.ui32PDShift).toNat

/-- The index in its page table of a device address. -/
def MmuHeap.ptIndex (heap : MmuHeap) (DevVAddr : BitVec 32) : Nat :=
  ((DevVAddr &&& heap.ui32PTMask) >>> heap.ui32PTShift).toNat

/-- The directory entry of a page table.  The address is cut to 32 bits. -/
def MmuHeap.pdEntry (heap : MmuHeap) (sDevPAddr : BitVec 64) : BitVec 32 :=
  (sDevPAddr ||| heap.ui32PDEPageSizeCtrl.setWidth 64 |||
    sgxMmuPdeValid.setWidth 64).setWidth 32

/-! ## Directories and lists -/

/-- Write an entry of a context's page directory. -/
def MmuState.writePD
    (state : MmuState)
    (psMMUContext index : Nat)
    (entry : BitVec 32) :
    MmuState :=
  { state with
    pvPDCpuVAddr := update state.pvPDCpuVAddr psMMUContext
      (update (state.pvPDCpuVAddr psMMUContext) index entry) }

/-- Write an entry of a context's list of page tables. -/
def MmuState.setPTInfo
    (state : MmuState)
    (psMMUContext index : Nat)
    (info : Option MmuPtInfo) :
    MmuState :=
  { state with
    apsPTInfoList := update state.apsPTInfoList psMMUContext
      (update (state.apsPTInfoList psMMUContext) index info) }

/-- Write the directory entry of a heap: in every context when the heap is
shared, otherwise in its own. -/
def MmuState.writePDEntry
    (state : MmuState)
    (heap : MmuHeap)
    (index : Nat)
    (entry : BitVec 32) :
    MmuState :=
  match heap.psDevArena.DevMemHeapType with
  | .shared | .sharedExported =>
    state.pvMMUContextList.foldl
      (fun state psMMUContext => state.writePD psMMUContext index entry)
      state
  | .perContext | .kernel => state.writePD heap.psMMUContext index entry

/-- `MMU_InvalidateDirectoryCache`. -/
def mmuInvalidateDirectoryCache (state : MmuState) : MmuState :=
  { state with ui32CacheControl := state.ui32CacheControl ||| invalBifPd }

/-- `MMU_InvalidatePageTableCache`. -/
def mmuInvalidatePageTableCache (state : MmuState) : MmuState :=
  { state with ui32CacheControl := state.ui32CacheControl ||| invalBifPt }

/-! ## Allocating page tables -/

/-- One iteration of `_DeferredAllocPagetables`.  The page table's record is
made when there is none, then its page. -/
def deferredAllocPagetable
    (state : MmuState)
    (heap : MmuHeap)
    (index : Nat)
    (answer : PtAllocation) :
    MmuState × Bool :=
  match state.apsPTInfoList heap.psMMUContext index <|>
      (if answer.infoAllocated then some ⟨none, 0⟩ else none) with
  | none => (state, false)
  | some info =>
    match info.page, answer.page with
    | some _, _ => (state, true)
    | none, none =>
      (state.setPTInfo heap.psMMUContext index (some info), false)
    | none, some sDevPAddr =>
      let page : PtPage := ⟨sDevPAddr, fun _ => 0⟩
      let state := state.setPTInfo heap.psMMUContext index
        (some { info with page := some page })
      let state := { state with
        pageTables := sDevPAddr :: state.pageTables }
      (state.writePDEntry heap index (heap.pdEntry sDevPAddr), true)

/-- The loop of `_DeferredAllocPagetables`: it stops at the first failure. -/
def deferredAllocPagetablesFrom
    (state : MmuState)
    (heap : MmuHeap)
    (ui32PDIndex : Nat)
    (answers : Nat → PtAllocation) :
    Nat → MmuState × Bool
  | 0 => (state, true)
  | i + 1 =>
    match deferredAllocPagetablesFrom state heap ui32PDIndex answers i with
    | (next, true) =>
      deferredAllocPagetable next heap (ui32PDIndex + i) (answers i)
    | (next, false) => (next, false)

/-- `sHighDevVAddr` of `_DeferredAllocPagetables`. -/
def MmuHeap.highDevVAddr
    (heap : MmuHeap)
    (DevVAddr ui32Size : BitVec 32) :
    BitVec 32 :=
  let ui32Span := ui32Size + heap.ui32DataPageMask + heap.ui32PTMask
  if uint32MaxValue - DevVAddr < ui32Span then uint32MaxValue
  else DevVAddr + ui32Span

/-- The number of page tables that `_DeferredAllocPagetables` visits. -/
def MmuHeap.deferredCount
    (heap : MmuHeap)
    (DevVAddr ui32Size : BitVec 32) :
    BitVec 32 :=
  let ui32PageTableCount :=
    heap.highDevVAddr DevVAddr ui32Size >>> heap.ui32PDShift
  (if ui32PageTableCount = 0 then 1024 else ui32PageTableCount) -
    DevVAddr >>> heap.ui32PDShift

/-- `_DeferredAllocPagetables`. -/
def deferredAllocPagetables
    (state : MmuState)
    (heap : MmuHeap)
    (DevVAddr ui32Size : BitVec 32)
    (answers : Nat → PtAllocation) :
    MmuState × Bool :=
  deferredAllocPagetablesFrom state heap (heap.pdIndex DevVAddr) answers
    (heap.deferredCount DevVAddr ui32Size).toNat

/-! ## Freeing page tables -/

/-- The page table's part of `_DeferredFreePageTable`: its entries are
cleared, and its page and its record are given back. -/
def freePageTableInfo
    (state : MmuState)
    (pMMUHeap : Nat)
    (heap : MmuHeap)
    (index : Nat)
    (bOSFreePT : Bool) :
    MmuState :=
  let ui32PTETotalUsable := state.ui32PTETotalUsable pMMUHeap
  let subtract (state : MmuState) (cleared : BitVec 32) : MmuState :=
    { state with
      ui32PTETotalUsable := update state.ui32PTETotalUsable pMMUHeap
        (ui32PTETotalUsable - cleared) }
  match state.apsPTInfoList heap.psMMUContext index with
  | none => subtract state heap.ui32PTNumEntriesUsable
  | some ⟨none, _⟩ =>
    subtract (if bOSFreePT then state.setPTInfo heap.psMMUContext index none
      else state) heap.ui32PTNumEntriesUsable
  | some ⟨some page, ui32ValidPTECount⟩ =>
    let cleared := if ui32PTETotalUsable < heap.ui32PTNumEntriesUsable then
      ui32PTETotalUsable else heap.ui32PTNumEntriesUsable
    let entries := fun i => if i < cleared.toNat then 0 else page.entries i
    subtract (if bOSFreePT then
        { state.setPTInfo heap.psMMUContext index none with
          pageTables := state.pageTables.erase page.devPAddr }
      else state.setPTInfo heap.psMMUContext index
        (some ⟨some { page with entries }, ui32ValidPTECount⟩)) cleared

/-- `_DeferredFreePageTable`. -/
def deferredFreePageTable
    (state : MmuState)
    (pMMUHeap : Nat)
    (heap : MmuHeap)
    (ui32PTIndex : BitVec 32)
    (bOSFreePT : Bool) :
    MmuState :=
  let index := heap.pdIndex heap.psDevArena.BaseDevVAddr + ui32PTIndex.toNat
  let state := if bOSFreePT then state.writePDEntry heap index 0 else state
  freePageTableInfo state pMMUHeap heap index bOSFreePT

/-- The loop of `_DeferredFreePageTables`. -/
def deferredFreePageTablesUpTo
    (state : MmuState)
    (pMMUHeap : Nat)
    (heap : MmuHeap) :
    Nat → MmuState
  | 0 => state
  | i + 1 =>
    deferredFreePageTable
      (deferredFreePageTablesUpTo state pMMUHeap heap i)
      pMMUHeap heap (BitVec.ofNat 32 i) true

/-- `_DeferredFreePageTables`. -/
def deferredFreePageTables
    (state : MmuState)
    (pMMUHeap : Nat)
    (heap : MmuHeap) :
    MmuState :=
  mmuInvalidateDirectoryCache
    (deferredFreePageTablesUpTo state pMMUHeap heap
      heap.ui32PageTableCount.toNat)

/-- `ui32ValidPTECount` after the entry was invalidated. -/
def PtPage.countWithout
    (page : PtPage)
    (ui32PTIndex : Nat)
    (ui32ValidPTECount : BitVec 32) :
    BitVec 32 :=
  if page.entries ui32PTIndex &&& sgxMmuPteValid ≠ 0 then
    ui32ValidPTECount - 1
  else ui32ValidPTECount

/-- The local variables of `MMU_UnmapPagesAndFreePTs`. -/
structure UnmapCursor where
  state : MmuState
  sTmpDevVAddr : BitVec 32
  bInvalidateDirectoryCache : Bool

/-- One iteration of `MMU_UnmapPagesAndFreePTs`.  Where the page table has no
page the address does not move on. -/
def unmapPageAndFreePT
    (pMMUHeap : Nat)
    (heap : MmuHeap)
    (cursor : UnmapCursor) :
    UnmapCursor :=
  let ui32PDIndex := heap.pdIndex cursor.sTmpDevVAddr
  let ui32PTIndex := heap.ptIndex cursor.sTmpDevVAddr
  let advanced := cursor.sTmpDevVAddr + heap.ui32DataPageSize
  match cursor.state.apsPTInfoList heap.psMMUContext ui32PDIndex with
  | none => { cursor with sTmpDevVAddr := advanced }
  | some ⟨none, _⟩ => cursor
  | some ⟨some page, ui32ValidPTECount⟩ =>
    let ui32ValidPTECount := page.countWithout ui32PTIndex ui32ValidPTECount
    let page := { page with
      entries := update page.entries ui32PTIndex 0 }
    let state := cursor.state.setPTInfo heap.psMMUContext ui32PDIndex
      (some ⟨some page, ui32ValidPTECount⟩)
    if ui32ValidPTECount = 0 then
      ⟨deferredFreePageTable state pMMUHeap heap
        (cursor.sTmpDevVAddr >>> heap.ui32PDShift - heap.ui32PDBaseIndex)
        true, advanced, true⟩
    else ⟨state, advanced, cursor.bInvalidateDirectoryCache⟩

variable (state : MmuState) (pMMUHeap : Nat) (heap : MmuHeap)

/-- `MMU_UnmapPagesAndFreePTs`. -/
def mmuUnmapPagesAndFreePTs
    (sDevVAddr ui32PageCount : BitVec 32) :
    MmuState :=
  let cursor := (unmapPageAndFreePT pMMUHeap heap)^[ui32PageCount.toNat]
    ⟨state, sDevVAddr, false⟩
  if cursor.bInvalidateDirectoryCache then
    mmuInvalidateDirectoryCache cursor.state
  else mmuInvalidatePageTableCache cursor.state

/-- `MMU_FreePageTables`: the arena of a heap gives back a range. -/
def mmuFreePageTables
    (ui32Start ui32End : BitVec 32) :
    MmuState :=
  mmuUnmapPagesAndFreePTs state pMMUHeap heap ui32Start
    ((ui32End - ui32Start) >>> heap.ui32PTShift)

end PvrServices.Mmu
