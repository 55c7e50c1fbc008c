import PvrServices.Mmu.Geometry

/-!
# What a call does to page tables

Of the state, coherence reads the entries of the directories and the addresses
of the page tables.  A call either keeps both, or changes the page table of
one heap at one index and writes the entries for it.
-/

namespace PvrServices.Mmu

open DeviceMemoryHeapType (isShared)

/-! ## Views -/

/-- The address of the page table that a context has at an index. -/
def MmuState.pageAt
    (state : MmuState)
    (psMMUContext index : Nat) :
    Option (BitVec 64) :=
  (state.apsPTInfoList psMMUContext index).bind
    fun info => info.page.map PtPage.devPAddr

/-- The directory of a context is written for a heap. -/
def MmuHeap.Reaches
    (heap : MmuHeap)
    (contexts : List Nat)
    (psMMUContext : Nat) :
    Prop :=
  if heap.psDevArena.DevMemHeapType.isShared then psMMUContext ∈ contexts
  else psMMUContext = heap.psMMUContext

instance
    (heap : MmuHeap)
    (contexts : List Nat)
    (psMMUContext : Nat) :
    Decidable (heap.Reaches contexts psMMUContext) :=
  inferInstanceAs (Decidable
    (if heap.psDevArena.DevMemHeapType.isShared then psMMUContext ∈ contexts
      else psMMUContext = heap.psMMUContext))

/-- The directory entry for a page table that may be missing. -/
def MmuHeap.entryOf (heap : MmuHeap) : Option (BitVec 64) → BitVec 32
  | none => 0
  | some sDevPAddr => heap.pdEntry sDevPAddr

variable {heap : MmuHeap} {contexts : List Nat} {next state : MmuState}
  {answers : Nat → PtAllocation} {count psMMUContext index : Nat}
  {arena : DevArenaDescriptor} {sDevVAddr DevVAddr : BitVec 32}
  {answer : PtAllocation}

/-- A heap is written in its own context. -/
theorem MmuHeap.reaches_own
    (listed : heap.psMMUContext ∈ contexts) :
    heap.Reaches contexts heap.psMMUContext := by
  unfold MmuHeap.Reaches
  split_ifs
  · exact listed
  · rfl

/-- A heap that is not shared is written in its own context only. -/
theorem MmuHeap.Reaches.eq_own
    (reached : heap.Reaches contexts psMMUContext)
    (unshared : heap.psDevArena.DevMemHeapType.isShared = false) :
    psMMUContext = heap.psMMUContext := by
  rwa [MmuHeap.Reaches, unshared, if_neg (by decide)] at reached

/-- A heap that is shared is written in every context. -/
theorem MmuHeap.reaches_of_shared
    (shared : heap.psDevArena.DevMemHeapType.isShared = true)
    (listed : psMMUContext ∈ contexts) :
    heap.Reaches contexts psMMUContext := by
  rwa [MmuHeap.Reaches, if_pos shared]

/-! ## Writing entries -/

/-- An update of one row at one column. -/
theorem update_row_apply
    {α : Type*}
    (rows : Nat → Nat → α)
    (row column : Nat)
    (value : α)
    (i j : Nat) :
    Function.update rows row (Function.update (rows row) column value) i j =
      if i = row ∧ j = column then value else rows i j := by
  by_cases isRow : i = row
  · subst isRow
    by_cases isColumn : j = column
    · simp [isColumn]
    · simp [isColumn]
  · simp [isRow]

namespace MmuState

variable
  (state : MmuState)
  (psMMUContext index : Nat)
  (entry : BitVec 32)
  (info : Option MmuPtInfo)

theorem writePD_apply (context i : Nat) :
    (state.writePD psMMUContext index entry).pvPDCpuVAddr context i =
      if context = psMMUContext ∧ i = index then entry
      else state.pvPDCpuVAddr context i :=
  update_row_apply _ _ _ _ _ _

theorem setPTInfo_apply (context i : Nat) :
    (state.setPTInfo psMMUContext index info).apsPTInfoList context i =
      if context = psMMUContext ∧ i = index then info
      else state.apsPTInfoList context i :=
  update_row_apply _ _ _ _ _ _

theorem writePDEntry_of_shared
    (shared : heap.psDevArena.DevMemHeapType.isShared = true) :
    state.writePDEntry heap index entry =
      state.pvMMUContextList.foldl
        (fun state psMMUContext => state.writePD psMMUContext index entry)
        state := by
  unfold writePDEntry
  cases isType : heap.psDevArena.DevMemHeapType with
  | perContext => simp [isType, isShared] at shared
  | kernel => simp [isType, isShared] at shared
  | shared => rfl
  | sharedExported => rfl

theorem writePDEntry_of_unshared
    (unshared : ¬ heap.psDevArena.DevMemHeapType.isShared = true) :
    state.writePDEntry heap index entry =
      state.writePD heap.psMMUContext index entry := by
  unfold writePDEntry
  cases isType : heap.psDevArena.DevMemHeapType with
  | perContext => rfl
  | kernel => rfl
  | shared | sharedExported => simp [isType, isShared] at unshared

theorem pageAt_setPTInfo (context i : Nat) :
    (state.setPTInfo psMMUContext index info).pageAt context i =
      if context = psMMUContext ∧ i = index then
        info.bind fun info => info.page.map PtPage.devPAddr
      else state.pageAt context i := by
  rw [pageAt, setPTInfo_apply]
  split_ifs
  · rfl
  · rfl

end MmuState

/-- The walk over the contexts writes the entry in each of them. -/
theorem foldl_writePD
    (index : Nat)
    (entry : BitVec 32)
    (contexts : List Nat)
    (state : MmuState) :
    contexts.foldl
        (fun state psMMUContext => state.writePD psMMUContext index entry)
        state =
      { state with
        pvPDCpuVAddr := fun context i =>
          if context ∈ contexts ∧ i = index then entry
          else state.pvPDCpuVAddr context i } := by
  induction contexts generalizing state with
  | nil => simp
  | cons first rest ih =>
    rw [List.foldl_cons, ih]
    simp only [MmuState.writePD_apply, List.mem_cons]
    congr 1
    funext context i
    by_cases isIndex : i = index
    · by_cases inRest : context ∈ rest
      · simp [isIndex, inRest]
      · simp [isIndex, inRest]
    · simp [isIndex]

/-- The entry of a heap is written where the heap reaches. -/
theorem writePDEntry_eq
    (state : MmuState)
    (heap : MmuHeap)
    (index : Nat)
    (entry : BitVec 32) :
    state.writePDEntry heap index entry =
      { state with
        pvPDCpuVAddr := fun context i =>
          if heap.Reaches state.pvMMUContextList context ∧ i = index then entry
          else state.pvPDCpuVAddr context i } := by
  by_cases shared : heap.psDevArena.DevMemHeapType.isShared
  · have reaches : ∀ context,
        heap.Reaches state.pvMMUContextList context ↔
          context ∈ state.pvMMUContextList := fun context => by
      rw [MmuHeap.Reaches, if_pos shared]
    rw [state.writePDEntry_of_shared index entry shared, foldl_writePD]
    simp only [reaches]
  · have reaches : ∀ context,
        heap.Reaches state.pvMMUContextList context ↔
          context = heap.psMMUContext := fun context => by
      rw [MmuHeap.Reaches, if_neg shared]
    rw [state.writePDEntry_of_unshared index entry shared, MmuState.writePD]
    simp only [reaches]
    congr 1
    funext context i
    exact update_row_apply _ _ _ _ _ _

/-- Writing an entry changes the directories only. -/
theorem writePDEntry_frame
    (state : MmuState)
    (heap : MmuHeap)
    (index : Nat)
    (entry : BitVec 32) :
    let next := state.writePDEntry heap index entry
    next.pvMMUContextList = state.pvMMUContextList ∧
      next.apsPTInfoList = state.apsPTInfoList ∧
      next.pageTables = state.pageTables ∧
      next.heaps = state.heaps := by
  rw [writePDEntry_eq]
  exact ⟨rfl, rfl, rfl, rfl⟩

/-! ## Steps -/

/-- The directories, the addresses of the page tables and the pages they are
on are the same. -/
structure SameTables (state next : MmuState) : Prop where
  heaps : next.heaps = state.heaps
  contexts : next.pvMMUContextList = state.pvMMUContextList
  entry : next.pvPDCpuVAddr = state.pvPDCpuVAddr
  pageAt : next.pageAt = state.pageAt
  pages : next.pageTables = state.pageTables

/-- The page table of a heap at an index becomes another, or none, and the
entries for it are written. -/
structure TableChange
    (heap : MmuHeap)
    (index : Nat)
    (page : Option (BitVec 64))
    (state next : MmuState) :
    Prop where
  heaps : next.heaps = state.heaps
  contexts : next.pvMMUContextList = state.pvMMUContextList
  entry : ∀ context i,
    next.pvPDCpuVAddr context i =
      if heap.Reaches state.pvMMUContextList context ∧ i = index then
        heap.entryOf page
      else state.pvPDCpuVAddr context i
  pageAt : ∀ context i,
    next.pageAt context i =
      if context = heap.psMMUContext ∧ i = index then page
      else state.pageAt context i
  kept : ∀ address ∈ state.pageTables,
    state.pageAt heap.psMMUContext index ≠ some address →
      address ∈ next.pageTables
  only : ∀ address ∈ next.pageTables,
    address ∈ state.pageTables ∨ page = some address
  fresh : ∀ address, page = some address →
    address ∈ next.pageTables ∧ address ∉ state.pageTables

/-- What a loop on page tables does in one go, with the pages it may take. -/
inductive TableStep
    (heap : MmuHeap)
    (taken : BitVec 64 → Prop) :
    MmuState → MmuState → Prop where
  | same {state next : MmuState}
      (same : SameTables state next) :
      TableStep heap taken state next
  | change {state next : MmuState}
      (index : Nat)
      (page : Option (BitVec 64))
      (covered : heap.psDevArena.Covers index)
      (isTaken : ∀ address, page = some address → taken address)
      (changed : TableChange heap index page state next) :
      TableStep heap taken state next

/-- What a loop on page tables does. -/
abbrev TableSteps
    (heap : MmuHeap)
    (taken : BitVec 64 → Prop) :
    MmuState → MmuState → Prop :=
  Relation.ReflTransGen (TableStep heap taken)

/-- The heaps and the contexts stay, and the new pages are among those that
may be taken. -/
theorem TableSteps.frame
    {taken : BitVec 64 → Prop}
    (steps : TableSteps heap taken state next) :
    next.heaps = state.heaps ∧
      next.pvMMUContextList = state.pvMMUContextList ∧
      ∀ address ∈ next.pageTables,
        address ∈ state.pageTables ∨ taken address := by
  induction steps with
  | refl => exact ⟨rfl, rfl, fun _ isTable => .inl isTable⟩
  | tail _ step ih =>
    obtain ⟨heaps, contexts, pages⟩ := ih
    cases step with
    | same same =>
      refine ⟨same.heaps.trans heaps, same.contexts.trans contexts, ?_⟩
      rw [same.pages]
      exact pages
    | change index page covered isTaken changed =>
      refine ⟨changed.heaps.trans heaps, changed.contexts.trans contexts, ?_⟩
      intro address isTable
      rcases changed.only address isTable with old | isNew
      · exact pages address old
      · exact .inr (isTaken address isNew)

/-- A new value for a page table's record, with its page at the same address,
changes no table. -/
theorem SameTables.setPTInfo
    {info : Option MmuPtInfo}
    (address :
      (info.bind fun info => info.page.map PtPage.devPAddr) =
        state.pageAt psMMUContext index) :
    SameTables state (state.setPTInfo psMMUContext index info) where
  heaps := rfl
  contexts := rfl
  entry := rfl
  pages := rfl
  pageAt := by
    funext context i
    rw [MmuState.pageAt_setPTInfo]
    split_ifs with isIt
    · rw [address, isIt.1, isIt.2]
    · rfl

/-- A change made of a write to the list and a write to the directories. -/
theorem TableChange.of_writes
    {page : Option (BitVec 64)}
    (info : Option MmuPtInfo)
    (isPage : (info.bind fun info => info.page.map PtPage.devPAddr) = page)
    (heaps : next.heaps = state.heaps)
    (contexts : next.pvMMUContextList = state.pvMMUContextList)
    (entry : next.pvPDCpuVAddr =
      (state.writePDEntry heap index (heap.entryOf page)).pvPDCpuVAddr)
    (lists : next.apsPTInfoList =
      (state.setPTInfo heap.psMMUContext index info).apsPTInfoList)
    (kept : ∀ address ∈ state.pageTables,
      state.pageAt heap.psMMUContext index ≠ some address →
        address ∈ next.pageTables)
    (only : ∀ address ∈ next.pageTables,
      address ∈ state.pageTables ∨ page = some address)
    (fresh : ∀ address, page = some address →
      address ∈ next.pageTables ∧ address ∉ state.pageTables) :
    TableChange heap index page state next where
  heaps := heaps
  contexts := contexts
  entry context i := by
    rw [entry, writePDEntry_eq]
  pageAt context i := by
    rw [← isPage, ← MmuState.pageAt_setPTInfo, MmuState.pageAt, lists]
    rfl
  kept := kept
  only := only
  fresh := fresh

/-! ## Allocating -/

/-- The record that an allocation goes on with has the page that was there. -/
theorem pageAt_of_record
    {info : MmuPtInfo}
    (isInfo :
      (state.apsPTInfoList psMMUContext index <|>
        if answer.infoAllocated then some ⟨none, 0⟩ else none) = some info)
    (noPage : info.page = none) :
    state.pageAt psMMUContext index = none := by
  unfold MmuState.pageAt
  cases isThere : state.apsPTInfoList psMMUContext index with
  | none => rfl
  | some there =>
    rw [isThere] at isInfo
    obtain rfl : there = info := Option.some.inj isInfo
    rw [Option.bind_some, noPage]
    rfl

/-- One iteration of the allocation gives the heap a page table, or changes
none. -/
theorem deferredAllocPagetable_step
    {done : Bool}
    (fresh : ∀ address, answer.page = some address →
      address ∉ state.pageTables)
    (allocated :
      deferredAllocPagetable state heap index answer = (next, done)) :
    SameTables state next ∨
      ∃ address, answer.page = some address ∧
        next.pageTables = address :: state.pageTables ∧
        TableChange heap index (some address) state next := by
  unfold deferredAllocPagetable at allocated
  split at allocated
  · cases allocated
    exact .inl ⟨rfl, rfl, rfl, rfl, rfl⟩
  · next info isInfo =>
    split at allocated
    · cases allocated
      exact .inl ⟨rfl, rfl, rfl, rfl, rfl⟩
    · next noPage _ =>
      cases allocated
      refine .inl (.setPTInfo ?_)
      rw [pageAt_of_record isInfo noPage, Option.bind_some, noPage]
      rfl
    · next address noPage isAddress =>
      have next_eq := (Prod.mk.inj allocated).1
      rw [writePDEntry_eq] at next_eq
      subst next_eq
      refine .inr ⟨address, isAddress, rfl, ?_⟩
      refine .of_writes (some ⟨some ⟨address, fun _ => 0⟩, _⟩) rfl rfl rfl ?_ rfl
        (fun _ isTable _ => List.mem_cons_of_mem _ isTable) ?_ ?_
      · rw [writePDEntry_eq]
        rfl
      · intro other isTable
        rcases List.mem_cons.mp isTable with rfl | old
        · exact .inr rfl
        · exact .inl old
      · intro other isOther
        cases isOther
        exact ⟨List.mem_cons_self, fresh _ isAddress⟩

/-- The answers of the page allocator are pages not in use, each once. -/
structure FreshAnswers
    (state : MmuState)
    (answers : Nat → PtAllocation) :
    Prop where
  unused : ∀ i address, (answers i).page = some address →
    address ∉ state.pageTables
  once : ∀ i j address, (answers i).page = some address →
    (answers j).page = some address → i = j

/-- The allocation is made of steps on the tables of its heap, and takes no
pages but those it was given. -/
theorem deferredAllocPagetablesFrom_steps
    {ui32PDIndex : Nat}
    (fresh : FreshAnswers state answers)
    (covered : ∀ i < count, heap.psDevArena.Covers (ui32PDIndex + i)) :
    TableSteps heap (fun address => ∃ i, (answers i).page = some address) state
        (deferredAllocPagetablesFrom state heap ui32PDIndex answers count).1 ∧
      ∀ address ∈
        (deferredAllocPagetablesFrom state heap ui32PDIndex answers
          count).1.pageTables,
        address ∈ state.pageTables ∨
          ∃ i < count, (answers i).page = some address := by
  induction count with
  | zero => exact ⟨.refl, fun _ isTable => .inl isTable⟩
  | succ count ih =>
    obtain ⟨steps, tables⟩ := ih fun i below =>
      covered i (Nat.lt_succ_of_lt below)
    have later : ∀ address,
        (address ∈ state.pageTables ∨
          ∃ i < count, (answers i).page = some address) →
        address ∈ state.pageTables ∨
          ∃ i < count + 1, (answers i).page = some address := by
      rintro address (old | ⟨i, below, isAddress⟩)
      · exact .inl old
      · exact .inr ⟨i, Nat.lt_succ_of_lt below, isAddress⟩
    unfold deferredAllocPagetablesFrom
    split
    · next before isBefore =>
      rw [isBefore] at steps tables
      have unused : ∀ address, (answers count).page = some address →
          address ∉ before.pageTables := by
        intro address isAddress isTable
        rcases tables address isTable with old | ⟨i, below, isOther⟩
        · exact fresh.unused count address isAddress old
        · exact absurd (fresh.once i count address isOther isAddress)
            (Nat.ne_of_lt below)
      rcases isNext : deferredAllocPagetable before heap
        (ui32PDIndex + count) (answers count) with ⟨next, done⟩
      rcases deferredAllocPagetable_step unused isNext
        with same | ⟨address, isAddress, pages, changed⟩
      · refine ⟨steps.tail (.same same), ?_⟩
        rw [same.pages]
        exact fun address isTable => later address (tables address isTable)
      · refine ⟨steps.tail (.change _ _
          (covered count (Nat.lt_succ_self count))
          (fun _ isIt => ⟨count, isAddress.trans isIt⟩) changed), ?_⟩
        rw [pages]
        intro other isTable
        rcases List.mem_cons.mp isTable with rfl | old
        · exact .inr ⟨count, Nat.lt_succ_self count, isAddress⟩
        · exact later other (tables other old)
    · next before isBefore =>
      rw [isBefore] at steps tables
      exact ⟨steps, fun address isTable =>
        later address (tables address isTable)⟩

/-- `_DeferredAllocPagetables` for a range of the heap is made of steps on its
tables. -/
theorem deferredAllocPagetables_steps
    (isHeap : HeapOf psMMUContext arena heap)
    (placed : arena.Placed)
    {ui32Size : BitVec 32}
    (fresh : FreshAnswers state answers)
    (positive : 0 < ui32Size.toNat)
    (contained : arena.Contains DevVAddr.toNat
      (DevVAddr.toNat + ui32Size.toNat)) :
    TableSteps heap (fun address => ∃ i, (answers i).page = some address)
      state
      (deferredAllocPagetables state heap DevVAddr ui32Size answers).1 := by
  have covered : ∀ i < (heap.deferredCount DevVAddr ui32Size).toNat,
      heap.psDevArena.Covers (heap.pdIndex DevVAddr + i) := by
    intro i visited
    rw [isHeap.arena]
    exact isHeap.covers_deferred placed positive contained visited
  have steps := (deferredAllocPagetablesFrom_steps fresh covered).1
  rw [deferredAllocPagetables]
  exact steps

/-- `MMU_Alloc` leaves the state that it has from the page tables. -/
theorem mmuAllocResult_fst
    (devVAddr : BitVec 32)
    (result : MmuState × Bool) :
    (mmuAllocResult devVAddr result).1 = result.1 :=
  rfl

/-- `MMU_Alloc` for a range of the heap is made of steps on its tables. -/
theorem mmuAlloc_steps
    (isHeap : HeapOf psMMUContext arena heap)
    (placed : arena.Placed)
    {uSize : BitVec 32}
    {raAlloc : Option (BitVec 32)}
    (fresh : FreshAnswers state answers)
    (contained : ∀ devVAddr, raAlloc = some devVAddr →
      0 < uSize.toNat ∧
        arena.Contains devVAddr.toNat (devVAddr.toNat + uSize.toNat)) :
    TableSteps heap (fun address => ∃ i, (answers i).page = some address)
      state (mmuAlloc state heap uSize raAlloc answers).1 := by
  cases raAlloc with
  | none => exact .refl
  | some devVAddr =>
    obtain ⟨positive, inArena⟩ := contained devVAddr rfl
    have steps :=
      deferredAllocPagetables_steps isHeap placed fresh positive inArena
    rw [mmuAlloc, mmuAllocResult_fst]
    exact steps

/-! ## Freeing -/

/-- What the page table's part of a free leaves of its list and its pages. -/
theorem freePageTableInfo_frame
    (state : MmuState)
    (pMMUHeap : Nat)
    (heap : MmuHeap)
    (index : Nat) :
    let next := freePageTableInfo state pMMUHeap heap index true
    next.pvMMUContextList = state.pvMMUContextList ∧
      next.heaps = state.heaps ∧
      next.pvPDCpuVAddr = state.pvPDCpuVAddr ∧
      next.apsPTInfoList =
        (state.setPTInfo heap.psMMUContext index none).apsPTInfoList ∧
      next.pageTables =
        ((state.pageAt heap.psMMUContext index).map
          state.pageTables.erase).getD state.pageTables := by
  unfold freePageTableInfo MmuState.pageAt
  rcases isInfo : state.apsPTInfoList heap.psMMUContext index
    with _ | ⟨_ | page, ui32ValidPTECount⟩
  · refine ⟨rfl, rfl, rfl, ?_, rfl⟩
    funext context i
    show state.apsPTInfoList context i = _
    rw [MmuState.setPTInfo_apply]
    split_ifs with isIt
    · rw [isIt.1, isIt.2]
      exact isInfo
    · rfl
  · exact ⟨rfl, rfl, rfl, rfl, rfl⟩
  · exact ⟨rfl, rfl, rfl, rfl, rfl⟩

/-- Freeing a page table takes it from its heap. -/
theorem deferredFreePageTable_change
    (state : MmuState)
    (pMMUHeap : Nat)
    (heap : MmuHeap)
    (ui32PTIndex : BitVec 32)
    (isIndex :
      heap.pdIndex heap.psDevArena.BaseDevVAddr + ui32PTIndex.toNat = index) :
    TableChange heap index none state
      (deferredFreePageTable state pMMUHeap heap ui32PTIndex true) := by
  subst isIndex
  unfold deferredFreePageTable
  simp only [if_true]
  obtain ⟨contexts, heaps, entry, lists, pages⟩ := freePageTableInfo_frame
    (state.writePDEntry heap
      (heap.pdIndex heap.psDevArena.BaseDevVAddr + ui32PTIndex.toNat) 0)
    pMMUHeap heap
    (heap.pdIndex heap.psDevArena.BaseDevVAddr + ui32PTIndex.toNat)
  obtain ⟨sameContexts, sameLists, sameTables, sameHeaps⟩ := writePDEntry_frame state
    heap (heap.pdIndex heap.psDevArena.BaseDevVAddr + ui32PTIndex.toNat) 0
  simp only [MmuState.pageAt, MmuState.setPTInfo, sameLists, sameTables]
    at lists pages
  refine .of_writes none rfl (heaps.trans sameHeaps)
    (contexts.trans sameContexts) entry lists ?_ ?_ nofun
  · intro address isTable notIt
    rw [pages, ← MmuState.pageAt]
    cases isPage : state.pageAt heap.psMMUContext
        (heap.pdIndex heap.psDevArena.BaseDevVAddr + ui32PTIndex.toNat) with
    | none => exact isTable
    | some freed =>
      have different : address ≠ freed := by
        rintro rfl
        exact notIt isPage
      exact (List.mem_erase_of_ne different).mpr isTable
  · intro address isTable
    rw [pages, ← MmuState.pageAt] at isTable
    cases isPage : state.pageAt heap.psMMUContext
        (heap.pdIndex heap.psDevArena.BaseDevVAddr + ui32PTIndex.toNat) with
    | none =>
      rw [isPage] at isTable
      exact .inl isTable
    | some freed =>
      rw [isPage] at isTable
      exact .inl (List.mem_of_mem_erase isTable)

/-- Freeing page tables is made of steps on the tables of the heap, and leaves
none of those it visits. -/
theorem deferredFreePageTablesUpTo_steps
    (taken : BitVec 64 → Prop)
    (state : MmuState)
    (pMMUHeap : Nat)
    (small : count ≤ 2 ^ 10)
    (covered : ∀ i < count, heap.psDevArena.Covers
      (heap.pdIndex heap.psDevArena.BaseDevVAddr + i)) :
    let next := deferredFreePageTablesUpTo state pMMUHeap heap count
    TableSteps heap taken state next ∧
      next.pvMMUContextList = state.pvMMUContextList ∧
      ∀ i < count,
        next.pageAt heap.psMMUContext
            (heap.pdIndex heap.psDevArena.BaseDevVAddr + i) = none ∧
          ∀ context, heap.Reaches state.pvMMUContextList context →
            next.pvPDCpuVAddr context
              (heap.pdIndex heap.psDevArena.BaseDevVAddr + i) = 0 := by
  induction count with
  | zero => exact ⟨.refl, rfl, nofun⟩
  | succ count ih =>
    obtain ⟨steps, contexts, cleared⟩ := ih (Nat.le_of_succ_le small)
      fun i below => covered i (Nat.lt_succ_of_lt below)
    have isCount : (BitVec.ofNat 32 count).toNat = count := by
      rw [BitVec.toNat_ofNat, Nat.mod_eq_of_lt]
      exact Nat.lt_of_lt_of_le small (by decide)
    have changed := deferredFreePageTable_change
      (deferredFreePageTablesUpTo state pMMUHeap heap count) pMMUHeap heap
      (BitVec.ofNat 32 count) (congrArg _ isCount)
    refine ⟨steps.tail (.change _ none
      (covered count (Nat.lt_succ_self count)) nofun changed),
      changed.contexts.trans contexts, ?_⟩
    intro i below
    constructor
    · rw [deferredFreePageTablesUpTo, changed.pageAt]
      split_ifs with isLast
      · rfl
      · exact (cleared i (by
          rcases Nat.lt_succ_iff_lt_or_eq.mp below with before | rfl
          · exact before
          · exact absurd ⟨rfl, rfl⟩ isLast)).1
    · intro context reached
      rw [deferredFreePageTablesUpTo, changed.entry, contexts]
      split_ifs with isLast
      · rfl
      · exact (cleared i (by
          rcases Nat.lt_succ_iff_lt_or_eq.mp below with before | rfl
          · exact before
          · exact absurd ⟨reached, rfl⟩ isLast)).2 context reached

section

variable {psMMUContext : Nat} (taken : BitVec 64 → Prop)
  (isHeap : HeapOf psMMUContext arena heap) (placed : arena.Placed)
include taken isHeap placed

variable (state : MmuState) (pMMUHeap : Nat)

/-- Freeing the page tables of a heap leaves none of them. -/
theorem deferredFreePageTables_steps :
    let next := deferredFreePageTables state pMMUHeap heap
    TableSteps heap taken state next ∧
      ∀ index, arena.Covers index →
        next.pageAt heap.psMMUContext index = none ∧
          ∀ context, heap.Reaches next.pvMMUContextList context →
            next.pvPDCpuVAddr context index = 0 := by
  have first := isHeap.pdIndex_base
  have count := isHeap.tableCount
  have small : heap.ui32PageTableCount.toNat ≤ 2 ^ 10 := by
    have fits := placed.fits
    rw [count, DevArenaDescriptor.indexCount]
    omega
  have covered : ∀ i < heap.ui32PageTableCount.toNat,
      heap.psDevArena.Covers
        (heap.pdIndex heap.psDevArena.BaseDevVAddr + i) := by
    intro i below
    rw [first, isHeap.arena]
    exact ⟨Nat.le_add_right _ _, by omega⟩
  obtain ⟨steps, contexts, cleared⟩ :=
    deferredFreePageTablesUpTo_steps taken state pMMUHeap small covered
  refine ⟨steps.tail (.same ⟨rfl, rfl, rfl, rfl, rfl⟩), ?_⟩
  rintro index ⟨start, stop⟩
  obtain ⟨i, rfl⟩ := Nat.exists_eq_add_of_le start
  obtain ⟨noPage, noEntry⟩ := cleared i (by omega)
  rw [first] at noPage noEntry
  refine ⟨noPage, fun context reached => noEntry context ?_⟩
  rw [← contexts]
  exact reached

/-- Unmapping a page is made of steps on the tables of the heap, and moves on
by a page or not at all. -/
theorem unmapPageAndFreePT_steps
    {cursor : UnmapCursor}
    (contained : arena.Contains cursor.sTmpDevVAddr.toNat
      (cursor.sTmpDevVAddr.toNat + 1)) :
    let next := unmapPageAndFreePT pMMUHeap heap cursor
    TableSteps heap taken cursor.state next.state ∧
      (next.sTmpDevVAddr = cursor.sTmpDevVAddr ∨
        next.sTmpDevVAddr = cursor.sTmpDevVAddr + heap.ui32DataPageSize) := by
  unfold unmapPageAndFreePT
  simp only
  split
  · exact ⟨.refl, .inr rfl⟩
  · exact ⟨.refl, .inl rfl⟩
  · next page ui32ValidPTECount isInfo =>
    have isPage : cursor.state.pageAt heap.psMMUContext
        (heap.pdIndex cursor.sTmpDevVAddr) = some page.devPAddr := by
      rw [MmuState.pageAt, isInfo]
      rfl
    have unmapped : ∀ (entries : Nat → BitVec 32) (count : BitVec 32),
        SameTables cursor.state (cursor.state.setPTInfo heap.psMMUContext
          (heap.pdIndex cursor.sTmpDevVAddr)
          (some ⟨some { page with entries }, count⟩)) :=
      fun entries count => .setPTInfo isPage.symm
    have freed (state : MmuState) :=
      deferredFreePageTable_change state pMMUHeap heap
        (cursor.sTmpDevVAddr >>> heap.ui32PDShift - heap.ui32PDBaseIndex)
        (isHeap.freed_index contained.1)
    have covered : heap.psDevArena.Covers
        (heap.pdIndex cursor.sTmpDevVAddr) := by
      rw [isHeap.arena]
      exact isHeap.covers_pdIndex placed contained
    split
    · exact ⟨.tail (.single (.same (unmapped _ _)))
        (.change _ none covered nofun (freed _)), .inr rfl⟩
    · exact ⟨.single (.same (unmapped _ _)), .inr rfl⟩

/-- Unmapping pages of the heap is made of steps on its tables.  The address
stays in the heap because each iteration moves it by at most a page. -/
theorem unmapPagesAndFreePTs_steps
    (remaining : Nat)
    (cursor : UnmapCursor)
    (contained : arena.Contains cursor.sTmpDevVAddr.toNat
      (cursor.sTmpDevVAddr.toNat + remaining * 2 ^ heap.ui32PTShift)) :
    TableSteps heap taken cursor.state
      ((unmapPageAndFreePT pMMUHeap heap)^[remaining] cursor).state := by
  induction remaining generalizing cursor with
  | zero => exact .refl
  | succ remaining ih =>
    have fits := placed.fits
    obtain ⟨aboveBase, _, belowEnd⟩ := contained
    have positive : 0 < 2 ^ heap.ui32PTShift := Nat.two_pow_pos _
    rw [Nat.add_mul, Nat.one_mul] at belowEnd
    obtain ⟨steps, moved⟩ := unmapPageAndFreePT_steps taken isHeap placed
      pMMUHeap
      (show arena.Contains cursor.sTmpDevVAddr.toNat
        (cursor.sTmpDevVAddr.toNat + 1) from
        ⟨aboveBase, Nat.le_succ _, by omega⟩)
    rw [Function.iterate_succ_apply]
    cases remaining with
    | zero => exact steps
    | succ remaining =>
      refine steps.trans (ih _ ?_)
      rw [Nat.add_mul, Nat.one_mul] at belowEnd ⊢
      rcases moved with stays | moves
      · rw [stays]
        exact ⟨aboveBase, by omega, by omega⟩
      · have advanced :
            (cursor.sTmpDevVAddr + heap.ui32DataPageSize).toNat =
              cursor.sTmpDevVAddr.toNat + 2 ^ heap.ui32PTShift := by
          rw [BitVec.toNat_add, isHeap.pageSize]
          exact Nat.mod_eq_of_lt (by omega)
        rw [moves, advanced]
        exact ⟨by omega, by omega, by omega⟩

/-- The cache control word is not part of the tables. -/
theorem mmuUnmapPagesAndFreePTs_steps
    {ui32PageCount : BitVec 32}
    (contained : arena.Contains sDevVAddr.toNat
      (sDevVAddr.toNat + ui32PageCount.toNat * 2 ^ heap.ui32PTShift)) :
    TableSteps heap taken state
      (mmuUnmapPagesAndFreePTs state pMMUHeap heap sDevVAddr
        ui32PageCount) := by
  have steps := unmapPagesAndFreePTs_steps taken isHeap placed pMMUHeap
    ui32PageCount.toNat ⟨state, sDevVAddr, false⟩ contained
  unfold mmuUnmapPagesAndFreePTs
  simp only
  split_ifs
  · exact steps.tail (.same ⟨rfl, rfl, rfl, rfl, rfl⟩)
  · exact steps.tail (.same ⟨rfl, rfl, rfl, rfl, rfl⟩)

/-- Giving back a range of the heap is made of steps on its tables. -/
theorem mmuFreePageTables_steps
    {ui32Start ui32End : BitVec 32}
    (contained : arena.Contains ui32Start.toNat
      (ui32Start.toNat + (ui32End - ui32Start).toNat)) :
    TableSteps heap taken state
      (mmuFreePageTables state pMMUHeap heap ui32Start ui32End) := by
  obtain ⟨aboveBase, _, belowEnd⟩ := contained
  apply mmuUnmapPagesAndFreePTs_steps taken isHeap placed
  rw [BitVec.toNat_ushiftRight, Nat.shiftRight_eq_div_pow]
  have pages := Nat.div_mul_le_self (ui32End - ui32Start).toNat
    (2 ^ heap.ui32PTShift)
  exact ⟨aboveBase, by omega, by omega⟩

/-- `MMU_Free` is made of steps on the tables of the heap. -/
theorem mmuFree_steps
    (DevVAddr ui32Size : BitVec 32)
    {handedOn : Option (BitVec 32 × BitVec 32)}
    (contained : ∀ ui32Start ui32End,
      handedOn = some (ui32Start, ui32End) →
      arena.Contains ui32Start.toNat
        (ui32Start.toNat + (ui32End - ui32Start).toNat)) :
    TableSteps heap taken state
      (mmuFree state pMMUHeap heap DevVAddr ui32Size handedOn) := by
  unfold mmuFree
  split_ifs
  · split
    · exact .refl
    · exact mmuFreePageTables_steps taken isHeap placed state pMMUHeap
        (contained _ _ rfl)
  · exact .refl

end

/-! ## Mapping pages -/

/-- Mapping a page changes no table. -/
theorem mmuMapPage_same
    {DevPAddr : BitVec 64}
    {ui32MemFlags : BitVec 32}
    (mapped :
      mmuMapPage state heap DevVAddr DevPAddr ui32MemFlags = some next) :
    SameTables state next := by
  unfold mmuMapPage at mapped
  split at mapped
  · next page ui32ValidPTECount isInfo =>
    cases mapped
    refine .setPTInfo ?_
    rw [MmuState.pageAt, isInfo]
    rfl
  · contradiction

/-- Unmapping a page changes no table. -/
theorem mmuUnmapPage_same
    {sTmpDevVAddr : BitVec 32}
    (unmapped : mmuUnmapPage state heap sTmpDevVAddr = some next) :
    SameTables state next := by
  unfold mmuUnmapPage at unmapped
  split at unmapped
  · cases unmapped
    exact ⟨rfl, rfl, rfl, rfl, rfl⟩
  · contradiction
  · next page ui32ValidPTECount isInfo =>
    cases unmapped
    refine .setPTInfo ?_
    rw [MmuState.pageAt, isInfo]
    rfl

/-- Iterations of unmapping change no table. -/
theorem mmuUnmapPagesUpTo_same
    (unmapped :
      mmuUnmapPagesUpTo state heap sDevVAddr count = some next) :
    SameTables state next := by
  induction count generalizing next with
  | zero =>
    cases unmapped
    exact ⟨rfl, rfl, rfl, rfl, rfl⟩
  | succ count ih =>
    obtain ⟨before, isBefore, last⟩ := Option.bind_eq_some_iff.mp unmapped
    have same := ih isBefore
    have sameLast := mmuUnmapPage_same last
    exact ⟨sameLast.heaps.trans same.heaps,
      sameLast.contexts.trans same.contexts,
      sameLast.entry.trans same.entry, sameLast.pageAt.trans same.pageAt,
      sameLast.pages.trans same.pages⟩

/-- `MMU_UnmapPages` changes no table. -/
theorem mmuUnmapPages_same
    {ui32PageCount : BitVec 32}
    (unmapped :
      mmuUnmapPages state heap sDevVAddr ui32PageCount = some next) :
    SameTables state next := by
  obtain ⟨before, isBefore, rfl⟩ := Option.map_eq_some_iff.mp unmapped
  obtain ⟨heaps, contexts, entry, pageAt, pages⟩ :=
    mmuUnmapPagesUpTo_same isBefore
  exact ⟨heaps, contexts, entry, pageAt, pages⟩

end PvrServices.Mmu
