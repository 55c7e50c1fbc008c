import PvrServices.Mmu.Tables

/-!
# Coherence of page directories

The invariant behind shared heaps: a heap's own directory says where its page
tables are, a context that the heap was inserted in says the same, and where
no heap reaches a directory it has no entry.
-/

namespace PvrServices.Mmu

open Function (update update_of_ne update_self)

/-! ## The invariant -/

/-- Two live heaps that use the same directory indices of one context are the
same. -/
def HeapsUnique (heaps : Nat → Option MmuHeap) : Prop :=
  ∀ left right leftHeap rightHeap,
    heaps left = some leftHeap → heaps right = some rightHeap →
    rightHeap.psDevArena = leftHeap.psDevArena →
    (leftHeap.psDevArena.DevMemHeapType.isShared = true ∨
      rightHeap.psMMUContext = leftHeap.psMMUContext) →
    right = left

/-- The invariant of the directories, for the live heaps and for the contexts
that hold shared heaps. -/
structure Coherent
    (table : HeapTable)
    (heaps : Nat → Option MmuHeap)
    (inserted : List (Nat × DevArenaDescriptor))
    (state : MmuState) :
    Prop where
  listed : state.pvMMUContextList.Nodup
  made : ∀ pMMUHeap heap, heaps pMMUHeap = some heap →
    heap.psDevArena ∈ table.arenas ∧
      heap.psMMUContext ∈ state.pvMMUContextList ∧
      HeapOf heap.psMMUContext heap.psDevArena heap
  unique : HeapsUnique heaps
  held : ∀ context arena, (context, arena) ∈ inserted →
    context ∈ state.pvMMUContextList ∧ arena ∈ table.arenas ∧
      arena.DevMemHeapType.isShared = true
  own : ∀ pMMUHeap heap index, heaps pMMUHeap = some heap →
    heap.psDevArena.Covers index →
    state.pvPDCpuVAddr heap.psMMUContext index =
      heap.entryOf (state.pageAt heap.psMMUContext index)
  mirrored : ∀ context pMMUHeap heap index,
    (context, heap.psDevArena) ∈ inserted → heaps pMMUHeap = some heap →
    heap.psDevArena.Covers index →
    state.pvPDCpuVAddr context index =
      state.pvPDCpuVAddr heap.psMMUContext index
  vacant : ∀ context arena index, context ∈ state.pvMMUContextList →
    arena ∈ table.arenas → arena.Covers index →
    (∀ pMMUHeap heap, heaps pMMUHeap = some heap →
      heap.psDevArena = arena →
        ¬ heap.Reaches state.pvMMUContextList context) →
    state.pvPDCpuVAddr context index = 0
  owned : ∀ context arena index address,
    context ∈ state.pvMMUContextList → arena ∈ table.arenas →
    arena.Covers index → state.pageAt context index = some address →
    ∃ pMMUHeap heap, heaps pMMUHeap = some heap ∧
      heap.psDevArena = arena ∧ heap.psMMUContext = context
  live : ∀ context index address, context ∈ state.pvMMUContextList →
    state.pageAt context index = some address →
    address ∈ state.pageTables
  distinct : ∀ left right i j address,
    left ∈ state.pvMMUContextList → right ∈ state.pvMMUContextList →
    state.pageAt left i = some address →
    state.pageAt right j = some address → left = right ∧ i = j

/-- No live heap is for the range that a new heap of a context takes: for a
shared range there is none at all. -/
def RangeFree
    (heaps : Nat → Option MmuHeap)
    (psMMUContext : Nat)
    (arena : DevArenaDescriptor) :
    Prop :=
  ∀ pMMUHeap heap, heaps pMMUHeap = some heap → heap.psDevArena = arena →
    arena.DevMemHeapType.isShared = false ∧
      heap.psMMUContext ≠ psMMUContext

/-- `MMU_InsertHeap` copies the entries of the heap. -/
theorem mmuInsertHeapUpTo_eq
    (state : MmuState)
    (psMMUContext : Nat)
    (heap : MmuHeap)
    (count : Nat) :
    let first := heap.pdIndex heap.psDevArena.BaseDevVAddr
    mmuInsertHeapUpTo state psMMUContext heap count =
      { state with
        pvPDCpuVAddr := fun context i =>
          if context = psMMUContext ∧ first ≤ i ∧ i < first + count then
            state.pvPDCpuVAddr heap.psMMUContext i
          else state.pvPDCpuVAddr context i } := by
  intro first
  induction count with
  | zero =>
    have none_below : ∀ i, ¬ (first ≤ i ∧ i < first + 0) := by
      omega
    simp only [none_below, and_false, if_false, mmuInsertHeapUpTo]
  | succ count ih =>
    rw [mmuInsertHeapUpTo, ih, MmuState.writePD]
    congr 1
    funext context i
    refine (update_row_apply _ _ _ _ _ _).trans ?_
    by_cases isContext : context = psMMUContext
    · by_cases isLast : i = first + count
      · subst isLast
        rw [if_pos ⟨isContext, rfl⟩,
          if_pos ⟨isContext, Nat.le_add_right _ _, by omega⟩]
        exact ite_self _
      · have sameRange : first ≤ i ∧ i < first + (count + 1) ↔
            first ≤ i ∧ i < first + count := by
          omega
        rw [if_neg fun both => isLast both.2]
        simp only [sameRange]
    · rw [if_neg fun both => isContext both.1,
        if_neg fun both => isContext both.1]
      exact if_neg fun both => isContext both.1

/-- The same, by the indices that the heap covers. -/
theorem mmuInsertHeap_eq
    {heap : MmuHeap}
    (isMade : HeapOf heap.psMMUContext heap.psDevArena heap)
    (state : MmuState)
    (psMMUContext : Nat) :
    mmuInsertHeap state psMMUContext heap =
      { state with
        pvPDCpuVAddr := fun context i =>
          if context = psMMUContext ∧ heap.psDevArena.Covers i then
            state.pvPDCpuVAddr heap.psMMUContext i
          else state.pvPDCpuVAddr context i } := by
  rw [mmuInsertHeap, mmuInsertHeapUpTo_eq, isMade.pdIndex_base,
    isMade.tableCount]
  rfl

namespace Coherent

variable {table : HeapTable} {heaps : Nat → Option MmuHeap}
  {inserted : List (Nat × DevArenaDescriptor)} {state next : MmuState}
  {pMMUHeap psMMUContext : Nat} {heap : MmuHeap}

/-! ## Steps on tables -/

section

variable (coherent : Coherent table heaps inserted state)
include coherent

/-- The invariant reads the contexts, the directories, the addresses of the
page tables and the pages they are on. -/
theorem congr
    (contexts : next.pvMMUContextList = state.pvMMUContextList)
    (entry : next.pvPDCpuVAddr = state.pvPDCpuVAddr)
    (pageAt : next.pageAt = state.pageAt)
    (pages : next.pageTables = state.pageTables) :
    Coherent table heaps inserted next := by
  constructor
  · rw [contexts]
    exact coherent.listed
  · rw [contexts]
    exact coherent.made
  · exact coherent.unique
  · rw [contexts]
    exact coherent.held
  · rw [entry, pageAt]
    exact coherent.own
  · rw [entry]
    exact coherent.mirrored
  · rw [contexts, entry]
    exact coherent.vacant
  · rw [contexts, pageAt]
    exact coherent.owned
  · rw [contexts, pageAt, pages]
    exact coherent.live
  · rw [contexts, pageAt]
    exact coherent.distinct

/-- A step that changes no table keeps the invariant. -/
theorem same
    (same : SameTables state next) :
    Coherent table heaps inserted next :=
  coherent.congr same.contexts same.entry same.pageAt same.pages

/-- A live heap with an index of another is for the same range, is not shared,
and is in another context. -/
theorem other_heap
    {left right : Nat}
    {leftHeap rightHeap : MmuHeap}
    {index : Nat}
    (isLeft : heaps left = some leftHeap)
    (isRight : heaps right = some rightHeap)
    (inLeft : leftHeap.psDevArena.Covers index)
    (inRight : rightHeap.psDevArena.Covers index)
    (different : right ≠ left) :
    rightHeap.psDevArena = leftHeap.psDevArena ∧
      leftHeap.psDevArena.DevMemHeapType.isShared = false ∧
      rightHeap.psMMUContext ≠ leftHeap.psMMUContext := by
  have sameArena := table.covers_unique
    (coherent.made right rightHeap isRight).1
    (coherent.made left leftHeap isLeft).1 inRight inLeft
  refine ⟨sameArena, ?_, ?_⟩
  · by_contra shared
    exact different (coherent.unique left right leftHeap rightHeap isLeft
      isRight sameArena (.inl (Bool.not_eq_false _ ▸ shared)))
  · intro sameContext
    exact different (coherent.unique left right leftHeap rightHeap isLeft
      isRight sameArena (.inr sameContext))

end

section

variable (coherent : Coherent table heaps inserted state)
include coherent

/-- A change of one page table of a live heap keeps the invariant: where the
heap is shared its entry is written in every context. -/
theorem change
    {index : Nat}
    {page : Option (BitVec 64)}
    (isHeap : heaps pMMUHeap = some heap)
    (covered : heap.psDevArena.Covers index)
    (changed : TableChange heap index page state next) :
    Coherent table heaps inserted next := by
  obtain ⟨isArena, isListed, isMade⟩ := coherent.made pMMUHeap heap isHeap
  have reachesOwn : heap.Reaches state.pvMMUContextList heap.psMMUContext :=
    MmuHeap.reaches_own isListed
  constructor
  · rw [changed.contexts]
    exact coherent.listed
  · rw [changed.contexts]
    exact coherent.made
  · exact coherent.unique
  · rw [changed.contexts]
    exact coherent.held
  · intro other otherHeap i isOther otherCovers
    rw [changed.entry, changed.pageAt]
    by_cases isIndex : i = index
    · subst isIndex
      by_cases isSame : other = pMMUHeap
      · subst isSame
        cases isHeap.symm.trans isOther
        rw [if_pos ⟨reachesOwn, rfl⟩, if_pos ⟨rfl, rfl⟩]
      · obtain ⟨_, unshared, apart⟩ := coherent.other_heap isHeap isOther
          covered otherCovers isSame
        rw [if_neg fun both => apart (both.1.eq_own unshared),
          if_neg fun both => apart both.1]
        exact coherent.own other otherHeap i isOther otherCovers
    · rw [if_neg fun both => isIndex both.2, if_neg fun both => isIndex both.2]
      exact coherent.own other otherHeap i isOther otherCovers
  · intro context other otherHeap i isInserted isOther otherCovers
    obtain ⟨contextListed, _, shared⟩ := coherent.held _ _ isInserted
    rw [changed.entry, changed.entry]
    by_cases isIndex : i = index
    · subst isIndex
      have isSame : other = pMMUHeap := by
        by_contra different
        obtain ⟨sameArena, unshared, _⟩ := coherent.other_heap isHeap isOther
          covered otherCovers different
        rw [sameArena, unshared] at shared
        contradiction
      subst isSame
      cases isHeap.symm.trans isOther
      rw [if_pos ⟨MmuHeap.reaches_of_shared shared contextListed, rfl⟩,
        if_pos ⟨reachesOwn, rfl⟩]
    · rw [if_neg fun both => isIndex both.2, if_neg fun both => isIndex both.2]
      exact coherent.mirrored context other otherHeap i isInserted isOther
        otherCovers
  · intro context arena i contextListed isTable arenaCovers unreached
    rw [changed.contexts] at contextListed unreached
    rw [changed.entry, if_neg]
    · exact coherent.vacant context arena i contextListed isTable arenaCovers
        unreached
    · rintro ⟨reached, rfl⟩
      exact unreached pMMUHeap heap isHeap
        (table.covers_unique isArena isTable covered arenaCovers) reached
  · intro context arena i address contextListed isTable arenaCovers isPage
    rw [changed.contexts] at contextListed
    rw [changed.pageAt] at isPage
    split_ifs at isPage with isIt
    · obtain ⟨rfl, rfl⟩ := isIt
      exact ⟨pMMUHeap, heap, isHeap,
        table.covers_unique isArena isTable covered arenaCovers, rfl⟩
    · exact coherent.owned context arena i address contextListed isTable
        arenaCovers isPage
  · intro context i address contextListed isPage
    rw [changed.contexts] at contextListed
    rw [changed.pageAt] at isPage
    split_ifs at isPage with isIt
    · exact (changed.fresh address isPage).1
    · refine changed.kept address
        (coherent.live context i address contextListed isPage) ?_
      intro isOld
      exact isIt (coherent.distinct context heap.psMMUContext i index address
        contextListed isListed isPage isOld)
  · intro left right i j address leftListed rightListed atLeft atRight
    rw [changed.contexts] at leftListed rightListed
    rw [changed.pageAt] at atLeft atRight
    split_ifs at atLeft atRight with isLeft isRight isRight
    · exact ⟨isLeft.1.trans isRight.1.symm, isLeft.2.trans isRight.2.symm⟩
    · exact absurd
        (coherent.live right j address rightListed atRight)
        (changed.fresh address atLeft).2
    · exact absurd
        (coherent.live left i address leftListed atLeft)
        (changed.fresh address atRight).2
    · exact coherent.distinct left right i j address leftListed rightListed
        atLeft atRight

/-- Whatever a loop does to the tables of a live heap keeps the invariant. -/
theorem steps
    (isHeap : heaps pMMUHeap = some heap)
    {taken : BitVec 64 → Prop}
    (steps : TableSteps heap taken state next) :
    Coherent table heaps inserted next := by
  induction steps with
  | refl => exact coherent
  | tail _ step ih =>
    cases step with
    | same same => exact ih.same same
    | change index page covered _ changed =>
      exact ih.change isHeap covered changed

/-! ## Contexts -/

/-- A new context has an empty directory and no page tables. -/
theorem initialise
    (isNew : psMMUContext ∉ state.pvMMUContextList) :
    Coherent table heaps inserted (mmuInitialise state psMMUContext) := by
  have ne_new : ∀ context, context ∈ state.pvMMUContextList →
      context ≠ psMMUContext := by
    rintro context contextListed rfl
    exact isNew contextListed
  have entry : ∀ context, context ≠ psMMUContext →
      (mmuInitialise state psMMUContext).pvPDCpuVAddr context =
        state.pvPDCpuVAddr context :=
    fun context different => update_of_ne different _ _
  have entryNew : (mmuInitialise state psMMUContext).pvPDCpuVAddr
      psMMUContext = fun _ => 0 :=
    update_self _ _ _
  have page : ∀ context, context ≠ psMMUContext →
      (mmuInitialise state psMMUContext).pageAt context =
        state.pageAt context := by
    intro context different
    funext index
    unfold MmuState.pageAt
    rw [show (mmuInitialise state psMMUContext).apsPTInfoList context =
      state.apsPTInfoList context from update_of_ne different _ _]
  have pageNew : ∀ index,
      (mmuInitialise state psMMUContext).pageAt psMMUContext index = none := by
    intro index
    unfold MmuState.pageAt
    rw [show (mmuInitialise state psMMUContext).apsPTInfoList psMMUContext =
      fun _ => none from update_self _ _ _]
    rfl
  have old : ∀ context index address,
      context ∈ (mmuInitialise state psMMUContext).pvMMUContextList →
      (mmuInitialise state psMMUContext).pageAt context index = some address →
      context ∈ state.pvMMUContextList ∧
        state.pageAt context index = some address := by
    intro context index address contextListed isPage
    rcases List.mem_cons.mp contextListed with rfl | inOld
    · rw [pageNew] at isPage
      contradiction
    · rw [page context (ne_new context inOld)] at isPage
      exact ⟨inOld, isPage⟩
  constructor
  · exact List.nodup_cons.mpr ⟨isNew, coherent.listed⟩
  · intro pMMUHeap heap isHeap
    obtain ⟨isArena, isListed, isMade⟩ := coherent.made pMMUHeap heap isHeap
    exact ⟨isArena, List.mem_cons_of_mem _ isListed, isMade⟩
  · exact coherent.unique
  · intro context arena isInserted
    obtain ⟨isListed, isArena, shared⟩ :=
      coherent.held context arena isInserted
    exact ⟨List.mem_cons_of_mem _ isListed, isArena, shared⟩
  · intro pMMUHeap heap index isHeap covered
    have different := ne_new _ (coherent.made pMMUHeap heap isHeap).2.1
    rw [entry _ different, page _ different]
    exact coherent.own pMMUHeap heap index isHeap covered
  · intro context pMMUHeap heap index isInserted isHeap covered
    rw [entry _ (ne_new _ (coherent.made pMMUHeap heap isHeap).2.1),
      entry _ (ne_new _ (coherent.held _ _ isInserted).1)]
    exact coherent.mirrored context pMMUHeap heap index isInserted isHeap
      covered
  · intro context arena index contextListed isTable covered unreached
    rcases List.mem_cons.mp contextListed with rfl | inOld
    · rw [entryNew]
    · rw [entry context (ne_new context inOld)]
      refine coherent.vacant context arena index inOld isTable covered ?_
      intro pMMUHeap heap isHeap isArena reached
      refine unreached pMMUHeap heap isHeap isArena ?_
      unfold MmuHeap.Reaches at reached ⊢
      split_ifs at reached ⊢
      · exact List.mem_cons_of_mem _ reached
      · exact reached
  · intro context arena index address contextListed isTable covered isPage
    obtain ⟨inOld, isOld⟩ := old context index address contextListed isPage
    exact coherent.owned context arena index address inOld isTable covered
      isOld
  · intro context index address contextListed isPage
    obtain ⟨inOld, isOld⟩ := old context index address contextListed isPage
    exact coherent.live context index address inOld isOld
  · intro left right i j address leftListed rightListed atLeft atRight
    obtain ⟨inLeft, isLeft⟩ := old left i address leftListed atLeft
    obtain ⟨inRight, isRight⟩ := old right j address rightListed atRight
    exact coherent.distinct left right i j address inLeft inRight isLeft
      isRight

/-- A context without heaps can go. -/
theorem finalise
    (noHeap : ∀ pMMUHeap heap, heaps pMMUHeap = some heap →
      heap.psMMUContext ≠ psMMUContext) :
    Coherent table heaps
      (inserted.filter fun pair => pair.1 ≠ psMMUContext)
      (mmuFinalise state psMMUContext) := by
  have mem_rest : ∀ context,
      context ∈ (mmuFinalise state psMMUContext).pvMMUContextList ↔
        context ≠ psMMUContext ∧ context ∈ state.pvMMUContextList :=
    fun context => coherent.listed.mem_erase_iff
  have entry : ∀ context, context ≠ psMMUContext →
      (mmuFinalise state psMMUContext).pvPDCpuVAddr context =
        state.pvPDCpuVAddr context :=
    fun context different => update_of_ne different _ _
  have kept : ∀ pair ∈ inserted.filter fun pair => pair.1 ≠ psMMUContext,
      pair ∈ inserted ∧ pair.1 ≠ psMMUContext := by
    intro pair isKept
    obtain ⟨isInserted, different⟩ := List.mem_filter.mp isKept
    exact ⟨isInserted, of_decide_eq_true different⟩
  constructor
  · exact coherent.listed.erase _
  · intro pMMUHeap heap isHeap
    obtain ⟨isArena, isListed, isMade⟩ := coherent.made pMMUHeap heap isHeap
    exact ⟨isArena,
      (mem_rest _).mpr ⟨noHeap pMMUHeap heap isHeap, isListed⟩, isMade⟩
  · exact coherent.unique
  · intro context arena isKept
    obtain ⟨isInserted, different⟩ := kept _ isKept
    obtain ⟨isListed, isArena, shared⟩ :=
      coherent.held context arena isInserted
    exact ⟨(mem_rest _).mpr ⟨different, isListed⟩, isArena, shared⟩
  · intro pMMUHeap heap index isHeap covered
    rw [entry _ (noHeap pMMUHeap heap isHeap)]
    exact coherent.own pMMUHeap heap index isHeap covered
  · intro context pMMUHeap heap index isKept isHeap covered
    obtain ⟨isInserted, different⟩ := kept _ isKept
    rw [entry _ (noHeap pMMUHeap heap isHeap), entry _ different]
    exact coherent.mirrored context pMMUHeap heap index isInserted isHeap
      covered
  · intro context arena index contextListed isTable covered unreached
    obtain ⟨different, inOld⟩ := (mem_rest context).mp contextListed
    rw [entry _ different]
    refine coherent.vacant context arena index inOld isTable covered ?_
    intro pMMUHeap heap isHeap isArena reached
    refine unreached pMMUHeap heap isHeap isArena ?_
    unfold MmuHeap.Reaches at reached ⊢
    split_ifs at reached ⊢
    · exact contextListed
    · exact reached
  · intro context arena index address contextListed isTable covered isPage
    exact coherent.owned context arena index address
      ((mem_rest context).mp contextListed).2 isTable covered isPage
  · intro context index address contextListed isPage
    exact coherent.live context index address
      ((mem_rest context).mp contextListed).2 isPage
  · intro left right i j address leftListed rightListed atLeft atRight
    exact coherent.distinct left right i j address
      ((mem_rest left).mp leftListed).2 ((mem_rest right).mp rightListed).2
      atLeft atRight

/-! ## Heaps -/

/-- A new heap takes over a range that no heap uses. -/
theorem addHeap
    (isNew : heaps pMMUHeap = none)
    (isArena : heap.psDevArena ∈ table.arenas)
    (isListed : heap.psMMUContext ∈ state.pvMMUContextList)
    (isMade : HeapOf heap.psMMUContext heap.psDevArena heap)
    (free : RangeFree heaps heap.psMMUContext heap.psDevArena) :
    Coherent table (update heaps pMMUHeap (some heap)) inserted state := by
  have cases_heap : ∀ other otherHeap,
      update heaps pMMUHeap (some heap) other = some otherHeap →
      (other = pMMUHeap ∧ otherHeap = heap) ∨
        (other ≠ pMMUHeap ∧ heaps other = some otherHeap) := by
    intro other otherHeap isHeap
    rw [Function.update_apply] at isHeap
    split_ifs at isHeap with isIt
    · exact .inl ⟨isIt, (Option.some.inj isHeap).symm⟩
    · exact .inr ⟨isIt, isHeap⟩
  have still : ∀ other otherHeap, heaps other = some otherHeap →
      update heaps pMMUHeap (some heap) other = some otherHeap := by
    intro other otherHeap isHeap
    rw [update_of_ne]
    · exact isHeap
    · rintro rfl
      rw [isNew] at isHeap
      contradiction
  have unreached : ∀ context,
      (heap.psDevArena.DevMemHeapType.isShared = true ∨
        context = heap.psMMUContext) →
      ∀ other otherHeap, heaps other = some otherHeap →
        otherHeap.psDevArena = heap.psDevArena →
        ¬ otherHeap.Reaches state.pvMMUContextList context := by
    intro context which other otherHeap isHeap sameArena reached
    obtain ⟨unshared, apart⟩ := free other otherHeap isHeap sameArena
    rcases which with shared | rfl
    · rw [unshared] at shared
      contradiction
    · exact apart (reached.eq_own (sameArena ▸ unshared)).symm
  constructor
  · exact coherent.listed
  · intro other otherHeap isHeap
    rcases cases_heap other otherHeap isHeap with ⟨_, rfl⟩ | ⟨_, isOld⟩
    · exact ⟨isArena, isListed, isMade⟩
    · exact coherent.made other otherHeap isOld
  · intro left right leftHeap rightHeap isLeft isRight sameArena which
    rcases cases_heap left leftHeap isLeft with ⟨rfl, rfl⟩ | ⟨_, oldLeft⟩
    · rcases cases_heap right rightHeap isRight with ⟨rfl, _⟩ | ⟨_, oldRight⟩
      · rfl
      · obtain ⟨unshared, apart⟩ := free right rightHeap oldRight sameArena
        rcases which with shared | sameContext
        · rw [unshared] at shared
          contradiction
        · exact absurd sameContext apart
    · rcases cases_heap right rightHeap isRight with
        ⟨rfl, rfl⟩ | ⟨_, oldRight⟩
      · obtain ⟨unshared, apart⟩ := free left leftHeap oldLeft sameArena.symm
        rcases which with shared | sameContext
        · rw [← sameArena, unshared] at shared
          contradiction
        · exact absurd sameContext.symm apart
      · exact coherent.unique left right leftHeap rightHeap oldLeft oldRight
          sameArena which
  · exact coherent.held
  · intro other otherHeap index isHeap covered
    rcases cases_heap other otherHeap isHeap with ⟨_, rfl⟩ | ⟨_, isOld⟩
    · rw [coherent.vacant otherHeap.psMMUContext otherHeap.psDevArena index
        isListed isArena covered (unreached _ (.inr rfl))]
      cases isPage : state.pageAt otherHeap.psMMUContext index with
      | none => rfl
      | some address =>
        obtain ⟨owner, ownerHeap, isOwner, sameArena, sameContext⟩ :=
          coherent.owned _ _ index address isListed isArena covered isPage
        exact absurd sameContext (free owner ownerHeap isOwner sameArena).2
    · exact coherent.own other otherHeap index isOld covered
  · intro context other otherHeap index isInserted isHeap covered
    rcases cases_heap other otherHeap isHeap with ⟨_, rfl⟩ | ⟨_, isOld⟩
    · obtain ⟨contextListed, _, shared⟩ := coherent.held _ _ isInserted
      rw [coherent.vacant context otherHeap.psDevArena index contextListed
          isArena covered (unreached _ (.inl shared)),
        coherent.vacant otherHeap.psMMUContext otherHeap.psDevArena index
          isListed isArena covered (unreached _ (.inl shared))]
    · exact coherent.mirrored context other otherHeap index isInserted isOld
        covered
  · intro context arena index contextListed isTable covered noneReaches
    exact coherent.vacant context arena index contextListed isTable covered
      fun other otherHeap isHeap => noneReaches other otherHeap
        (still other otherHeap isHeap)
  · intro context arena index address contextListed isTable covered isPage
    obtain ⟨owner, ownerHeap, isOwner, rest⟩ := coherent.owned context arena
      index address contextListed isTable covered isPage
    exact ⟨owner, ownerHeap, still owner ownerHeap isOwner, rest⟩
  · exact coherent.live
  · exact coherent.distinct

/-- A context whose entries agree with those of a shared heap holds it. -/
theorem addHolder
    {arena : DevArenaDescriptor}
    (shared : arena.DevMemHeapType.isShared = true)
    (isArena : arena ∈ table.arenas)
    (isListed : psMMUContext ∈ state.pvMMUContextList)
    (agrees : ∀ pMMUHeap heap index, heaps pMMUHeap = some heap →
      heap.psDevArena = arena → arena.Covers index →
      state.pvPDCpuVAddr psMMUContext index =
        state.pvPDCpuVAddr heap.psMMUContext index) :
    Coherent table heaps ((psMMUContext, arena) :: inserted) state where
  listed := coherent.listed
  made := coherent.made
  unique := coherent.unique
  held context other isInserted := by
    rcases List.mem_cons.mp isInserted with isNew | isOld
    · cases isNew
      exact ⟨isListed, isArena, shared⟩
    · exact coherent.held context other isOld
  own := coherent.own
  mirrored context pMMUHeap heap index isInserted isHeap covered := by
    rcases List.mem_cons.mp isInserted with isNew | isOld
    · obtain ⟨rfl, sameArena⟩ := Prod.mk.inj isNew
      exact agrees pMMUHeap heap index isHeap sameArena (sameArena ▸ covered)
    · exact coherent.mirrored context pMMUHeap heap index isOld isHeap covered
  vacant := coherent.vacant
  owned := coherent.owned
  live := coherent.live
  distinct := coherent.distinct

/-- A heap whose page tables are gone can go. -/
theorem removeHeap
    (isHeap : heaps pMMUHeap = some heap)
    (cleared : ∀ index, heap.psDevArena.Covers index →
      state.pageAt heap.psMMUContext index = none ∧
        ∀ context, heap.Reaches state.pvMMUContextList context →
          state.pvPDCpuVAddr context index = 0) :
    Coherent table (update heaps pMMUHeap none) inserted state := by
  have old : ∀ other otherHeap,
      update heaps pMMUHeap none other = some otherHeap →
      heaps other = some otherHeap := by
    intro other otherHeap isOther
    rw [Function.update_apply] at isOther
    split_ifs at isOther
    exact isOther
  constructor
  · exact coherent.listed
  · intro other otherHeap isOther
    exact coherent.made other otherHeap (old other otherHeap isOther)
  · intro left right leftHeap rightHeap isLeft isRight
    exact coherent.unique left right leftHeap rightHeap
      (old left leftHeap isLeft) (old right rightHeap isRight)
  · exact coherent.held
  · intro other otherHeap index isOther
    exact coherent.own other otherHeap index (old other otherHeap isOther)
  · intro context other otherHeap index isInserted isOther
    exact coherent.mirrored context other otherHeap index isInserted
      (old other otherHeap isOther)
  · intro context arena index contextListed isTable covered unreached
    by_cases wasReached : heap.psDevArena = arena ∧
        heap.Reaches state.pvMMUContextList context
    · obtain ⟨rfl, reached⟩ := wasReached
      exact (cleared index covered).2 context reached
    · refine coherent.vacant context arena index contextListed isTable covered
        ?_
      intro other otherHeap isOther sameArena reached
      by_cases isIt : other = pMMUHeap
      · subst isIt
        cases isHeap.symm.trans isOther
        exact wasReached ⟨sameArena, reached⟩
      · exact unreached other otherHeap
          ((update_of_ne isIt _ _).trans isOther) sameArena reached
  · intro context arena index address contextListed isTable covered isPage
    obtain ⟨owner, ownerHeap, isOwner, sameArena, sameContext⟩ :=
      coherent.owned context arena index address contextListed isTable covered
        isPage
    refine ⟨owner, ownerHeap, ?_, sameArena, sameContext⟩
    rw [update_of_ne]
    · exact isOwner
    · rintro rfl
      cases isHeap.symm.trans isOwner
      subst sameArena sameContext
      rw [(cleared index covered).1] at isPage
      contradiction
  · exact coherent.live
  · exact coherent.distinct

/-- A context that shares a heap takes over the entries of the heap's own
directory. -/
theorem insertHeap
    (isHeap : heaps pMMUHeap = some heap)
    (shared : heap.psDevArena.DevMemHeapType.isShared = true)
    (isListed : psMMUContext ∈ state.pvMMUContextList) :
    Coherent table heaps ((psMMUContext, heap.psDevArena) :: inserted)
      (mmuInsertHeap state psMMUContext heap) := by
  obtain ⟨isArena, ownListed, isMade⟩ := coherent.made pMMUHeap heap isHeap
  have next_eq := mmuInsertHeap_eq isMade state psMMUContext
  have ownEntry : ∀ index,
      (mmuInsertHeap state psMMUContext heap).pvPDCpuVAddr
          heap.psMMUContext index =
        state.pvPDCpuVAddr heap.psMMUContext index := by
    intro index
    rw [next_eq]
    exact ite_self _
  have copied : ∀ index, heap.psDevArena.Covers index →
      (mmuInsertHeap state psMMUContext heap).pvPDCpuVAddr psMMUContext index =
        state.pvPDCpuVAddr heap.psMMUContext index := by
    intro index covered
    rw [next_eq]
    exact if_pos ⟨rfl, covered⟩
  have elsewhere : ∀ context index,
      ¬ (context = psMMUContext ∧ heap.psDevArena.Covers index) →
      (mmuInsertHeap state psMMUContext heap).pvPDCpuVAddr context index =
        state.pvPDCpuVAddr context index := by
    intro context index other
    rw [next_eq]
    exact if_neg other
  have is_heap : ∀ other otherHeap index, heaps other = some otherHeap →
      otherHeap.psDevArena.Covers index → heap.psDevArena.Covers index →
      otherHeap = heap := by
    intro other otherHeap index isOther otherCovers covered
    by_contra differentHeap
    have different : other ≠ pMMUHeap := by
      rintro rfl
      exact differentHeap (Option.some.inj (isOther.symm.trans isHeap))
    obtain ⟨_, unshared, _⟩ := coherent.other_heap isHeap isOther covered
      otherCovers different
    rw [unshared] at shared
    contradiction
  have kept : Coherent table heaps inserted
      (mmuInsertHeap state psMMUContext heap) := by
    constructor
    · rw [next_eq]
      exact coherent.listed
    · rw [next_eq]
      exact coherent.made
    · exact coherent.unique
    · rw [next_eq]
      exact coherent.held
    · intro other otherHeap index isOther otherCovers
      have page : (mmuInsertHeap state psMMUContext heap).pageAt =
          state.pageAt := by
        rw [next_eq]
        rfl
      rw [page, ← coherent.own other otherHeap index isOther otherCovers]
      by_cases written : otherHeap.psMMUContext = psMMUContext ∧
          heap.psDevArena.Covers index
      · rw [is_heap other otherHeap index isOther otherCovers written.2]
        exact ownEntry index
      · exact elsewhere _ _ written
    · intro context other otherHeap index isInserted isOther otherCovers
      have mirrored := coherent.mirrored context other otherHeap index
        isInserted isOther otherCovers
      by_cases covered : heap.psDevArena.Covers index
      · obtain rfl := is_heap other otherHeap index isOther otherCovers covered
        rw [ownEntry]
        by_cases isIt : context = psMMUContext
        · rw [isIt]
          exact copied index covered
        · rw [elsewhere _ _ fun both => isIt both.1]
          exact mirrored
      · rw [elsewhere _ _ fun both => covered both.2,
          elsewhere _ _ fun both => covered both.2]
        exact mirrored
    · intro context arena index contextListed isTable arenaCovers unreached
      have listedBefore : context ∈ state.pvMMUContextList := by
        rw [next_eq] at contextListed
        exact contextListed
      rw [elsewhere]
      · refine coherent.vacant context arena index listedBefore isTable
          arenaCovers ?_
        rw [next_eq] at unreached
        exact unreached
      · rintro ⟨_, covered⟩
        refine unreached pMMUHeap heap isHeap
          (table.covers_unique isArena isTable covered arenaCovers)
          (MmuHeap.reaches_of_shared shared contextListed)
    · rw [next_eq]
      exact coherent.owned
    · rw [next_eq]
      exact coherent.live
    · rw [next_eq]
      exact coherent.distinct
  refine kept.addHolder shared isArena (by rw [next_eq]; exact isListed) ?_
  intro other otherHeap index isOther sameArena covered
  rw [is_heap other otherHeap index isOther (sameArena ▸ covered) covered,
    ownEntry]
  exact copied index covered

end

end Coherent

end PvrServices.Mmu
