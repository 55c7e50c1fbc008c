import PvrServices.Handles.Invariant

/-!
# Freeing a handle

Freeing a handle unlinks it, frees its children one after the other, and then
appends it to the free chain or leaves it to the batch it belongs to.  What is
freed is the handle with all its descendants.
-/

namespace PvrServices.Handles

open Links

/-! ## Changes outside the list fields -/

namespace HandleBase

theorem slot_modify
    (base : HandleBase)
    (index : Nat)
    {change : Handle → Handle}
    (children : ∀ handle, (change handle).sChildren = handle.sChildren)
    (siblings : ∀ handle, (change handle).sSiblings = handle.sSiblings) :
    (base.modify index change).slot = base.slot := by
  ext field
  cases field with
  | children other =>
    by_cases same : other = index
    · subst same
      simp [slot, modify, children]
    · simp [slot, modify, Function.update_of_ne same]
  | siblings other =>
    by_cases same : other = index
    · subst same
      simp [slot, modify, siblings]
    · simp [slot, modify, Function.update_of_ne same]

theorem modify_self
    (base : HandleBase) (index : Nat) (change : Handle → Handle) :
    (base.modify index change).handles index =
      change (base.handles index) :=
  Function.update_self ..

theorem modify_of_ne
    (base : HandleBase)
    {index other : Nat}
    (different : other ≠ index)
    (change : Handle → Handle) :
    (base.modify index change).handles other = base.handles other :=
  Function.update_of_ne different ..

theorem modify_field
    (base : HandleBase)
    {index : Nat}
    {change : Handle → Handle}
    {β : Type}
    (field : Handle → β)
    (keeps : field (change (base.handles index)) = field (base.handles index))
    (other : Nat) :
    field ((base.modify index change).handles other) =
      field (base.handles other) := by
  by_cases same : other = index
  · rw [same, modify_self, keeps]
  · rw [modify_of_ne base same]

end HandleBase

/-- The bases agree in what the handles hold: all but the index links, the
free chain counters, and the flags of one structure. -/
structure SameHandles (before after : HandleBase) : Prop where
  total : after.ui32TotalHandCount = before.ui32TotalHandCount
  max : after.ui32MaxIndexPlusOne = before.ui32MaxIndexPlusOne
  hash : after.hashTab = before.hashTab
  batchSize : after.ui32HandBatchSize = before.ui32HandBatchSize
  firstBatch : after.ui32FirstBatchIndexPlusOne =
    before.ui32FirstBatchIndexPlusOne
  failures : after.ui32BatchHandAllocFailures =
    before.ui32BatchHandAllocFailures
  slot : after.slot = before.slot
  pvData : ∀ index,
    (after.handles index).pvData = (before.handles index).pvData
  eFlag : ∀ index, (after.handles index).eFlag = (before.handles index).eFlag

variable {after before base : HandleBase} {index : Nat} {chain : List Nat}

theorem SameHandles.trans
    {middle : HandleBase}
    (first : SameHandles before middle)
    (second : SameHandles middle after) :
    SameHandles before after where
  total := second.total.trans first.total
  max := second.max.trans first.max
  hash := second.hash.trans first.hash
  batchSize := second.batchSize.trans first.batchSize
  firstBatch := second.firstBatch.trans first.firstBatch
  failures := second.failures.trans first.failures
  slot := second.slot.trans first.slot
  pvData := fun index => (second.pvData index).trans (first.pvData index)
  eFlag := fun index => (second.eFlag index).trans (first.eFlag index)

theorem SameHandles.live
    (same : SameHandles before after)
    (eType : ∀ index,
      (after.handles index).eType = (before.handles index).eType)
    (other : Nat) :
    after.Live other ↔ before.Live other := by
  rw [HandleBase.Live, HandleBase.Live, same.total, eType]

theorem SameHandles.parentHandle
    (same : SameHandles before after)
    (other : Nat) :
    after.parentHandle other = before.parentHandle other :=
  congrArg HandleList.hParent (congrFun same.slot (.siblings other))

theorem SameHandles.modify
    (base : HandleBase)
    (index : Nat)
    {change : Handle → Handle}
    (children : ∀ handle, (change handle).sChildren = handle.sChildren)
    (siblings : ∀ handle, (change handle).sSiblings = handle.sSiblings)
    (pvData : ∀ handle, (change handle).pvData = handle.pvData)
    (eFlag : ∀ handle, (change handle).eFlag = handle.eFlag) :
    SameHandles base (base.modify index change) where
  total := rfl
  max := rfl
  hash := rfl
  batchSize := rfl
  firstBatch := rfl
  failures := rfl
  slot := base.slot_modify index children siblings
  pvData := base.modify_field Handle.pvData (pvData _)
  eFlag := base.modify_field Handle.eFlag (eFlag _)

/-! ## Appending to the free chain -/

/-- Appending to the free chain changes only its counters and the link of its
last structure. -/
structure Appended
    (before after : HandleBase) (chain : List Nat) (index : Nat) :
    Prop where
  same : SameHandles before after
  eType : ∀ other, (after.handles other).eType = (before.handles other).eType
  batched : ∀ other,
    (after.handles other).batched = (before.handles other).batched
  partiallyFree : ∀ other,
    (after.handles other).partiallyFree =
      (before.handles other).partiallyFree
  link : ∀ other, other ∉ chain.getLast? →
    (after.handles other).ui32NextIndexPlusOne =
      (before.handles other).ui32NextIndexPlusOne
  lastLink : ∀ last ∈ chain.getLast?,
    (after.handles last).ui32NextIndexPlusOne = index + 1
  first : after.ui32FirstFreeIndex = (chain ++ [index]).headD 0
  last : after.ui32LastFreeIndexPlusOne = index + 1
  count : after.ui32FreeHandCount = before.ui32FreeHandCount + 1

theorem FreeChain.appendFree
    (free : FreeChain base chain)
    (index : Nat) :
    Appended base (base.appendFree index) chain index := by
  cases chainEnd : chain.getLast? with
  | none =>
    have empty := List.getLast?_eq_none_iff.mp chainEnd
    subst empty
    have none : base.ui32FreeHandCount = 0 := free.count
    refine ⟨?_, ?_, ?_, ?_, ?_, ?_, ?_, ?_, ?_⟩ <;>
      simp only [HandleBase.appendFree, none, if_true]
    · exact ⟨rfl, rfl, rfl, rfl, rfl, rfl, rfl, fun _ => rfl, fun _ => rfl⟩
    all_goals simp
  | some last =>
    have inChain := List.mem_of_mem_getLast? chainEnd
    have positive : base.ui32FreeHandCount ≠ 0 := by
      rw [free.count]
      exact Nat.ne_of_gt (List.length_pos_of_mem inChain)
    have lastIndex : base.ui32LastFreeIndexPlusOne - 1 = last := by
      rw [(free.last last chainEnd).1]
      rfl
    let link : Handle → Handle := fun handle =>
      { handle with ui32NextIndexPlusOne := index + 1 }
    have changed : SameHandles base (base.modify last link) :=
      SameHandles.modify base last (fun _ => rfl) (fun _ => rfl)
        (fun _ => rfl) (fun _ => rfl)
    have handles : (base.appendFree index).handles =
        (base.modify last link).handles := by
      simp only [HandleBase.appendFree, if_neg positive, lastIndex, link]
    have unchanged : ∀ other,
        (base.modify last link).handles other = base.handles other ∨
          (base.modify last link).handles other =
            link (base.handles other) := by
      intro other
      by_cases same : other = last
      · right
        rw [same, HandleBase.modify_self]
      · left
        exact HandleBase.modify_of_ne base same link
    refine ⟨?_, ?_, ?_, ?_, ?_, ?_, ?_, rfl, ?_⟩
    · have result : base.appendFree index =
          { base.modify last link with
            ui32LastFreeIndexPlusOne := index + 1
            ui32FreeHandCount := base.ui32FreeHandCount + 1 } := by
        simp only [HandleBase.appendFree, if_neg positive, lastIndex]
        rfl
      rw [result]
      exact ⟨changed.total, changed.max, changed.hash, changed.batchSize,
        changed.firstBatch, changed.failures, changed.slot,
        changed.pvData, changed.eFlag⟩
    · intro other
      rw [handles]
      rcases unchanged other with kept | linked
      · rw [kept]
      · rw [linked]
    · intro other
      rw [handles]
      rcases unchanged other with kept | linked
      · rw [kept]
      · rw [linked]
    · intro other
      rw [handles]
      rcases unchanged other with kept | linked
      · rw [kept]
      · rw [linked]
    · intro other notLast
      have different : other ≠ last := by
        rintro rfl
        exact notLast chainEnd
      rw [handles, HandleBase.modify_of_ne base different]
    · intro other isLast
      cases chainEnd.symm.trans isLast
      rw [handles, HandleBase.modify_self]
    · have head : (chain ++ [index]).headD 0 = chain.headD 0 := by
        cases chain with
        | nil => cases chainEnd
        | cons first rest => rfl
      rw [head, ← free.first]
      simp only [HandleBase.appendFree, if_neg positive]
      rfl
    · simp only [HandleBase.appendFree, if_neg positive]
      rfl

/-- The chain after appending a structure that was not in it. -/
theorem Appended.freeChain
    (appended : Appended base after chain index)
    (free : FreeChain base chain)
    (outside : index ∉ chain)
    (unlinked : (base.handles index).ui32NextIndexPlusOne = 0) :
    FreeChain after (chain ++ [index]) where
  count := by
    rw [appended.count, free.count, List.length_append]
    rfl
  first := appended.first
  links := by
    refine chain_append ?_ (List.isChain_singleton index) ?_
    · apply chain_congr _ free.links
      intro first member
      have notLast : first ∉ chain.getLast? := fun isLast =>
        ne_getLast_of_mem_dropLast free.distinct member isLast rfl
      simp only [HandleBase.nextFree, appended.link first notLast]
    · intro last isLast first isFirst
      cases isFirst
      simp [HandleBase.nextFree, appended.lastLink last isLast]
  last := by
    intro last isLast
    rw [List.getLast?_concat] at isLast
    cases isLast
    refine ⟨appended.last, ?_⟩
    rw [appended.link, unlinked]
    exact fun isLast => outside (List.mem_of_mem_getLast? isLast)
  empty := by simp
  distinct := by
    refine List.nodup_append.mpr ⟨free.distinct, by simp, ?_⟩
    rintro other member _ last rfl
    rw [List.mem_singleton.mp last] at member
    exact outside member

/-- A structure that is neither live, nor free, nor in the batch. -/
structure Loose
    (base : HandleBase)
    (chain : List Nat)
    (start : Nat)
    (batch : List Nat)
    (kids : Nat → List Nat)
    (rank : Nat → Nat)
    (index : Nat) : Prop where
  sized : Sized base
  free : FreeChain base chain
  links : BatchFrom base start batch
  inside : index < base.ui32TotalHandCount
  dead : (base.handles index).eType = handleTypeNone
  outside : index ∉ batch
  unlinked : (base.handles index).ui32NextIndexPlusOne = 0
  mem_chain : ∀ other, other ∈ chain ↔
    other < base.ui32TotalHandCount ∧
      (base.handles other).eType = handleTypeNone ∧ other ∉ batch ∧
      other ≠ index
  batchInside : ∀ other ∈ batch, other < base.ui32TotalHandCount
  batchDistinct : batch.Nodup
  batchFlags : ∀ other ∈ batch,
    (base.handles other).batched = true ∧
      ((base.handles other).partiallyFree = true ↔
        (base.handles other).eType = handleTypeNone)
  liveFlags : ∀ other, base.Live other → other ∉ batch →
    (base.handles other).batched = false ∧
      (base.handles other).partiallyFree = false ∧
      (base.handles other).ui32NextIndexPlusOne = 0
  family : Family base.slot base.Live (base.Used batch) kids rank

/-- A loose structure goes to the end of the free chain. -/
theorem Loose.append
    {batch : List Nat}
    {start : Nat}
    {kids : Nat → List Nat}
    {rank : Nat → Nat}
    (loose : Loose base chain start batch kids rank index) :
    Valid (base.appendFree index) (chain ++ [index]) start batch kids rank ∧
      SameHandles base (base.appendFree index) ∧
      ∀ other, ((base.appendFree index).handles other).eType =
        (base.handles other).eType := by
  have appended := loose.free.appendFree index
  have notInChain : index ∉ chain := fun member =>
    ((loose.mem_chain index).mp member).2.2.2 rfl
  have total := appended.same.total
  have live : ∀ other,
      (base.appendFree index).Live other ↔ base.Live other := by
    intro other
    simp only [HandleBase.Live, total, appended.eType]
  have linkKept : ∀ other, other ∉ chain →
      ((base.appendFree index).handles other).ui32NextIndexPlusOne =
        (base.handles other).ui32NextIndexPlusOne := by
    intro other notMem
    apply appended.link
    exact fun isLast => notMem (List.mem_of_mem_getLast? isLast)
  refine ⟨⟨?_, ?_, ?_, ?_, ?_⟩, appended.same, appended.eType⟩
  · exact loose.sized.congr total appended.same.max
  · exact appended.freeChain loose.free notInChain loose.unlinked
  · apply loose.links.congr
    intro other member
    apply linkKept
    exact fun inChain => ((loose.mem_chain other).mp inChain).2.2.1 member
  · refine ⟨?_, ?_, loose.batchDistinct, ?_, ?_⟩
    · intro other
      rw [List.mem_append, List.mem_singleton, loose.mem_chain, total,
        appended.eType]
      by_cases same : other = index
      · subst same
        simp [loose.inside, loose.dead, loose.outside]
      · simp [same]
    · rw [total]
      exact loose.batchInside
    · intro other member
      rw [appended.batched, appended.partiallyFree, appended.eType]
      exact loose.batchFlags other member
    · intro other alive notBatched
      have aliveBefore := (live other).mp alive
      rw [appended.batched, appended.partiallyFree, linkKept]
      · exact loose.liveFlags other aliveBefore notBatched
      · exact fun inChain =>
          aliveBefore.2 ((loose.mem_chain other).mp inChain).2.1
  · rw [appended.same.slot]
    exact loose.family.congr live fun other => by
      simp only [HandleBase.Used, live]

/-! ## Retiring a handle -/

/-- What retiring a handle does to the others: nothing. -/
structure Retired (before after : HandleBase) (index : Nat) : Prop where
  same : SameHandles before after
  eType : ∀ other, (after.handles other).eType =
    if other = index then handleTypeNone else (before.handles other).eType

theorem Retired.live
    (retired : Retired before after index)
    (other : Nat) :
    after.Live other ↔ before.Live other ∧ other ≠ index := by
  simp only [HandleBase.Live, retired.same.total, retired.eType]
  split_ifs with same <;> simp [same]

theorem Retired.modify
    {change : Handle → Handle}
    (same : SameHandles base (base.modify index change))
    (dead : (change (base.handles index)).eType = handleTypeNone) :
    Retired base (base.modify index change) index := by
  refine ⟨same, fun other => ?_⟩
  split_ifs with isIndex
  · rw [isIndex, HandleBase.modify_self, dead]
  · rw [HandleBase.modify_of_ne base isIndex]

namespace HandleBase

/-- Appending to the free chain only sets links. -/
theorem appendFree_handles (base : HandleBase) (index other : Nat) :
    (base.appendFree index).handles other =
      { base.handles other with
        ui32NextIndexPlusOne :=
          ((base.appendFree index).handles other).ui32NextIndexPlusOne } := by
  unfold appendFree
  split_ifs
  · rfl
  · by_cases isLast : other = base.ui32LastFreeIndexPlusOne - 1
    · subst isLast
      simp only [modify_self]
    · simp only [base.modify_of_ne isLast]

theorem sameHandles_appendFree (base : HandleBase) (index : Nat) :
    SameHandles base (base.appendFree index) := by
  have fields : base.appendFree index =
      { base with
        handles := (base.appendFree index).handles
        ui32FreeHandCount := (base.appendFree index).ui32FreeHandCount
        ui32FirstFreeIndex := (base.appendFree index).ui32FirstFreeIndex
        ui32LastFreeIndexPlusOne :=
          (base.appendFree index).ui32LastFreeIndexPlusOne } := by
    unfold appendFree
    split_ifs <;> rfl
  refine ⟨?_, ?_, ?_, ?_, ?_, ?_, ?_, ?_, ?_⟩
  · rw [fields]
  · rw [fields]
  · rw [fields]
  · rw [fields]
  · rw [fields]
  · rw [fields]
  · ext1 field
    cases field with
    | children other | siblings other => rw [slot, appendFree_handles]; rfl
  · intro other
    rw [appendFree_handles]
  · intro other
    rw [appendFree_handles]

/-- Retiring a handle, where the free chain is left out. -/
theorem retireHandle_handles (base : HandleBase) (index other : Nat) :
    ∃ partiallyFree, (other ≠ index →
        partiallyFree = (base.handles other).partiallyFree) ∧
      (base.retireHandle index).handles other =
        { base.handles other with
          eType :=
            if other = index then handleTypeNone
            else (base.handles other).eType
          partiallyFree
          ui32NextIndexPlusOne :=
            ((base.retireHandle index).handles
              other).ui32NextIndexPlusOne } := by
  unfold retireHandle
  simp only
  by_cases same : other = index
  · subst same
    simp only [if_true]
    split_ifs
    · refine ⟨true, fun different => absurd rfl different, ?_⟩
      simp only [modify_self]
    · refine ⟨(base.handles other).partiallyFree, fun _ => rfl, ?_⟩
      rw [appendFree_handles, modify_self]
  · refine ⟨(base.handles other).partiallyFree, fun _ => rfl, ?_⟩
    rw [if_neg same]
    split_ifs
    · rw [modify_of_ne _ same, base.modify_of_ne same]
    · rw [appendFree_handles, base.modify_of_ne same]

theorem retireHandle_batched (base : HandleBase) (index other : Nat) :
    ((base.retireHandle index).handles other).batched =
      (base.handles other).batched := by
  obtain ⟨partiallyFree, _, handle⟩ := base.retireHandle_handles index other
  rw [handle]

theorem retireHandle_partiallyFree
    (base : HandleBase)
    {other : Nat}
    (different : other ≠ index) :
    ((base.retireHandle index).handles other).partiallyFree =
      (base.handles other).partiallyFree := by
  obtain ⟨partiallyFree, kept, handle⟩ := base.retireHandle_handles index other
  rw [handle, kept different]

/-- A handle outside the batch is counted as free. -/
theorem retireHandle_count
    (base : HandleBase)
    (notBatched : (base.handles index).batched = false) :
    (base.retireHandle index).ui32FreeHandCount =
      base.ui32FreeHandCount + 1 := by
  unfold retireHandle
  simp only [modify_self, notBatched, Bool.false_and, Bool.false_eq_true,
    if_false]
  unfold appendFree
  split_ifs <;> rfl

/-- Retiring a handle changes its type only, whatever the free chain is. -/
theorem retired_retireHandle (base : HandleBase) (index : Nat) :
    Retired base (base.retireHandle index) index := by
  refine ⟨?_, fun other => ?_⟩
  · unfold retireHandle
    simp only
    have typed : SameHandles base (base.modify index fun handle =>
        { handle with eType := handleTypeNone }) := by
      apply SameHandles.modify <;> exact fun _ => rfl
    refine typed.trans ?_
    split_ifs
    · apply SameHandles.modify <;> exact fun _ => rfl
    · exact sameHandles_appendFree _ index
  · obtain ⟨partiallyFree, _, handle⟩ := base.retireHandle_handles index other
    rw [handle]

end HandleBase

namespace Valid

variable {base : HandleBase} {chain batch : List Nat} {start index : Nat}
  {kids : Nat → List Nat} {rank : Nat → Nat}

section

variable (valid : Valid base chain start batch kids rank)
  (alive : base.Live index) (isRoot : base.parentHandle index = 0)
  (childless : kids index = [])
include valid alive isRoot childless

/-- A handle of the batch stays in the batch. -/
theorem retire_batched
    (inBatch : index ∈ batch) :
    Valid (base.retireHandle index) chain start batch kids rank ∧
      Retired base (base.retireHandle index) index := by
  have occupancy := valid.occupancy
  obtain ⟨batched, partlyFree⟩ := occupancy.batchFlags index inBatch
  have notPartly : (base.handles index).partiallyFree = false := by
    rw [← Bool.not_eq_true, partlyFree]
    exact alive.2
  let dead (handle : Handle) : Handle :=
    { handle with eType := handleTypeNone, partiallyFree := true }
  have result : base.retireHandle index = base.modify index dead := by
    unfold HandleBase.retireHandle
    simp only [HandleBase.modify_self, batched, notPartly]
    simp only [HandleBase.modify, Function.update_idem, Function.update_self,
      Bool.not_false, Bool.and_self, if_true]
    rfl
  have changed : SameHandles base (base.modify index dead) :=
    SameHandles.modify base index (fun _ => rfl) (fun _ => rfl)
      (fun _ => rfl) (fun _ => rfl)
  have retired : Retired base (base.modify index dead) index :=
    .modify changed rfl
  have linkKept := @base.modify_field index dead _
    Handle.ui32NextIndexPlusOne rfl
  rw [result]
  refine ⟨⟨?_, ?_, ?_, ?_, ?_⟩, retired⟩
  · exact valid.sized.congr rfl rfl
  · exact valid.free.congr rfl rfl rfl fun other _ => linkKept other
  · exact valid.links.congr fun other _ => linkKept other
  · refine ⟨?_, occupancy.batchInside, occupancy.batchDistinct, ?_, ?_⟩
    · intro other
      rw [occupancy.mem_chain, retired.eType]
      split_ifs with same
      · simp [same, inBatch]
      · rfl
    · intro other member
      by_cases same : other = index
      · rw [same, HandleBase.modify_self]
        exact ⟨batched, iff_of_true rfl rfl⟩
      · rw [HandleBase.modify_of_ne base same]
        exact occupancy.batchFlags other member
    · intro other aliveAfter outside
      obtain ⟨aliveBefore, same⟩ := (retired.live other).mp aliveAfter
      rw [HandleBase.modify_of_ne base same]
      exact occupancy.liveFlags other aliveBefore outside
  · rw [changed.slot]
    apply valid.family.retire isRoot childless retired.live
    · rintro other (alive | member)
      · exact Or.inl ((retired.live other).mp alive).1
      · exact Or.inr member
    · exact fun other alive => Or.inl alive

/-- A handle outside the batch becomes free. -/
theorem retire_unbatched
    (outside : index ∉ batch) :
    Valid (base.retireHandle index) (chain ++ [index]) start batch kids
        rank ∧
      Retired base (base.retireHandle index) index := by
  have occupancy := valid.occupancy
  obtain ⟨notBatched, _, unlinked⟩ := occupancy.liveFlags index alive outside
  let dead (handle : Handle) : Handle :=
    { handle with eType := handleTypeNone }
  have result : base.retireHandle index =
      (base.modify index dead).appendFree index := by
    unfold HandleBase.retireHandle
    simp only [HandleBase.modify_self, notBatched, Bool.false_and,
      Bool.false_eq_true, if_false]
    rfl
  have changed : SameHandles base (base.modify index dead) :=
    SameHandles.modify base index (fun _ => rfl) (fun _ => rfl)
      (fun _ => rfl) (fun _ => rfl)
  have retired : Retired base (base.modify index dead) index :=
    .modify changed rfl
  have linkKept := @base.modify_field index dead _
    Handle.ui32NextIndexPlusOne rfl
  have loose : Loose (base.modify index dead) chain start batch kids rank
      index := by
    refine ⟨valid.sized.congr rfl rfl, ?_, ?_, alive.1, ?_, outside, ?_, ?_,
      occupancy.batchInside, occupancy.batchDistinct, ?_, ?_, ?_⟩
    · exact valid.free.congr rfl rfl rfl fun other _ => linkKept other
    · exact valid.links.congr fun other _ => linkKept other
    · rw [HandleBase.modify_self]
    · rw [linkKept]
      exact unlinked
    · intro other
      rw [occupancy.mem_chain, retired.eType, changed.total]
      split_ifs with same
      · subst same
        simp [alive.2]
      · simp [same]
    · intro other member
      have same : other ≠ index := fun same => outside (same ▸ member)
      rw [HandleBase.modify_of_ne base same]
      exact occupancy.batchFlags other member
    · intro other aliveAfter notInBatch
      obtain ⟨aliveBefore, same⟩ := (retired.live other).mp aliveAfter
      rw [HandleBase.modify_of_ne base same]
      exact occupancy.liveFlags other aliveBefore notInBatch
    · rw [changed.slot]
      apply valid.family.retire isRoot childless retired.live
      · rintro other (stillAlive | member)
        · exact Or.inl ((retired.live other).mp stillAlive).1
        · exact Or.inr member
      · exact fun other stillAlive => Or.inl stillAlive
  obtain ⟨kept, same, eType⟩ := loose.append
  rw [result]
  refine ⟨kept, changed.trans same, ?_⟩
  intro other
  rw [eType, retired.eType]

theorem retireHandle :
    (∃ chain, Valid (base.retireHandle index) chain start batch kids rank) ∧
      Retired base (base.retireHandle index) index := by
  by_cases inBatch : index ∈ batch
  · obtain ⟨kept, retired⟩ :=
      valid.retire_batched alive isRoot childless inBatch
    exact ⟨⟨chain, kept⟩, retired⟩
  · obtain ⟨kept, retired⟩ :=
      valid.retire_unbatched alive isRoot childless inBatch
    exact ⟨⟨_, kept⟩, retired⟩

end

end Valid

end PvrServices.Handles
