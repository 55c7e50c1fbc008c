import PvrServices.Handles.Allocating

/-!
# Handle batches

Committing or releasing a batch walks the chain of its structures.  The head
of the chain leaves the batch: it is freed or stays as an ordinary handle.
-/

namespace PvrServices.Handles

open List (mem_cons mem_cons_of_mem mem_cons_self nodup_cons)
open Links

namespace HandleBase

/-- The head of the batch without its link. -/
def unchain (base : HandleBase) (index : Nat) : HandleBase :=
  base.modify index fun handle => { handle with ui32NextIndexPlusOne := 0 }

/-- The head of the batch as an ordinary handle. -/
def unbatch (base : HandleBase) (index : Nat) : HandleBase :=
  (base.unchain index).modify index fun handle =>
    { handle with batched := false }

theorem unchain_self (base : HandleBase) (index : Nat) :
    (base.unchain index).handles index =
      { base.handles index with ui32NextIndexPlusOne := 0 } :=
  base.modify_self index _

theorem unchain_of_ne
    (base : HandleBase)
    {index other : Nat}
    (different : other ≠ index) :
    (base.unchain index).handles other = base.handles other :=
  base.modify_of_ne different _

theorem unbatch_self (base : HandleBase) (index : Nat) :
    (base.unbatch index).handles index =
      { base.handles index with
        ui32NextIndexPlusOne := 0
        batched := false } := by
  rw [unbatch, modify_self, unchain_self]

theorem unbatch_of_ne
    (base : HandleBase)
    {index other : Nat}
    (different : other ≠ index) :
    (base.unbatch index).handles other = base.handles other := by
  rw [unbatch, modify_of_ne _ different, base.unchain_of_ne different]

theorem unchain_eType (base : HandleBase) (index other : Nat) :
    ((base.unchain index).handles other).eType =
      (base.handles other).eType := by
  by_cases isHead : other = index
  · rw [isHead, unchain_self]
  · rw [base.unchain_of_ne isHead]

theorem unbatch_eType (base : HandleBase) (index other : Nat) :
    ((base.unbatch index).handles other).eType =
      (base.handles other).eType := by
  by_cases isHead : other = index
  · rw [isHead, unbatch_self]
  · rw [base.unbatch_of_ne isHead]

theorem sameHandles_unchain (base : HandleBase) (index : Nat) :
    SameHandles base (base.unchain index) :=
  SameHandles.modify base index (fun _ => rfl) (fun _ => rfl)
    (fun _ => rfl) (fun _ => rfl)

theorem sameHandles_unbatch (base : HandleBase) (index : Nat) :
    SameHandles base (base.unbatch index) :=
  (base.sameHandles_unchain index).trans
    (SameHandles.modify _ index (fun _ => rfl) (fun _ => rfl)
      (fun _ => rfl) (fun _ => rfl))

end HandleBase

/-- The release of a structure that was freed in the batch retires it again,
and does nothing else. -/
theorem FreesThrough.release_dead
    {state : Type}
    {steps : TreeRelease.Steps state Nat}
    {view : state → HandleBase}
    (through : FreesThrough steps view)
    {now : state}
    {used : Nat → Prop}
    {kids : Nat → List Nat}
    {rank : Nat → Nat}
    (family : Family (view now).slot (view now).Live used kids rank)
    {index : Nat}
    (inUse : used index)
    (dead : ((view now).handles index).eType = handleTypeNone)
    (partly : ((view now).handles index).partiallyFree = true)
    (fuel : Nat) :
    TreeRelease.release steps (fuel + 2) now index =
        some (steps.retire (steps.detach now index) index) ∧
      view (steps.detach now index) = view now := by
  have notLive : ¬ (view now).Live index := fun alive => alive.2 dead
  have siblings : ((view now).handles index).sSiblings = rootEntry index :=
    family.root index inUse (family.dead index inUse notLive)
  have detached : view (steps.detach now index) = view now := by
    have hashed : (view now).removeFromHash index = view now := by
      rw [HandleBase.removeFromHash, partly]
      simp
    rw [through.detach, hashed, HandleBase.unlinkFromParent, siblings]
    exact if_pos rfl
  have head : handleToIndex ((view now).handles index).sChildren.hParent =
      index :=
    (congrArg handleToIndex (family.self index inUse)).trans
      (handleToIndex_indexToHandle (family.bounded index inUse))
  have childless : kids index = [] := by
    apply List.eq_nil_iff_forall_not_mem.mpr
    intro child member
    exact notLive (family.parentLive index child member)
  have next : ((view now).handles index).sChildren.ui32Next = index := by
    have ring := family.ring index inUse
    rw [childless] at ring
    have following := ring.1
    rw [nextOf, slotOf_self] at following
    exact following
  refine ⟨?_, detached⟩
  rw [TreeRelease.release]
  simp only [through.stop, through.first, detached, head, next]
  rw [TreeRelease.releaseFrom, if_pos rfl]

namespace Valid

variable {base : HandleBase} {chain rest : List Nat} {start index : Nat}
  {kids : Nat → List Nat} {rank : Nat → Nat}

section

variable (valid : Valid base chain start (index :: rest) kids rank)
include valid

/-- The chain goes on behind the head of the batch. -/
theorem rest_links
    {after : HandleBase}
    (others : ∀ other, other ≠ index →
      after.handles other = base.handles other) :
    BatchFrom after (base.handles index).ui32NextIndexPlusOne rest := by
  have outside := (nodup_cons.mp valid.occupancy.batchDistinct).1
  apply valid.links.2.congr
  intro other member
  rw [others other]
  rintro rfl
  exact outside member

/-- A live head of the batch becomes an ordinary handle. -/
theorem unbatch
    (alive : base.Live index) :
    Valid (base.unbatch index) chain
      (base.handles index).ui32NextIndexPlusOne rest kids rank := by
  have occupancy := valid.occupancy
  have outside := (nodup_cons.mp occupancy.batchDistinct).1
  have same := base.sameHandles_unbatch index
  have others := @base.unbatch_of_ne index
  have self := base.unbatch_self index
  have eType := base.unbatch_eType index
  have live := same.live eType
  have notInChain : ∀ other ∈ chain, other ≠ index := by
    rintro other member rfl
    exact alive.2 ((occupancy.mem_chain other).mp member).2.1
  refine ⟨valid.sized.congr same.total same.max, ?_,
    valid.rest_links fun _ => others, ?_, ?_⟩
  · refine valid.free.congr rfl rfl rfl ?_
    intro other member
    rw [others (notInChain other member)]
  · refine ⟨?_, ?_, (nodup_cons.mp occupancy.batchDistinct).2, ?_, ?_⟩
    · intro other
      rw [occupancy.mem_chain, same.total, eType, mem_cons, not_or]
      refine and_congr_right fun _ => and_congr_right fun free => ?_
      refine and_iff_right ?_
      rintro rfl
      exact alive.2 free
    · intro other member
      rw [same.total]
      exact occupancy.batchInside other (mem_cons_of_mem _ member)
    · intro other member
      rw [others fun isHead => outside (isHead ▸ member)]
      exact occupancy.batchFlags other (mem_cons_of_mem _ member)
    · intro other aliveAfter notMember
      by_cases isHead : other = index
      · subst isHead
        rw [self]
        exact ⟨rfl, valid.not_partiallyFree alive, rfl⟩
      · rw [others isHead]
        apply occupancy.liveFlags other ((live other).mp aliveAfter)
        rw [mem_cons, not_or]
        exact ⟨isHead, notMember⟩
  · rw [same.slot]
    apply valid.family.congr live
    intro other
    simp only [HandleBase.Used, live, mem_cons]
    by_cases isHead : other = index
    · subst isHead
      exact iff_of_true (Or.inl alive) (Or.inl alive)
    · simp only [isHead, false_or]

section

variable (dead : (base.handles index).eType = handleTypeNone)
include dead

/-- A structure that was freed in the batch has no children. -/
theorem childless_of_dead :
    kids index = [] := by
  apply List.eq_nil_iff_forall_not_mem.mpr
  intro child member
  exact (valid.family.parentLive index child member).2 dead

/-- A head of the batch that was freed leaves the batch. -/
theorem loose_unchain :
    Loose (base.unchain index) chain
      (base.handles index).ui32NextIndexPlusOne rest kids rank index := by
  have occupancy := valid.occupancy
  have outside := (nodup_cons.mp occupancy.batchDistinct).1
  have same := base.sameHandles_unchain index
  have others := @base.unchain_of_ne index
  have self := base.unchain_self index
  have notLive : ¬ base.Live index := fun alive => alive.2 dead
  have eType := base.unchain_eType index
  have live := same.live eType
  refine ⟨valid.sized.congr same.total same.max, ?_,
    valid.rest_links fun _ => others, ?_, ?_, outside, ?_, ?_, ?_,
    (nodup_cons.mp occupancy.batchDistinct).2, ?_, ?_, ?_⟩
  · refine valid.free.congr rfl rfl rfl ?_
    intro other member
    have notMember := ((occupancy.mem_chain other).mp member).2.2
    rw [others]
    rintro rfl
    exact notMember mem_cons_self
  · rw [same.total]
    exact occupancy.batchInside index mem_cons_self
  · rw [eType]
    exact dead
  · rw [self]
  · intro other
    rw [occupancy.mem_chain, same.total, eType, mem_cons, not_or]
    tauto
  · intro other member
    rw [same.total]
    exact occupancy.batchInside other (mem_cons_of_mem _ member)
  · intro other member
    rw [others fun isHead => outside (isHead ▸ member)]
    exact occupancy.batchFlags other (mem_cons_of_mem _ member)
  · intro other aliveAfter notMember
    have aliveBefore := (live other).mp aliveAfter
    have notHead : other ≠ index := fun isHead =>
      notLive (isHead ▸ aliveBefore)
    rw [others notHead]
    apply occupancy.liveFlags other aliveBefore
    rw [mem_cons, not_or]
    exact ⟨notHead, notMember⟩
  · rw [same.slot]
    apply valid.family.retire _ (valid.childless_of_dead dead)
    · intro other
      rw [live]
      refine (and_iff_left_of_imp ?_).symm
      rintro alive rfl
      exact notLive alive
    · rintro other (alive | member)
      · exact Or.inl ((live other).mp alive)
      · exact Or.inr (mem_cons_of_mem _ member)
    · exact fun other alive => Or.inl alive
    · exact valid.family.dead index (Or.inr mem_cons_self) notLive

/-- Freeing the head of the batch once more only appends it to the chain of
free structures. -/
theorem freeHandle_unchain :
    (base.unchain index).freeHandle index =
      some ((base.unchain index).appendFree index) := by
  have same := base.sameHandles_unchain index
  have eType := base.unchain_eType index
  have partly : ((base.unchain index).handles index).partiallyFree = true := by
    rw [base.unchain_self]
    exact (valid.occupancy.batchFlags index mem_cons_self).2.mpr dead
  have family := (same.slot.symm ▸ valid.family).congr (same.live eType)
    fun _ => Iff.rfl
  have deadAfter := (eType index).trans dead
  obtain ⟨released, detached⟩ := HandleBase.freesThrough.release_dead family
    (Or.inr mem_cons_self) deadAfter partly
    (2 * (base.unchain index).ui32TotalHandCount)
  have typeKept : (base.unchain index).modify index
      (fun handle => { handle with eType := handleTypeNone }) =
      base.unchain index := by
    have handle : { (base.unchain index).handles index with
        eType := handleTypeNone } = (base.unchain index).handles index := by
      rw [← deadAfter]
    rw [HandleBase.modify, handle, Function.update_eq_self]
  have retired : (base.unchain index).retireHandle index =
      (base.unchain index).appendFree index := by
    rw [HandleBase.retireHandle, typeKept, partly]
    simp
  rw [HandleBase.freeHandle, (HandleBase.freeHandleWithin_eq_release _).1,
    released, detached]
  exact congrArg some retired

end

end

end Valid

/-! ## The loop over the batch -/

/-- What the loop keeps: it neither depends on links and flags, nor is it lost
when a handle is freed with its descendants. -/
structure KeptByLoop (property : HandleBase → Prop) : Prop where
  same : ∀ before after, SameHandles before after →
    (∀ index, (after.handles index).eType = (before.handles index).eType) →
    property before → property after
  freed : ∀ before after rank index removed,
    Freed before after rank [index] removed →
    property before → property after

/-- What the loop keeps of the base and the rest of the batch, when the head
leaves the batch and when it is freed. -/
structure KeptByWalk
    (bCommitBatch : Bool) (rank : Nat → Nat)
    (property : HandleBase → List Nat → Prop) : Prop where
  leave : ∀ before after index rest, SameHandles before after →
    (∀ other, (after.handles other).eType = (before.handles other).eType) →
    ¬ before.Live index ∨ bCommitBatch = true →
    property before (index :: rest) → property after rest
  free : bCommitBatch = false → ∀ before middle after index rest removed,
    SameHandles before middle →
    (∀ other, (middle.handles other).eType = (before.handles other).eType) →
    (∃ used kids, Family middle.slot middle.Live used kids rank) →
    Freed middle after rank [index] removed →
    property before (index :: rest) → property after rest

variable {batch chain : List Nat} {fuel start : Nat} {base : HandleBase}
  {kids : Nat → List Nat} {rank : Nat → Nat}

/-- The loop returns, and leaves an empty batch. -/
theorem Valid.commitOrReleaseLoop_walks
    {bCommitBatch : Bool}
    {property : HandleBase → List Nat → Prop}
    (kept : KeptByWalk bCommitBatch rank property)
    (valid : Valid base chain start batch kids rank)
    (holds : property base batch)
    (enough : batch.length ≤ fuel) :
    ∃ after chain kids,
      HandleBase.commitOrReleaseLoop fuel base bCommitBatch start =
          some after ∧
        Valid after chain 0 [] kids rank ∧ property after [] := by
  induction batch generalizing base chain start fuel kids with
  | nil =>
    obtain rfl : start = 0 := valid.links
    refine ⟨base, chain, kids, ?_, valid, holds⟩
    cases fuel <;> rfl
  | cons index rest ih =>
    obtain rfl : start = index + 1 := valid.links.1
    rw [List.length_cons] at enough
    obtain ⟨fuel, rfl⟩ : ∃ less, fuel = less + 1 := ⟨fuel - 1, by omega⟩
    have enoughRest : rest.length ≤ fuel := by omega
    have unchained : base.modify index (fun handle =>
        { handle with ui32NextIndexPlusOne := 0 }) =
        base.unchain index := rfl
    have unbatched : (base.unchain index).modify index (fun handle =>
        { handle with batched := false }) = base.unbatch index := rfl
    have partly : ((base.unchain index).handles index).partiallyFree =
        (base.handles index).partiallyFree := by
      rw [base.unchain_self]
    have flags := valid.occupancy.batchFlags index mem_cons_self
    simp only [HandleBase.commitOrReleaseLoop, unchained, unbatched, partly]
    by_cases dead : (base.handles index).eType = handleTypeNone
    · have isFree := flags.2.mpr dead
      obtain ⟨appended, same, eType⟩ := (valid.loose_unchain dead).append
      have stillHolds := kept.leave base _ index rest
        ((base.sameHandles_unchain index).trans same)
        (fun other => (eType other).trans (base.unchain_eType index other))
        (Or.inl fun alive => alive.2 dead) holds
      simp only [isFree, Bool.or_true, if_true, valid.freeHandle_unchain dead]
      exact ih appended stillHolds enoughRest
    · have alive : base.Live index :=
        ⟨valid.occupancy.batchInside index mem_cons_self, dead⟩
      have notFree := valid.not_partiallyFree alive
      have unbatchedValid := valid.unbatch alive
      have same := base.sameHandles_unbatch index
      have eType := base.unbatch_eType index
      simp only [notFree, Bool.or_false, Bool.false_eq_true, if_false]
      cases bCommitBatch with
      | true =>
        have stillHolds := kept.leave base _ index rest same eType
          (Or.inr rfl) holds
        exact ih unbatchedValid stillHolds enoughRest
      | false =>
        obtain ⟨middle, _, _, _, result, middleValid, freed⟩ :=
          unbatchedValid.freeHandle ((same.live eType index).mpr alive)
        have holdsBehind := kept.free rfl base _ middle index rest _ same
          eType ⟨_, _, unbatchedValid.family⟩ freed holds
        simp only [result, Bool.not_false, if_true]
        exact ih middleValid holdsBehind enoughRest

/-- A base that the loop over a batch may lead to. -/
def Walked (before after : HandleBase) : Prop :=
  ∀ property, KeptByLoop property → property before → property after

theorem keptByLoop_walked (before : HandleBase) :
    KeptByLoop (Walked before) where
  same := fun middle after same eType walked property kept holds =>
    kept.same middle after same eType (walked property kept holds)
  freed := fun middle after rank index removed freed walked property kept
      holds =>
    kept.freed middle after rank index removed freed
      (walked property kept holds)

theorem KeptByLoop.walks
    {bCommitBatch : Bool}
    {property : HandleBase → Prop}
    (kept : KeptByLoop property) :
    KeptByWalk bCommitBatch rank fun base _ => property base :=
  ⟨fun before after _ _ same eType _ => kept.same before after same eType,
    fun _ before middle after index _ removed same eType _ freed holds =>
      kept.freed middle after rank index removed freed
        (kept.same before middle same eType holds)⟩

/-- The loop keeps what freeing handles keeps. -/
theorem Valid.commitOrReleaseLoop
    (valid : Valid base chain start batch kids rank)
    (bCommitBatch : Bool)
    (enough : batch.length ≤ fuel) :
    ∃ after chain kids,
      HandleBase.commitOrReleaseLoop fuel base bCommitBatch start =
          some after ∧
        Valid after chain 0 [] kids rank ∧ Walked base after :=
  valid.commitOrReleaseLoop_walks (keptByLoop_walked base).walks
    (fun _ _ holds => holds) enough

/-- A batch has no more structures than the array. -/
theorem batch_length_le
    (distinct : batch.Nodup)
    (inside : ∀ index ∈ batch, index < base.ui32TotalHandCount) :
    batch.length ≤ base.ui32TotalHandCount := by
  calc
    batch.length = batch.toFinset.card :=
      (List.toFinset_card_of_nodup distinct).symm
    _ ≤ (Finset.range base.ui32TotalHandCount).card := by
      apply Finset.card_le_card
      intro index member
      rw [Finset.mem_range]
      exact inside index (List.mem_toFinset.mp member)
    _ = base.ui32TotalHandCount := Finset.card_range _

theorem Valid.batch_length_le
    (valid : Valid base chain start batch kids rank) :
    batch.length ≤ base.ui32TotalHandCount :=
  Handles.batch_length_le valid.occupancy.batchDistinct
    valid.occupancy.batchInside

end PvrServices.Handles
