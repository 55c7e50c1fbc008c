import PvrServices.Handles.PurgingAllocating

/-!
# Batches with purging

The loop over a batch always returns, and frees no handle that it commits.  It
keeps the counts if no handle of the batch has been released before: then a
handle that it frees has no children, since those come first in the batch.
-/

namespace PvrServices.Handles

open HandleBase
open List (mem_cons mem_cons_of_mem mem_cons_self nodup_cons not_mem_nil)

/-! ## Walking through a batch -/

section

variable {purging : PurgingBase} {index : Nat}

/-- One round of the loop. -/
theorem PurgingBase.commitOrReleaseLoop_round
    (fuel : Nat)
    (bCommitBatch : Bool) :
    PurgingBase.commitOrReleaseLoop (fuel + 1) purging bCommitBatch
        (index + 1) =
      if !bCommitBatch || (purging.base.handles index).partiallyFree then
        (PurgingBase.freeHandle
          { purging with
            base :=
              if (purging.base.handles index).partiallyFree then
                purging.base.unchain index
              else purging.base.unbatch index } index).bind fun after =>
          PurgingBase.commitOrReleaseLoop fuel after bCommitBatch
            (purging.base.handles index).ui32NextIndexPlusOne
      else
        PurgingBase.commitOrReleaseLoop fuel
          { purging with base := purging.base.unbatch index } bCommitBatch
          (purging.base.handles index).ui32NextIndexPlusOne := by
  have unchained : purging.base.modify index (fun handle =>
      { handle with ui32NextIndexPlusOne := 0 }) =
      purging.base.unchain index := rfl
  have unbatched : (purging.base.unchain index).modify index (fun handle =>
      { handle with batched := false }) = purging.base.unbatch index := rfl
  have partly : ((purging.base.unchain index).handles index).partiallyFree =
      (purging.base.handles index).partiallyFree := by
    rw [unchain_self]
  rw [PurgingBase.commitOrReleaseLoop]
  simp only [unchained, unbatched, partly]
  split
  · generalize PurgingBase.freeHandle _ index = freed
    cases freed <;> rfl
  · rfl

end

/-- What the loop over a batch needs of the rest of the batch.  The counts of
free structures are no part of it. -/
structure Walkable
    (base : HandleBase)
    (start : Nat)
    (batch : List Nat)
    (kids : Nat → List Nat)
    (rank : Nat → Nat) : Prop where
  links : BatchFrom base start batch
  inside : ∀ index ∈ batch, index < base.ui32TotalHandCount
  distinct : batch.Nodup
  own : ∀ index ∈ batch,
    (base.handles index).batched = true ∧
      ((base.handles index).partiallyFree = true ↔
        (base.handles index).eType = handleTypeNone)
  others : ∀ index, base.Live index → index ∉ batch →
    (base.handles index).partiallyFree = false
  family : Family base.slot base.Live (base.Used batch) kids rank

theorem PurgingValid.walkable
    {purging : PurgingBase}
    {start : Nat}
    {batch : List Nat}
    {kids : Nat → List Nat}
    {rank : Nat → Nat}
    (valid : PurgingValid purging start batch kids rank) :
    Walkable purging.base start batch kids rank :=
  ⟨valid.links, valid.flagged.inside, valid.flagged.distinct,
    valid.flagged.own, fun index alive outside =>
      (valid.flagged.others index alive.1 outside).2, valid.family⟩

namespace Walkable

section

variable {base after : HandleBase} {batch rest : List Nat}
  {start index : Nat} {kids : Nat → List Nat} {rank : Nat → Nat}

theorem not_partiallyFree
    (walk : Walkable base start batch kids rank)
    (alive : base.Live index) :
    (base.handles index).partiallyFree = false := by
  by_cases inBatch : index ∈ batch
  · rw [← Bool.not_eq_true, (walk.own index inBatch).2]
    exact alive.2
  · exact walk.others index alive inBatch

/-- The head leaves the batch. -/
theorem leave
    (walk : Walkable base start (index :: rest) kids rank)
    (same : SameHandles base after)
    (eType : ∀ other,
      (after.handles other).eType = (base.handles other).eType)
    (others : ∀ other, other ≠ index →
      after.handles other = base.handles other)
    (intact : base.Live index →
      (after.handles index).partiallyFree = false) :
    Walkable after (base.handles index).ui32NextIndexPlusOne rest kids
      rank := by
  obtain ⟨outside, distinct⟩ := nodup_cons.mp walk.distinct
  have live := same.live eType
  have notHead : ∀ other ∈ rest, other ≠ index := fun other member isHead =>
    outside (isHead ▸ member)
  refine ⟨?_, fun other member => ?_, distinct, fun other member => ?_,
    fun other aliveAfter notMember => ?_, ?_⟩
  · apply walk.links.2.congr
    intro other member
    rw [others other (notHead other member)]
  · rw [same.total]
    exact walk.inside other (mem_cons_of_mem _ member)
  · rw [others other (notHead other member)]
    exact walk.own other (mem_cons_of_mem _ member)
  · have alive := (live other).mp aliveAfter
    by_cases isHead : other = index
    · subst isHead
      exact intact alive
    · rw [others other isHead]
      apply walk.others other alive
      rw [mem_cons, not_or]
      exact ⟨isHead, notMember⟩
  · rw [same.slot]
    have used : ∀ other, after.Used rest other →
        base.Used (index :: rest) other := by
      rintro other (alive | member)
      · exact Or.inl ((live other).mp alive)
      · exact Or.inr (mem_cons_of_mem _ member)
    by_cases alive : base.Live index
    · apply walk.family.congr live
      intro other
      refine ⟨used other, ?_⟩
      rintro (aliveBefore | member)
      · exact Or.inl ((live other).mpr aliveBefore)
      · rcases mem_cons.mp member with rfl | inRest
        · exact Or.inl ((live other).mpr alive)
        · exact Or.inr inRest
    · have inUse : base.Used (index :: rest) index := Or.inr mem_cons_self
      refine walk.family.retire (walk.family.dead index inUse alive) ?_ ?_
        used fun other aliveAfter => Or.inl aliveAfter
      · apply List.eq_nil_iff_forall_not_mem.mpr
        exact fun child member =>
          alive (walk.family.parentLive index child member)
      · intro other
        rw [live]
        refine (and_iff_left_of_imp ?_).symm
        rintro aliveOther rfl
        exact alive aliveOther

/-- The first part of `FreeHandle`. -/
theorem detach
    (walk : Walkable base start batch kids rank)
    (alive : base.Live index) :
    Walkable ((base.removeFromHash index).unlinkFromParent index) start batch
      (fun parent => (kids parent).erase index) rank := by
  have intact := walk.not_partiallyFree alive
  obtain ⟨hashTab, result, _⟩ := removeFromHash_eq intact
  have same := SameData.unlinkFromParent { base with hashTab } index
  obtain ⟨family, _, detached⟩ := walk.family.detach alive intact
  have live := detached.live
  have total := detached.total
  rw [result] at family live total ⊢
  refine ⟨walk.links.congr fun other _ => same.link other,
    fun other member => ?_, walk.distinct, fun other member => ?_,
    fun other aliveAfter outside => ?_, ?_⟩
  · rw [total]
    exact walk.inside other member
  · rw [same.batched, same.partiallyFree, same.eType]
    exact walk.own other member
  · rw [same.partiallyFree]
    exact walk.others other ((live other).mp aliveAfter) outside
  · exact family.congr (fun _ => Iff.rfl) fun other =>
      or_congr_left (live other)

end

variable {purging : PurgingBase} {batch rest : List Nat}
  {start index : Nat} {kids : Nat → List Nat} {rank : Nat → Nat}

/-- The second part of `FreeHandle`. -/
theorem retire
    (walk : Walkable purging.base start batch kids rank)
    (alive : purging.base.Live index)
    (isRoot : purging.base.parentHandle index = 0)
    (childless : kids index = []) :
    Walkable (purging.retireHandle index).base start batch kids rank := by
  have retired := purging.retired_retireHandle index
  have same := retired.same
  have live := retired.live
  refine ⟨?_, fun other member => ?_, walk.distinct,
    fun other member => ?_, fun other aliveAfter outside => ?_, ?_⟩
  · apply walk.links.congr
    intro other _
    by_cases isIndex : other = index
    · rw [isIndex, purging.retireHandle_self]
      rfl
    · rw [purging.retireHandle_of_ne isIndex]
  · rw [same.total]
    exact walk.inside other member
  · by_cases isIndex : other = index
    · subst isIndex
      rw [purging.retireHandle_self, PurgingBase.retired,
        (walk.own other member).1]
      exact ⟨rfl, iff_of_true rfl rfl⟩
    · rw [purging.retireHandle_of_ne isIndex]
      exact walk.own other member
  · obtain ⟨aliveBefore, different⟩ := (live other).mp aliveAfter
    rw [purging.retireHandle_of_ne different]
    exact walk.others other aliveBefore outside
  · rw [same.slot]
    apply walk.family.retire isRoot childless live
    · rintro other (stillAlive | member)
      · exact Or.inl ((live other).mp stillAlive).1
      · exact Or.inr member
    · exact fun other stillAlive => Or.inl stillAlive

/-- `FreeHandle` returns, and frees the subtree of the handle. -/
theorem freeHandle
    (walk : Walkable purging.base start batch kids rank)
    (alive : purging.base.Live index) :
    ∃ after kids removed, purging.freeHandle index = some after ∧
      Walkable after.base start batch kids rank ∧
      Freed purging.base after.base rank [index] removed := by
  have fewer := purging.base.card_liveHandles_le
  have releasable : TreeRelease.Releasable PurgingBase.freeSteps
      (fun purging => purging.base.liveHandles)
      (fun purging kids => Walkable purging.base start batch kids rank) rank
      (fun before after roots removed =>
        Freed before.base after.base rank roots removed) := by
    apply releasable_of_family PurgingBase.countsThrough.toFreesThrough
    · exact fun kept => ⟨_, kept.family⟩
    · exact fun kept aliveHere => kept.not_partiallyFree aliveHere
    · exact fun kept aliveHere => kept.detach aliveHere
    · exact fun kept aliveHere isRoot childless =>
        kept.retire aliveHere isRoot childless
  obtain ⟨after, otherKids, removed, result, kept, _, freed, _⟩ :=
    releasable.release_spec walk (mem_liveHandles.mpr alive)
      (show 2 * purging.base.liveHandles.card + 2 ≤
        2 * purging.base.ui32TotalHandCount + 2 by omega)
  exact ⟨after, otherKids, removed, result, kept, freed⟩

/-- Freeing the head of the batch once more frees nothing. -/
theorem freeHandle_dead
    (walk : Walkable purging.base start (index :: rest) kids rank)
    (dead : (purging.base.handles index).eType = handleTypeNone) :
    ∃ after, ({ purging with base := purging.base.unchain index } :
        PurgingBase).freeHandle index = some after ∧
      SameHandles purging.base after.base ∧
      (∀ other, (after.base.handles other).eType =
        (purging.base.handles other).eType) ∧
      Walkable after.base (purging.base.handles index).ui32NextIndexPlusOne
        rest kids rank := by
  let now : PurgingBase :=
    { purging with base := purging.base.unchain index }
  have same := purging.base.sameHandles_unchain index
  have eType := purging.base.unchain_eType index
  have family : Family now.base.slot now.base.Live
      (purging.base.Used (index :: rest)) kids rank :=
    (same.slot.symm ▸ walk.family).congr (same.live eType) fun _ => Iff.rfl
  have partly : (now.base.handles index).partiallyFree = true := by
    change ((purging.base.unchain index).handles index).partiallyFree = true
    rw [purging.base.unchain_self]
    exact (walk.own index mem_cons_self).2.mpr dead
  obtain ⟨released, detached⟩ :=
    PurgingBase.countsThrough.toFreesThrough.release_dead family
      (Or.inr mem_cons_self) ((eType index).trans dead) partly
      (2 * now.base.ui32TotalHandCount)
  have retired := PurgingBase.countsThrough.retire
    (PurgingBase.freeSteps.detach now index) index
  have others : ∀ other, other ≠ index →
      ((PurgingBase.freeSteps.retire
        (PurgingBase.freeSteps.detach now index) index).base.handles other) =
        purging.base.handles other := by
    intro other different
    refine (PurgingBase.retireHandle_of_ne _ different).trans ?_
    exact (congrArg (fun base => base.handles other) detached).trans
      (purging.base.unchain_of_ne different)
  rw [detached] at retired
  have sameAfter := same.trans retired.same
  have eTypeAfter : ∀ other, ((PurgingBase.freeSteps.retire
      (PurgingBase.freeSteps.detach now index) index).base.handles
        other).eType = (purging.base.handles other).eType := by
    intro other
    by_cases isIndex : other = index
    · rw [isIndex, retired.eType, if_pos rfl, dead]
    · rw [others other isIndex]
  exact ⟨_, released, sameAfter, eTypeAfter, walk.leave sameAfter eTypeAfter
    others fun alive => absurd dead alive.2⟩

/-- The loop returns, whatever has been released before. -/
theorem commitOrReleaseLoop
    {bCommitBatch : Bool}
    {property : HandleBase → List Nat → Prop}
    (kept : KeptByWalk bCommitBatch rank property)
    {fuel : Nat}
    (walk : Walkable purging.base start batch kids rank)
    (holds : property purging.base batch)
    (enough : batch.length ≤ fuel) :
    ∃ after, PurgingBase.commitOrReleaseLoop fuel purging bCommitBatch start =
        some after ∧
      property after.base [] := by
  induction batch generalizing purging start fuel kids with
  | nil =>
    obtain rfl : start = 0 := walk.links
    refine ⟨purging, ?_, holds⟩
    cases fuel <;> rfl
  | cons index rest ih =>
    obtain rfl : start = index + 1 := walk.links.1
    rw [List.length_cons] at enough
    obtain ⟨fuel, rfl⟩ : ∃ less, fuel = less + 1 := ⟨fuel - 1, by omega⟩
    have enoughRest : rest.length ≤ fuel := by omega
    have flags := walk.own index mem_cons_self
    by_cases dead : (purging.base.handles index).eType = handleTypeNone
    · obtain ⟨after, result, same, eType, walkRest⟩ :=
        walk.freeHandle_dead dead
      rw [PurgingBase.commitOrReleaseLoop_round, flags.2.mpr dead,
        Bool.or_true, if_pos rfl, if_pos rfl, result]
      exact ih walkRest (kept.leave _ _ index rest same eType
        (Or.inl fun alive => alive.2 dead) holds) enoughRest
    · have alive : purging.base.Live index :=
        ⟨walk.inside index mem_cons_self, dead⟩
      have notFree := walk.not_partiallyFree alive
      have same := purging.base.sameHandles_unbatch index
      have eType := purging.base.unbatch_eType index
      have walkRest := walk.leave same eType
        (fun other => purging.base.unbatch_of_ne)
        fun _ => by rw [purging.base.unbatch_self]; exact notFree
      rw [PurgingBase.commitOrReleaseLoop_round, notFree, Bool.or_false]
      cases bCommitBatch with
      | true =>
        exact ih walkRest (kept.leave _ _ index rest same eType
          (Or.inr rfl) holds) enoughRest
      | false =>
        obtain ⟨middle, _, removed, result, walkMiddle, freed⟩ :
            ∃ middle kids removed,
              ({ purging with base := purging.base.unbatch index } :
                PurgingBase).freeHandle index = some middle ∧
              Walkable middle.base _ rest kids rank ∧
              Freed (purging.base.unbatch index) middle.base rank [index]
                removed :=
          freeHandle walkRest ((same.live eType index).mpr alive)
        simp only [result, Bool.false_eq_true, if_false]
        exact ih walkMiddle (kept.free rfl _ _ _ index rest removed same
          eType ⟨_, _, walkRest.family⟩ freed holds) enoughRest

end Walkable

/-! ## Batches of live handles -/

theorem BatchOrder.nil (base : HandleBase) : BatchOrder base [] where
  own := fun _ _ _ _ member => absurd member not_mem_nil
  order := List.Pairwise.nil

variable {rank : Nat → Nat} {index : Nat}

/-- Freeing a handle without children frees nothing else. -/
theorem Freed.eq_root
    {before after : HandleBase}
    {removed : List Nat}
    (freed : Freed before after rank [index] removed)
    (ranked : before.Ranked rank)
    (childless : ∀ child, before.Live child →
      before.parentHandle child ≠ indexToHandle index)
    {other : Nat}
    (member : other ∈ removed) :
    other = index := by
  have alive := freed.alive other member
  rcases (freed.mem_removed_iff ranked alive).mp member with same | ancestor
  · exact same
  · exfalso
    clear member
    generalize same : indexToHandle index = handle at ancestor
    induction ancestor with
    | parent other => exact childless other alive same.symm
    | @above other parent _ field _ ih =>
      exact ih (ranked other parent alive field).1 same

namespace PurgingValid

variable {purging : PurgingBase} {rest batch : List Nat}
  {start index fuel : Nat} {kids : Nat → List Nat} {rank : Nat → Nat}

/-- A live head of the batch becomes an ordinary handle. -/
theorem unbatch
    (valid : PurgingValid purging start (index :: rest) kids rank)
    (alive : purging.base.Live index) :
    PurgingValid { purging with base := purging.base.unbatch index }
      (purging.base.handles index).ui32NextIndexPlusOne rest kids rank := by
  have flagged := valid.flagged
  have same := purging.base.sameHandles_unbatch index
  have others := @unbatch_of_ne purging.base index
  have self := purging.base.unbatch_self index
  have eType := purging.base.unbatch_eType index
  have intact := valid.not_partiallyFree alive
  have walk := valid.walkable.leave same eType (fun _ => others)
    fun _ => by rw [self]; exact intact
  have flaggedAfter : Flagged (purging.base.unbatch index) rest := by
    refine ⟨walk.inside, walk.distinct, walk.own,
      fun other inside notMember => ?_⟩
    rw [same.total] at inside
    by_cases isHead : other = index
    · subst isHead
      rw [self]
      exact ⟨rfl, intact⟩
    · rw [others isHead]
      apply flagged.others other inside
      rw [mem_cons, not_or]
      exact ⟨isHead, notMember⟩
  have free : ∀ other, (purging.base.handles other).eType = handleTypeNone →
      (other ∉ index :: rest ↔ other ∉ rest) := by
    intro other dead
    rw [mem_cons, not_or]
    refine and_iff_right ?_
    rintro rfl
    exact alive.2 dead
  refine ⟨valid.sized.congr same.total same.max, ?_, ?_, walk.links,
    flaggedAfter, walk.family⟩
  · refine valid.counted.congr same.total ?_ rfl rfl
    ext other
    rw [flagged.mem_freeHandles]
    refine flaggedAfter.mem_freeHandles.trans ?_
    rw [same.total, eType]
    exact and_congr_right fun _ => and_congr_right fun dead =>
      (free other dead).symm
  · refine valid.first.congr rfl (le_of_eq same.total) ?_
    intro other inside isFree
    rw [same.total] at inside
    obtain ⟨dead, notMember⟩ := (flagged.isFree_iff inside).mp isFree
    rw [flaggedAfter.isFree_iff (same.total.symm ▸ inside), eType]
    exact ⟨dead, (free other dead).mp notMember⟩

/-! ## The loop over the batch -/

/-- The commit of a batch of live handles makes them ordinary handles. -/
theorem commitLoop
    (valid : PurgingValid purging start batch kids rank)
    (alive : ∀ index ∈ batch, purging.base.Live index)
    (enough : batch.length ≤ fuel) :
    ∃ after, PurgingBase.commitOrReleaseLoop fuel purging true start =
        some after ∧
      PurgingValid after 0 [] kids rank := by
  induction batch generalizing purging start fuel with
  | nil =>
    obtain rfl : start = 0 := valid.links
    refine ⟨purging, ?_, valid⟩
    cases fuel <;> rfl
  | cons index rest ih =>
    obtain rfl : start = index + 1 := valid.links.1
    rw [List.length_cons] at enough
    obtain ⟨fuel, rfl⟩ : ∃ less, fuel = less + 1 := ⟨fuel - 1, by omega⟩
    have headAlive := alive index mem_cons_self
    have notFree := valid.not_partiallyFree headAlive
    have same := purging.base.sameHandles_unbatch index
    rw [PurgingBase.commitOrReleaseLoop_round, notFree, if_neg (by simp)]
    refine ih (valid.unbatch headAlive) ?_ (by omega)
    intro other member
    apply (same.live (purging.base.unbatch_eType index) other).mpr
    exact alive other (mem_cons_of_mem _ member)

/-- The release of a batch of live handles frees just these, each without
children since those come first. -/
theorem releaseLoop
    (valid : PurgingValid purging start batch kids rank)
    (ordered : BatchOrder purging.base batch)
    (alive : ∀ index ∈ batch, purging.base.Live index)
    (enough : batch.length ≤ fuel) :
    ∃ after kids, PurgingBase.commitOrReleaseLoop fuel purging false start =
        some after ∧
      PurgingValid after 0 [] kids rank := by
  induction batch generalizing purging start fuel kids with
  | nil =>
    obtain rfl : start = 0 := valid.links
    refine ⟨purging, kids, ?_, valid⟩
    cases fuel <;> rfl
  | cons index rest ih =>
    obtain rfl : start = index + 1 := valid.links.1
    rw [List.length_cons] at enough
    obtain ⟨fuel, rfl⟩ : ∃ less, fuel = less + 1 := ⟨fuel - 1, by omega⟩
    have headAlive := alive index mem_cons_self
    have headOutside := (nodup_cons.mp valid.flagged.distinct).1
    have notFree := valid.not_partiallyFree headAlive
    have same := purging.base.sameHandles_unbatch index
    have unbatched := valid.unbatch headAlive
    have live := same.live (purging.base.unbatch_eType index)
    have parents := same.parentHandle
    obtain ⟨middle, middleKids, removed, result, middleValid, freed⟩ :=
      unbatched.freeHandle ((live index).mpr headAlive)
    have childless : ∀ child, (purging.base.unbatch index).Live child →
        (purging.base.unbatch index).parentHandle child ≠
          indexToHandle index := by
      intro child childAlive field
      have aliveBefore := (live child).mp childAlive
      rw [parents] at field
      have member := ordered.own child index aliveBefore field mem_cons_self
      rcases mem_cons.mp member with rfl | inRest
      · have ranked := valid.family.ranked_of_parent child child
          aliveBefore field
        exact Nat.lt_irrefl _ ranked.2
      · exact (List.pairwise_cons.mp ordered.order).1 child inRest
          aliveBefore field
    have onlyHead : ∀ other ∈ removed, other = index := fun other member =>
      freed.eq_root unbatched.family.ranked_of_parent childless member
    have headFreed := freed.roots_subset index mem_cons_self
    have middleOrder : BatchOrder middle.base rest := by
      have kept : BatchOrder middle.base (index :: rest) := by
        refine ordered.fewer (fun other aliveAfter => ?_)
          fun other aliveAfter => ?_
        · exact (live other).mp ((freed.live other).mp aliveAfter).1
        · rw [freed.parentKept other aliveAfter]
          exact parents other
      refine ⟨fun child parent childAlive field inRest => ?_,
        (List.pairwise_cons.mp kept.order).2⟩
      refine (mem_cons.mp (kept.own child parent childAlive field
        (mem_cons_of_mem _ inRest))).resolve_left ?_
      rintro rfl
      exact ((freed.live child).mp childAlive).2 headFreed
    have middleAlive : ∀ other ∈ rest, middle.base.Live other := by
      intro other member
      refine (freed.live other).mpr ⟨(live other).mpr
        (alive other (mem_cons_of_mem _ member)), fun gone => ?_⟩
      exact headOutside (onlyHead other gone ▸ member)
    obtain ⟨after, lastKids, lastResult, lastValid⟩ :=
      ih middleValid middleOrder middleAlive
        (show rest.length ≤ fuel by omega)
    refine ⟨after, lastKids, ?_, lastValid⟩
    rw [PurgingBase.commitOrReleaseLoop_round, notFree, if_pos (by simp)]
    simp only [Bool.false_eq_true, if_false, result]
    exact lastResult

end PurgingValid

end PvrServices.Handles
