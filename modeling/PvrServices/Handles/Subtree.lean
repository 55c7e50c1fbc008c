import PvrServices.Handles.Freeing
import PvrServices.Lib.TreeRelease
import Mathlib.Order.Interval.Finset.Nat

/-!
# Freeing a subtree

`FreeHandle` on a live handle frees exactly the handle and its descendants,
removes their keys from the hash table, and leaves every other handle as it
is.  It returns: it is the release of a tree of linked nodes, so the depth of
its calls is bounded by the number of live handles.
-/

namespace PvrServices.Handles

open Links
open List (mem_append mem_append_left mem_append_right mem_cons mem_cons_of_mem
  mem_cons_self mem_singleton)

/-- The live handles in `removed` have been freed: the roots with everything
below them. -/
structure Freed
    (before after : HandleBase)
    (rank : Nat → Nat)
    (roots removed : List Nat) : Prop where
  roots_subset : ∀ root ∈ roots, root ∈ removed
  alive : ∀ index ∈ removed, before.Live index
  closed : ∀ parent ∈ removed, ∀ child, before.Live child →
    before.parentHandle child = indexToHandle parent → child ∈ removed
  parent : ∀ index ∈ removed, index ∈ roots ∨
    ∃ parent ∈ removed, before.parentHandle index = indexToHandle parent
  ranked : ∀ index ∈ removed, ∃ root ∈ roots, rank root ≤ rank index
  live : ∀ index, after.Live index ↔ before.Live index ∧ index ∉ removed
  eType : ∀ index, after.Live index →
    (after.handles index).eType = (before.handles index).eType
  pvData : ∀ index,
    (after.handles index).pvData = (before.handles index).pvData
  eFlag : ∀ index, (after.handles index).eFlag = (before.handles index).eFlag
  parentKept : ∀ index, after.Live index →
    after.parentHandle index = before.parentHandle index
  hash : ∀ key, after.hashTab key =
    if ∃ index ∈ removed, (before.handles index).eFlag.multi = false ∧
        before.keyOf index = key then none
    else before.hashTab key
  total : after.ui32TotalHandCount = before.ui32TotalHandCount
  max : after.ui32MaxIndexPlusOne = before.ui32MaxIndexPlusOne
  batchSize : after.ui32HandBatchSize = before.ui32HandBatchSize
  firstBatch : after.ui32FirstBatchIndexPlusOne =
    before.ui32FirstBatchIndexPlusOne
  failures : after.ui32BatchHandAllocFailures =
    before.ui32BatchHandAllocFailures

namespace Freed

variable {before middle after : HandleBase} {rank : Nat → Nat}
  {roots removed others : List Nat}

theorem nil (base : HandleBase) (rank : Nat → Nat) :
    Freed base base rank [] [] := by
  refine ⟨?_, ?_, ?_, ?_, ?_, ?_, ?_, ?_, ?_, ?_, ?_, rfl, rfl, rfl, rfl,
    rfl⟩ <;> simp

theorem keyOf
    (freed : Freed before after rank roots removed)
    {index : Nat}
    (alive : after.Live index) :
    after.keyOf index = before.keyOf index := by
  simp only [HandleBase.keyOf, HandleBase.parentIfPrivate, freed.pvData,
    freed.eFlag, freed.eType index alive, freed.parentKept index alive]

/-- Freeing first one subtree and then others. -/
theorem append
    {first : Nat}
    {rest : List Nat}
    (one : Freed before middle rank [first] removed)
    (more : Freed middle after rank rest others) :
    Freed before after rank (first :: rest) (removed ++ others) where
  roots_subset := by
    intro root member
    rcases mem_cons.mp member with rfl | inRest
    · exact mem_append_left _ (one.roots_subset _ mem_cons_self)
    · exact mem_append_right _ (more.roots_subset root inRest)
  alive := by
    intro index member
    rcases mem_append.mp member with inFirst | inOthers
    · exact one.alive index inFirst
    · exact ((one.live index).mp (more.alive index inOthers)).1
  closed := by
    intro parent member child childAlive field
    by_cases inFirst : child ∈ removed
    · exact mem_append_left _ inFirst
    · have aliveBetween := (one.live child).mpr ⟨childAlive, inFirst⟩
      rcases mem_append.mp member with parentFirst | parentOther
      · exact mem_append_left _
          (one.closed parent parentFirst child childAlive field)
      · apply mem_append_right
        apply more.closed parent parentOther child aliveBetween
        rw [one.parentKept child aliveBetween]
        exact field
  parent := by
    intro index member
    rcases mem_append.mp member with inFirst | inOthers
    · rcases one.parent index inFirst with root | ⟨parent, inside, field⟩
      · left
        rw [mem_singleton.mp root]
        exact mem_cons_self
      · exact Or.inr ⟨parent, mem_append_left _ inside, field⟩
    · have aliveBetween := more.alive index inOthers
      rcases more.parent index inOthers with root | ⟨parent, inside, field⟩
      · exact Or.inl (mem_cons_of_mem _ root)
      · rw [one.parentKept index aliveBetween] at field
        exact Or.inr ⟨parent, mem_append_right _ inside, field⟩
  ranked := by
    intro index member
    rcases mem_append.mp member with inFirst | inOthers
    · obtain ⟨root, isRoot, le⟩ := one.ranked index inFirst
      rw [mem_singleton.mp isRoot] at le
      exact ⟨first, mem_cons_self, le⟩
    · obtain ⟨root, isRoot, le⟩ := more.ranked index inOthers
      exact ⟨root, mem_cons_of_mem _ isRoot, le⟩
  live := by
    intro index
    rw [more.live, one.live, mem_append, not_or, and_assoc]
  eType := by
    intro index alive
    have aliveBetween := ((more.live index).mp alive).1
    rw [more.eType index alive, one.eType index aliveBetween]
  pvData := fun index => (more.pvData index).trans (one.pvData index)
  eFlag := fun index => (more.eFlag index).trans (one.eFlag index)
  parentKept := by
    intro index alive
    have aliveBetween := ((more.live index).mp alive).1
    rw [more.parentKept index alive, one.parentKept index aliveBetween]
  hash := by
    intro key
    have keys : (∃ index ∈ removed ++ others,
          (before.handles index).eFlag.multi = false ∧
            before.keyOf index = key) ↔
        (∃ index ∈ others,
          (middle.handles index).eFlag.multi = false ∧
            middle.keyOf index = key) ∨
          ∃ index ∈ removed,
            (before.handles index).eFlag.multi = false ∧
              before.keyOf index = key := by
      constructor
      · rintro ⟨index, member, single, same⟩
        rcases mem_append.mp member with inFirst | inOthers
        · exact Or.inr ⟨index, inFirst, single, same⟩
        · left
          refine ⟨index, inOthers, ?_, ?_⟩
          · rw [one.eFlag]
            exact single
          · rw [one.keyOf (more.alive index inOthers)]
            exact same
      · rintro (⟨index, inOthers, single, same⟩ |
          ⟨index, inFirst, single, same⟩)
        · refine ⟨index, mem_append_right _ inOthers, ?_, ?_⟩
          · rw [← one.eFlag]
            exact single
          · rw [← one.keyOf (more.alive index inOthers)]
            exact same
        · exact ⟨index, mem_append_left _ inFirst, single, same⟩
    rw [more.hash, one.hash]
    by_cases inOthers : ∃ index ∈ others,
        (middle.handles index).eFlag.multi = false ∧
          middle.keyOf index = key
    · rw [if_pos inOthers, if_pos (keys.mpr (Or.inl inOthers))]
    · rw [if_neg inOthers]
      simp only [keys, inOthers, false_or]
  total := more.total.trans one.total
  max := more.max.trans one.max
  batchSize := more.batchSize.trans one.batchSize
  firstBatch := more.firstBatch.trans one.firstBatch
  failures := more.failures.trans one.failures

end Freed

/-! ## Before and after the children -/

namespace HandleBase

/-- A handle without its hash entry and without its parent. -/
structure Detached (before after : HandleBase) (index : Nat) : Prop where
  total : after.ui32TotalHandCount = before.ui32TotalHandCount
  max : after.ui32MaxIndexPlusOne = before.ui32MaxIndexPlusOne
  batchSize : after.ui32HandBatchSize = before.ui32HandBatchSize
  firstBatch : after.ui32FirstBatchIndexPlusOne =
    before.ui32FirstBatchIndexPlusOne
  failures : after.ui32BatchHandAllocFailures =
    before.ui32BatchHandAllocFailures
  eType : ∀ other, (after.handles other).eType = (before.handles other).eType
  pvData : ∀ other,
    (after.handles other).pvData = (before.handles other).pvData
  eFlag : ∀ other, (after.handles other).eFlag = (before.handles other).eFlag
  parentKept : ∀ other, before.Live other → other ≠ index →
    after.parentHandle other = before.parentHandle other
  hash : ∀ key, after.hashTab key =
    if (before.handles index).eFlag.multi = false ∧
        before.keyOf index = key then none
    else before.hashTab key

end HandleBase

variable {index start : Nat} {before after base : HandleBase}
  {rank : Nat → Nat} {kids : Nat → List Nat} {chain batch : List Nat}

theorem HandleBase.Detached.live
    (detached : HandleBase.Detached before after index)
    (other : Nat) :
    after.Live other ↔ before.Live other := by
  simp only [HandleBase.Live, detached.total, detached.eType]

/-- Freeing a handle whose children are freed. -/
theorem Freed.retire
    {detached middle : HandleBase}
    {children removed : List Nat}
    (alive : before.Live index)
    (first : HandleBase.Detached before detached index)
    (below : Freed detached middle rank children removed)
    (last : Retired middle after index)
    (outside : index ∉ removed)
    (own : ∀ child, before.Live child →
      before.parentHandle child = indexToHandle index → child ∈ children)
    (childParent : ∀ child ∈ children,
      before.parentHandle child = indexToHandle index)
    (childRank : ∀ child ∈ children, rank index < rank child) :
    Freed before after rank [index] (index :: removed) := by
  have notIndex : ∀ other ∈ removed, other ≠ index := fun other member same =>
    outside (same ▸ member)
  have aliveBefore : ∀ other ∈ removed, before.Live other :=
    fun other member => (first.live other).mp (below.alive other member)
  have parentSame : ∀ other ∈ removed,
      detached.parentHandle other = before.parentHandle other :=
    fun other member => first.parentKept other (aliveBefore other member)
      (notIndex other member)
  have live : ∀ other, after.Live other ↔
      before.Live other ∧ other ∉ index :: removed := by
    intro other
    rw [last.live, below.live, first.live, mem_cons, not_or, and_assoc]
    exact and_congr_right fun _ => and_comm
  refine ⟨?_, ?_, ?_, ?_, ?_, live, ?_, ?_, ?_, ?_, ?_, ?_, ?_, ?_, ?_, ?_⟩
  · intro root member
    rw [mem_singleton.mp member]
    exact mem_cons_self
  · intro other member
    rcases mem_cons.mp member with rfl | inRemoved
    · exact alive
    · exact aliveBefore other inRemoved
  · intro parent member child childAlive field
    by_cases same : child = index
    · rw [same]
      exact mem_cons_self
    · apply mem_cons_of_mem
      rcases mem_cons.mp member with rfl | inRemoved
      · exact below.roots_subset child (own child childAlive field)
      · apply below.closed parent inRemoved child
          ((first.live child).mpr childAlive)
        rw [first.parentKept child childAlive same]
        exact field
  · intro other member
    rcases mem_cons.mp member with rfl | inRemoved
    · exact Or.inl mem_cons_self
    · right
      rcases below.parent other inRemoved with root | ⟨parent, inside, field⟩
      · exact ⟨index, mem_cons_self, childParent other root⟩
      · rw [parentSame other inRemoved] at field
        exact ⟨parent, mem_cons_of_mem _ inside, field⟩
  · intro other member
    refine ⟨index, mem_cons_self, ?_⟩
    rcases mem_cons.mp member with rfl | inRemoved
    · exact le_rfl
    · obtain ⟨root, isRoot, le⟩ := below.ranked other inRemoved
      exact le_trans (Nat.le_of_lt (childRank root isRoot)) le
  · intro other aliveAfter
    obtain ⟨aliveMiddle, different⟩ := (last.live other).mp aliveAfter
    rw [last.eType, if_neg different, below.eType other aliveMiddle,
      first.eType]
  · intro other
    rw [last.same.pvData, below.pvData, first.pvData]
  · intro other
    rw [last.same.eFlag, below.eFlag, first.eFlag]
  · intro other aliveAfter
    obtain ⟨aliveMiddle, different⟩ := (last.live other).mp aliveAfter
    rw [last.same.parentHandle, below.parentKept other aliveMiddle,
      first.parentKept other ((live other).mp aliveAfter).1 different]
  · intro key
    have keySame : ∀ other ∈ removed,
        detached.keyOf other = before.keyOf other := by
      intro other member
      simp only [HandleBase.keyOf, HandleBase.parentIfPrivate, first.pvData,
        first.eFlag, first.eType, parentSame other member]
    have keys : (∃ other ∈ removed,
          (detached.handles other).eFlag.multi = false ∧
            detached.keyOf other = key) ↔
        ∃ other ∈ removed,
          (before.handles other).eFlag.multi = false ∧
            before.keyOf other = key := by
      refine exists_congr fun other => and_congr_right fun member => ?_
      rw [first.eFlag, keySame other member]
    rw [last.same.hash, below.hash, first.hash]
    simp only [keys, List.exists_mem_cons_iff]
    by_cases inRemoved : ∃ other ∈ removed,
        (before.handles other).eFlag.multi = false ∧
          before.keyOf other = key
    · rw [if_pos inRemoved, if_pos (Or.inr inRemoved)]
    · rw [if_neg inRemoved]
      simp only [inRemoved, or_false]
  · rw [last.same.total, below.total, first.total]
  · rw [last.same.max, below.max, first.max]
  · rw [last.same.batchSize, below.batchSize, first.batchSize]
  · rw [last.same.firstBatch, below.firstBatch, first.firstBatch]
  · rw [last.same.failures, below.failures, first.failures]

namespace Valid

variable {base : HandleBase} {chain batch : List Nat} {start : Nat}
  {kids : Nat → List Nat} {rank : Nat → Nat}

section

variable (valid : Valid base chain start batch kids rank)
include valid

/-- The hash table, the batch size and the failure count are no part of the
invariant. -/
theorem frame
    (hashTab : HandKey → Option Nat)
    (ui32HandBatchSize ui32BatchHandAllocFailures : Nat) :
    Valid
      { base with hashTab, ui32HandBatchSize, ui32BatchHandAllocFailures }
      chain start batch kids rank where
  sized := valid.sized.congr rfl rfl
  free := valid.free.congr rfl rfl rfl fun _ _ => rfl
  links := valid.links.congr fun _ _ => rfl
  occupancy :=
    ⟨valid.occupancy.mem_chain, valid.occupancy.batchInside,
      valid.occupancy.batchDistinct, valid.occupancy.batchFlags,
      valid.occupancy.liveFlags⟩
  family := valid.family

theorem withHash
    (hashTab : HandKey → Option Nat) :
    Valid { base with hashTab } chain start batch kids rank :=
  valid.frame hashTab _ _

theorem not_partiallyFree
    (alive : base.Live index) :
    (base.handles index).partiallyFree = false := by
  by_cases inBatch : index ∈ batch
  · rw [← Bool.not_eq_true, (valid.occupancy.batchFlags index inBatch).2]
    exact alive.2
  · exact (valid.occupancy.liveFlags index alive inBatch).2.1

end

end Valid

/-! ## The first part of `FreeHandle` -/

/-- Taking a handle out of the hash table changes only that. -/
theorem HandleBase.removeFromHash_eq
    (intact : (base.handles index).partiallyFree = false) :
    ∃ hashTab, base.removeFromHash index = { base with hashTab } ∧
      ∀ key, hashTab key =
        if (base.handles index).eFlag.multi = false ∧
            base.keyOf index = key then none
        else base.hashTab key := by
  unfold HandleBase.removeFromHash
  rw [intact]
  cases multi : (base.handles index).eFlag.multi with
  | true => exact ⟨base.hashTab, rfl, by simp⟩
  | false =>
    refine ⟨_, rfl, ?_⟩
    intro key
    simp [Function.update_apply, eq_comm]

/-- The first part of `FreeHandle`, on the families and on the handle. -/
theorem Family.detach
    {used : Nat → Prop}
    (family : Family base.slot base.Live used kids rank)
    (alive : base.Live index)
    (intact : (base.handles index).partiallyFree = false) :
    let after := (base.removeFromHash index).unlinkFromParent index
    Family after.slot after.Live used
        (fun parent => (kids parent).erase index) rank ∧
      after.parentHandle index = 0 ∧
      HandleBase.Detached base after index := by
  obtain ⟨hashTab, result, hash⟩ := HandleBase.removeFromHash_eq intact
  rw [result]
  have hashed : Family ({ base with hashTab } : HandleBase).slot
      ({ base with hashTab } : HandleBase).Live used kids rank := family
  have aliveHashed : ({ base with hashTab } : HandleBase).Live index := alive
  have same := SameData.unlinkFromParent { base with hashTab } index
  obtain ⟨unlinked, isRoot⟩ := hashed.unlinkFromParent aliveHashed
  have live : ∀ other,
      (({ base with hashTab } : HandleBase).unlinkFromParent index).Live
        other ↔ ({ base with hashTab } : HandleBase).Live other := by
    intro other
    rw [HandleBase.Live, HandleBase.Live, same.eType, same.fields]
  have kept := unlinked.congr live fun _ => Iff.rfl
  refine ⟨kept, isRoot, ?_⟩
  refine ⟨?_, ?_, ?_, ?_, ?_, same.eType, same.pvData, same.eFlag, ?_, ?_⟩
  · rw [same.fields]
  · rw [same.fields]
  · rw [same.fields]
  · rw [same.fields]
  · rw [same.fields]
  · intro other otherAlive different
    -- the parent field of another handle is in no list that changes it
    have agree : ∀ parent,
        (({ base with hashTab } : HandleBase).unlinkFromParent
            index).parentHandle other = indexToHandle parent ↔
          base.parentHandle other = indexToHandle parent := by
      intro parent
      have first := hashed.kids_iff parent other
      have second := kept.kids_iff parent other
      rw [List.mem_erase_of_ne different, first] at second
      have liveBoth : ({ base with hashTab } : HandleBase).Live other :=
        otherAlive
      simp only [live, liveBoth, true_and] at second
      exact second.symm
    cases field : base.parentHandle other with
    | zero =>
      by_contra hasParent
      obtain ⟨parent, found⟩ := Nat.exists_eq_succ_of_ne_zero hasParent
      have impossible := (agree parent).mp found
      rw [field] at impossible
      exact absurd impossible (Nat.succ_ne_zero parent).symm
    | succ parent => exact (agree parent).mpr field
  · intro key
    rw [same.fields]
    exact hash key

/-- The first part of `FreeHandle`. -/
theorem Valid.detach
    (valid : Valid base chain start batch kids rank)
    (alive : base.Live index) :
    Valid ((base.removeFromHash index).unlinkFromParent index) chain start
      batch (fun parent => (kids parent).erase index) rank := by
  obtain ⟨hashTab, result, _⟩ :=
    HandleBase.removeFromHash_eq (valid.not_partiallyFree alive)
  rw [result]
  exact ((valid.withHash hashTab).unlinkFromParent alive).1

/-! ## The recursion -/

instance (base : HandleBase) (index : Nat) : Decidable (base.Live index) :=
  inferInstanceAs (Decidable (_ ∧ _))

namespace HandleBase

/-- The live handles. -/
def liveHandles (base : HandleBase) : Finset Nat :=
  (Finset.range base.ui32TotalHandCount).filter base.Live

theorem mem_liveHandles {base : HandleBase} {index : Nat} :
    index ∈ base.liveHandles ↔ base.Live index := by
  rw [liveHandles, Finset.mem_filter, Finset.mem_range]
  exact and_iff_right_of_imp fun alive => alive.1

theorem card_liveHandles_le (base : HandleBase) :
    base.liveHandles.card ≤ base.ui32TotalHandCount := by
  calc
    base.liveHandles.card
        ≤ (Finset.range base.ui32TotalHandCount).card :=
      Finset.card_filter_le _ _
    _ = base.ui32TotalHandCount := Finset.card_range _

theorem liveHandles_congr
    {other : HandleBase}
    (live : ∀ index, other.Live index ↔ base.Live index) :
    other.liveHandles = base.liveHandles := by
  ext index
  rw [mem_liveHandles, mem_liveHandles, live]

/-- `FreeHandle` as the release of a node. -/
def freeSteps : TreeRelease.Steps HandleBase Nat where
  detach := fun base index =>
    (base.removeFromHash index).unlinkFromParent index
  stop := fun base index =>
    handleToIndex (base.handles index).sChildren.hParent
  first := fun base index => (base.handles index).sChildren.ui32Next
  next := fun base parent index => (base.list parent index).ui32Next
  retire := retireHandle

theorem freeHandleWithin_eq_release (fuel : Nat) :
    (∀ (base : HandleBase) index, base.freeHandleWithin fuel index =
      TreeRelease.release freeSteps fuel base index) ∧
    ∀ (base : HandleBase) parent index,
      base.iterateOverChildren fuel parent index =
        TreeRelease.releaseFrom freeSteps fuel base parent index := by
  induction fuel with
  | zero => exact ⟨fun _ _ => rfl, fun _ _ _ => rfl⟩
  | succ fuel ih =>
    obtain ⟨handle, children⟩ := ih
    refine ⟨fun base index => ?_, fun base parent index => ?_⟩
    · rw [freeHandleWithin, TreeRelease.release]
      simp only [children, freeSteps]
      split
      · rename_i stuck
        rw [stuck]
      · rename_i after released
        rw [released]
    · rw [iterateOverChildren, TreeRelease.releaseFrom]
      simp only [handle, children, freeSteps]
      split_ifs
      · rfl
      · split
        · rename_i stuck
          rw [stuck]
        · rename_i after released
          rw [released]

end HandleBase

/-- What the two parts of `FreeHandle` keep, `FreeHandle` keeps. -/
theorem HandleBase.freeHandle_frame
    {related : HandleBase → HandleBase → Prop}
    (refl : ∀ base, related base base)
    (trans : ∀ {before middle after}, related before middle →
      related middle after → related before after)
    (detach : ∀ base index,
      related base ((base.removeFromHash index).unlinkFromParent index))
    (retire : ∀ base index, related base (base.retireHandle index))
    (freed : base.freeHandle index = some after) :
    related base after := by
  rw [HandleBase.freeHandle, (HandleBase.freeHandleWithin_eq_release _).1]
    at freed
  exact (TreeRelease.release_frame refl trans detach retire _).1 _ _ _ freed

/-- The steps are those of `FreeHandle` on the base in a state.  How a handle is
retired is left open but for the handle's type. -/
structure FreesThrough
    {state : Type}
    (steps : TreeRelease.Steps state Nat)
    (view : state → HandleBase) : Prop where
  detach : ∀ now index, view (steps.detach now index) =
    ((view now).removeFromHash index).unlinkFromParent index
  stop : ∀ now index, steps.stop now index =
    handleToIndex ((view now).handles index).sChildren.hParent
  first : ∀ now index, steps.first now index =
    ((view now).handles index).sChildren.ui32Next
  next : ∀ now parent index, steps.next now parent index =
    ((view now).list parent index).ui32Next
  retire : ∀ now index,
    Retired (view now) (view (steps.retire now index)) index

theorem HandleBase.freesThrough :
    FreesThrough HandleBase.freeSteps fun base => base where
  detach := fun _ _ => rfl
  stop := fun _ _ => rfl
  first := fun _ _ => rfl
  next := fun _ _ _ => rfl
  retire := fun base index => base.retired_retireHandle index

/-- An invariant of the families that holds of `FreeHandle`'s steps holds of
the whole, and what is freed is a subtree. -/
theorem releasable_of_family
    {state : Type}
    {steps : TreeRelease.Steps state Nat}
    {view : state → HandleBase}
    (through : FreesThrough steps view)
    {invariant : state → (Nat → List Nat) → Prop}
    (family : ∀ {now kids}, invariant now kids →
      ∃ used, Family (view now).slot (view now).Live used kids rank)
    (intact : ∀ {now kids index}, invariant now kids →
      (view now).Live index →
        ((view now).handles index).partiallyFree = false)
    (detach : ∀ {now kids index}, invariant now kids →
      (view now).Live index →
        invariant (steps.detach now index)
          fun parent => (kids parent).erase index)
    (retire : ∀ {now kids index}, invariant now kids →
      (view now).Live index → (view now).parentHandle index = 0 →
        kids index = [] → invariant (steps.retire now index) kids) :
    TreeRelease.Releasable steps (fun now => (view now).liveHandles)
      invariant rank
      (fun before after roots removed =>
        Freed (view before) (view after) rank roots removed) := by
  have isRoot : ∀ {now kids index}, invariant now kids →
      (view now).Live index → (∀ parent, index ∉ kids parent) →
        (view now).parentHandle index = 0 := by
    intro now kids index kept alive orphan
    obtain ⟨used, rings⟩ := family kept
    by_contra hasParent
    obtain ⟨parent, field⟩ := Nat.exists_eq_succ_of_ne_zero hasParent
    exact orphan parent ((rings.kids_iff parent index).mpr ⟨alive, field⟩)
  have detached : ∀ {now kids index}, invariant now kids →
      (view now).Live index →
        HandleBase.Detached (view now) (view (steps.detach now index))
          index := by
    intro now kids index kept alive
    obtain ⟨used, rings⟩ := family kept
    rw [through.detach]
    exact (rings.detach alive (intact kept alive)).2.2
  refine ⟨?_, ?_, ?_, ?_, ?_, ?_, ?_, ?_, ?_, ?_, ?_⟩
  · intro now kids parent other kept member
    obtain ⟨used, rings⟩ := family kept
    rw [HandleBase.mem_liveHandles, HandleBase.mem_liveHandles]
    exact ⟨rings.parentLive parent other member,
      ((rings.kids_iff parent other).mp member).1,
      rings.ranked parent other member⟩
  · intro now kids first second other kept inFirst inSecond
    obtain ⟨used, rings⟩ := family kept
    exact rings.parent_unique inFirst inSecond
  · intro now kids kept
    obtain ⟨used, rings⟩ := family kept
    exact rings.distinct
  · intro now kids parent kept alive
    rw [HandleBase.mem_liveHandles] at alive
    obtain ⟨used, rings⟩ := family kept
    have inUse := rings.liveUsed parent alive
    rw [through.stop]
    exact (congrArg handleToIndex (rings.self parent inUse)).trans
      (handleToIndex_indexToHandle (rings.bounded parent inUse))
  · intro now kids parent kept alive
    rw [HandleBase.mem_liveHandles] at alive
    obtain ⟨used, rings⟩ := family kept
    rw [through.first,
      ← path_next (rings.ring parent (rings.liveUsed parent alive)),
      nextOf, slotOf_self]
    rfl
  · intro now kids parent child rest kept alive split
    rw [HandleBase.mem_liveHandles] at alive
    obtain ⟨used, rings⟩ := family kept
    have ring := rings.ring parent (rings.liveUsed parent alive)
    have different : child ≠ parent := by
      rintro rfl
      exact rings.notMem_own child (split ▸ mem_cons_self)
    rw [split] at ring
    have following := path_next ring.2.2
    rw [nextOf, slotOf_of_ne different] at following
    rw [through.next, HandleBase.list, if_neg different]
    exact following
  · intro now kids index kept alive
    rw [HandleBase.mem_liveHandles] at alive
    exact ⟨detach kept alive,
      HandleBase.liveHandles_congr (detached kept alive).live⟩
  · intro now kids index kept alive orphan childless
    rw [HandleBase.mem_liveHandles] at alive
    refine ⟨retire kept alive (isRoot kept alive orphan) childless, ?_⟩
    ext other
    rw [HandleBase.mem_liveHandles, Finset.mem_erase,
      HandleBase.mem_liveHandles, and_comm]
    exact (through.retire now index).live other
  · exact fun now => Freed.nil (view now) rank
  · exact fun one more => one.append more
  · intro before middle kids otherKids index removed kept alive below outside
      _ _ _ _
    rw [HandleBase.mem_liveHandles] at alive
    obtain ⟨used, rings⟩ := family kept
    exact Freed.retire alive (detached kept alive) below
      (through.retire middle index) outside
      (fun child childAlive field =>
        (rings.kids_iff index child).mpr ⟨childAlive, field⟩)
      (fun child member => ((rings.kids_iff index child).mp member).2)
      (fun child member => rings.ranked index child member)

/-- The invariant of a base holds of the steps of `FreeHandle`. -/
theorem releasable_of_valid
    (start : Nat)
    (batch : List Nat)
    (rank : Nat → Nat) :
    TreeRelease.Releasable HandleBase.freeSteps HandleBase.liveHandles
      (fun base kids => ∃ chain, Valid base chain start batch kids rank) rank
      (fun before after roots removed =>
        Freed before after rank roots removed) := by
  apply releasable_of_family HandleBase.freesThrough
  · rintro base kids ⟨chain, valid⟩
    exact ⟨_, valid.family⟩
  · rintro base kids index ⟨chain, valid⟩ alive
    exact valid.not_partiallyFree alive
  · rintro base kids index ⟨chain, valid⟩ alive
    exact ⟨chain, valid.detach alive⟩
  · rintro base kids index ⟨chain, valid⟩ alive isRoot childless
    exact (valid.retireHandle alive isRoot childless).1

/-- `FreeHandle` returns, and frees the subtree of the handle. -/
theorem Valid.freeHandle
    (valid : Valid base chain start batch kids rank)
    (alive : base.Live index) :
    ∃ after chain kids removed,
      base.freeHandle index = some after ∧
        Valid after chain start batch kids rank ∧
        Freed base after rank [index] removed := by
  have fewer := base.card_liveHandles_le
  obtain ⟨after, otherKids, removed, result, ⟨otherChain, kept⟩, _, freed,
    _⟩ :=
    (releasable_of_valid start batch rank).release_spec ⟨chain, valid⟩
      (HandleBase.mem_liveHandles.mpr alive)
      (show 2 * base.liveHandles.card + 2 ≤
        2 * base.ui32TotalHandCount + 2 by omega)
  refine ⟨after, otherChain, otherKids, removed, ?_, kept, freed⟩
  rw [HandleBase.freeHandle, (HandleBase.freeHandleWithin_eq_release _).1]
  exact result

end PvrServices.Handles
