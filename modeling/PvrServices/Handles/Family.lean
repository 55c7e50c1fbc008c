import PvrServices.Handles.Ops
import PvrServices.Lib.Links

/-!
# Sibling lists of a handle base

The live handles form a forest: the children of a handle are the items of the
ring that starts at its `sChildren` and goes through their `sSiblings`.  This
module says what a family of such rings is and how adopting, unlinking,
creating and retiring a handle change it.  It looks only at the list fields of
the handle structures.
-/

namespace PvrServices.Handles

open Function (update update_apply update_of_ne update_self)
open Links
open List (mem_cons mem_cons_self nodup_append nodup_cons)

/-! ## List fields -/

/-- A list field of a handle structure. -/
inductive Slot where
  | children (index : Nat)
  | siblings (index : Nat)
deriving DecidableEq

/-- The list fields of a base. -/
def HandleBase.slot (base : HandleBase) : Slot → HandleList
  | .children index => (base.handles index).sChildren
  | .siblings index => (base.handles index).sSiblings

/-- The field by which a handle takes part in the ring of `parent`. -/
def slotOf (parent index : Nat) : Slot :=
  if index = parent then .children index else .siblings index

@[simp] theorem slotOf_self (parent : Nat) :
    slotOf parent parent = .children parent :=
  if_pos rfl

theorem slotOf_of_ne {parent index : Nat} (different : index ≠ parent) :
    slotOf parent index = .siblings index :=
  if_neg different

theorem slotOf_injective (parent : Nat) :
    Function.Injective (slotOf parent) := by
  intro first second same
  unfold slotOf at same
  split_ifs at same <;> simp_all

/-- The forward links of the ring of `parent`. -/
def nextOf (slot : Slot → HandleList) (parent index : Nat) : Nat :=
  (slot (slotOf parent index)).ui32Next

/-- The backward links of the ring of `parent`. -/
def prevOf (slot : Slot → HandleList) (parent index : Nat) : Nat :=
  (slot (slotOf parent index)).ui32Prev

/-- The sibling field of a handle without a parent. -/
def rootEntry (index : Nat) : HandleList where
  ui32Prev := index
  ui32Next := index
  hParent := 0

/-! ## Families -/

/-- The rings hold the children `kids` of each handle in use, where a live
handle is a child of the handle its parent field names.  Structures in use
that are not live have no parent and no children. -/
structure Family
    (slot : Slot → HandleList)
    (live used : Nat → Prop)
    (kids : Nat → List Nat)
    (rank : Nat → Nat) : Prop where
  ring : ∀ index, used index →
    Ring (nextOf slot index) (prevOf slot index) index (kids index)
  self : ∀ index, used index →
    (slot (.children index)).hParent = indexToHandle index
  kids_iff : ∀ parent child, child ∈ kids parent ↔
    live child ∧ (slot (.siblings child)).hParent = indexToHandle parent
  parentLive : ∀ parent child, child ∈ kids parent → live parent
  distinct : ∀ parent, (kids parent).Nodup
  ranked : ∀ parent child, child ∈ kids parent → rank parent < rank child
  root : ∀ index, used index → (slot (.siblings index)).hParent = 0 →
    slot (.siblings index) = rootEntry index
  dead : ∀ index, used index → ¬ live index →
    (slot (.siblings index)).hParent = 0
  liveUsed : ∀ index, live index → used index
  bounded : ∀ index, used index → index + 1 < 2 ^ 32

variable {index parent : Nat}

theorem handleToIndex_indexToHandle
    (bounded : index + 1 < 2 ^ 32) :
    handleToIndex (indexToHandle index) = index := by
  unfold handleToIndex oneLess indexToHandle
  rw [Nat.mod_eq_of_lt bounded, if_neg (Nat.succ_ne_zero index)]
  rfl

namespace Family

variable {slot : Slot → HandleList}
  {live used otherLive otherUsed : Nat → Prop} {kids : Nat → List Nat}
  {rank : Nat → Nat} {index : Nat}

theorem notMem_own
    (family : Family slot live used kids rank) (parent : Nat) :
    parent ∉ kids parent := fun member =>
  Nat.lt_irrefl _ (family.ranked parent parent member)

/-- A handle is a child of at most one handle. -/
theorem parent_unique
    (family : Family slot live used kids rank)
    {first second child : Nat}
    (inFirst : child ∈ kids first)
    (inSecond : child ∈ kids second) :
    first = second := by
  have parent := ((family.kids_iff first child).mp inFirst).2
  have other := ((family.kids_iff second child).mp inSecond).2
  simpa [indexToHandle] using parent.symm.trans other

theorem ringDistinct
    (family : Family slot live used kids rank) (parent : Nat) :
    (parent :: kids parent).Nodup :=
  nodup_cons.mpr ⟨family.notMem_own parent, family.distinct parent⟩

/-- The fields of another ring differ from those of this one. -/
theorem slotOf_apart
    (family : Family slot live used kids rank)
    {first second firstMember secondMember : Nat}
    (different : first ≠ second)
    (inFirst : firstMember ∈ first :: kids first)
    (inSecond : secondMember ∈ second :: kids second) :
    slotOf first firstMember ≠ slotOf second secondMember := by
  have firstOwn := family.notMem_own first
  have secondOwn := family.notMem_own second
  have unique := @family.parent_unique
  unfold slotOf
  split_ifs with firstHead secondHead secondHead
  · simp only [ne_eq, Slot.children.injEq]
    omega
  · simp
  · simp
  · simp only [ne_eq, Slot.siblings.injEq]
    rintro rfl
    have fromFirst := (mem_cons.mp inFirst).resolve_left firstHead
    have fromSecond := (mem_cons.mp inSecond).resolve_left secondHead
    exact different (unique fromFirst fromSecond)

section

variable (family : Family slot live used kids rank)
include family

/-- The fields of a ring differ from the sibling field of a handle without a
parent. -/
theorem slotOf_ne_root
    {member : Nat}
    (inRing : member ∈ parent :: kids parent)
    (isRoot : (slot (.siblings index)).hParent = 0) :
    slotOf parent member ≠ .siblings index := by
  unfold slotOf
  split_ifs with head
  · simp
  · simp only [ne_eq, Slot.siblings.injEq]
    rintro rfl
    have child := (mem_cons.mp inRing).resolve_left head
    have parentField := ((family.kids_iff parent member).mp child).2
    simp [isRoot, indexToHandle] at parentField

/-- The predicates only matter up to equivalence. -/
theorem congr
    (sameLive : ∀ index, otherLive index ↔ live index)
    (sameUsed : ∀ index, otherUsed index ↔ used index) :
    Family slot otherLive otherUsed kids rank := by
  obtain rfl : otherLive = live := funext fun index => propext (sameLive index)
  obtain rfl : otherUsed = used := funext fun index => propext (sameUsed index)
  exact family

/-- A handle without a parent and without children stops being live. -/
theorem retire
    (isRoot : (slot (.siblings index)).hParent = 0)
    (childless : kids index = [])
    (otherLive_iff : ∀ other, otherLive other ↔
      live other ∧ other ≠ index)
    (fewer : ∀ other, otherUsed other → used other)
    (enough : ∀ other, otherLive other → otherUsed other) :
    Family slot otherLive otherUsed kids rank where
  ring := fun other inUse => family.ring other (fewer other inUse)
  self := fun other inUse => family.self other (fewer other inUse)
  kids_iff := by
    intro parent child
    rw [family.kids_iff, otherLive_iff, and_right_comm]
    refine (and_iff_left_of_imp ?_).symm
    rintro ⟨_, parentField⟩ rfl
    simp [isRoot, indexToHandle] at parentField
  parentLive := by
    intro parent child member
    refine (otherLive_iff parent).mpr
      ⟨family.parentLive parent child member, ?_⟩
    rintro rfl
    simp [childless] at member
  distinct := family.distinct
  ranked := family.ranked
  root := fun other inUse => family.root other (fewer other inUse)
  dead := by
    intro other inUse notLive
    by_cases same : other = index
    · rw [same]
      exact isRoot
    · apply family.dead other (fewer other inUse)
      intro alive
      exact notLive ((otherLive_iff other).mpr ⟨alive, same⟩)
  liveUsed := enough
  bounded := fun other inUse => family.bounded other (fewer other inUse)

/-- A structure that was not in use becomes a live handle without a parent and
without children. -/
theorem create
    {index : Nat}
    (unused : ¬ used index)
    (bounded : index + 1 < 2 ^ 32)
    {after : Slot → HandleList}
    (children : after (.children index) =
      ⟨index, index, indexToHandle index⟩)
    (siblings : after (.siblings index) = rootEntry index)
    (others : ∀ field, field ≠ .children index → field ≠ .siblings index →
      after field = slot field)
    {otherLive otherUsed : Nat → Prop}
    (otherLive_iff : ∀ other, otherLive other ↔
      live other ∨ other = index)
    (otherUsed_iff : ∀ other, otherUsed other ↔
      used other ∨ other = index) :
    Family after otherLive otherUsed kids rank := by
  have notLive : ¬ live index := fun alive =>
    unused (family.liveUsed index alive)
  have childless : kids index = [] := by
    apply List.eq_nil_iff_forall_not_mem.mpr
    intro child member
    exact notLive (family.parentLive index child member)
  have otherSiblings : ∀ other, other ≠ index →
      after (.siblings other) = slot (.siblings other) := by
    intro other different
    exact others _ (by simp) (by simpa using different)
  have otherChildren : ∀ other, other ≠ index →
      after (.children other) = slot (.children other) := by
    intro other different
    exact others _ (by simpa using different) (by simp)
  have noParent : ∀ parent, index ∉ kids parent := fun parent member =>
    notLive ((family.kids_iff parent index).mp member).1
  refine ⟨?_, ?_, ?_, ?_, family.distinct, family.ranked, ?_, ?_, ?_, ?_⟩
  · intro other inUse
    by_cases same : other = index
    · subst same
      rw [childless]
      simp only [Links.Ring, Links.Path, nextOf, prevOf, slotOf_self, children, and_self]
    · have inUseBefore := ((otherUsed_iff other).mp inUse).resolve_right same
      have kept : ∀ member ∈ other :: kids other,
          after (slotOf other member) = slot (slotOf other member) := by
        intro member inRing
        unfold slotOf
        split_ifs with head
        · rw [head]
          exact otherChildren other same
        · apply otherSiblings
          rintro rfl
          exact noParent other ((mem_cons.mp inRing).resolve_left head)
      apply path_congr _ _ (family.ring other inUseBefore)
      · intro member inRing
        simp only [nextOf, kept member inRing]
      · intro member inRing
        simp only [prevOf, kept member inRing]
  · intro other inUse
    by_cases same : other = index
    · rw [same, children]
    · rw [otherChildren other same]
      exact family.self other
        (((otherUsed_iff other).mp inUse).resolve_right same)
  · intro parent child
    rw [family.kids_iff, otherLive_iff]
    by_cases same : child = index
    · subst same
      simp [notLive, siblings, rootEntry, indexToHandle]
    · simp [same, otherSiblings child same]
  · intro parent child member
    exact (otherLive_iff parent).mpr
      (Or.inl (family.parentLive parent child member))
  · intro other inUse isRoot
    by_cases same : other = index
    · rw [same]
      exact siblings
    · rw [otherSiblings other same] at isRoot ⊢
      exact family.root other
        (((otherUsed_iff other).mp inUse).resolve_right same) isRoot
  · intro other inUse dead
    have notThis : other ≠ index := fun same =>
      dead ((otherLive_iff other).mpr (Or.inr same))
    rw [otherSiblings other notThis]
    apply family.dead other
      (((otherUsed_iff other).mp inUse).resolve_right notThis)
    exact fun alive => dead ((otherLive_iff other).mpr (Or.inl alive))
  · intro other alive
    rcases (otherLive_iff other).mp alive with before | same
    · exact (otherUsed_iff other).mpr (Or.inl (family.liveUsed other before))
    · exact (otherUsed_iff other).mpr (Or.inr same)
  · intro other inUse
    rcases (otherUsed_iff other).mp inUse with before | rfl
    · exact family.bounded other before
    · exact bounded

end

end Family

/-! ## Unlinking -/

/-- `unlinkFromParent` on the list fields. -/
def unlinkSlots (slot : Slot → HandleList) (index : Nat) :
    Slot → HandleList :=
  let entry := slot (.siblings index)
  if entry.ui32Next = index then slot
  else
    let parent := handleToIndex entry.hParent
    let before := slotOf parent entry.ui32Prev
    let slot := Function.update slot before
      { slot before with ui32Next := entry.ui32Next }
    let behind := slotOf parent entry.ui32Next
    let slot := Function.update slot behind
      { slot behind with ui32Prev := entry.ui32Prev }
    Function.update slot (.siblings index) (rootEntry index)

/-- The list fields after a child is unlinked. -/
theorem unlinkSlots_apply
    {slot : Slot → HandleList}
    (notAlone : (slot (.siblings index)).ui32Next ≠ index)
    (parentField :
      handleToIndex (slot (.siblings index)).hParent = parent)
    (field : Slot) :
    unlinkSlots slot index field =
      if field = .siblings index then rootEntry index
      else
        { ui32Prev :=
            if field = slotOf parent (slot (.siblings index)).ui32Next then
              (slot (.siblings index)).ui32Prev
            else (slot field).ui32Prev
          ui32Next :=
            if field = slotOf parent (slot (.siblings index)).ui32Prev then
              (slot (.siblings index)).ui32Next
            else (slot field).ui32Next
          hParent := (slot field).hParent } := by
  subst parentField
  simp only [unlinkSlots, if_neg notAlone, update_apply]
  split_ifs <;> simp_all

namespace HandleBase

theorem slot_modifyList
    (base : HandleBase)
    (parent index : Nat)
    (change : HandleList → HandleList) :
    (base.modifyList parent index change).slot =
      update base.slot (slotOf parent index)
        (change (base.slot (slotOf parent index))) := by
  ext field
  unfold slotOf
  cases field with
  | children other | siblings other =>
    by_cases same : other = index
    · subst same
      by_cases head : other = parent <;>
        simp [slot, modifyList, modify, head]
    · by_cases head : index = parent <;>
        simp_all [slot, modifyList, modify, update_of_ne]

theorem slot_modifySiblings
    (base : HandleBase)
    (index : Nat)
    (change : HandleList → HandleList) :
    (base.modifySiblings index change).slot =
      update base.slot (.siblings index)
        (change (base.slot (.siblings index))) := by
  ext field
  cases field with
  | children other =>
    by_cases same : other = index
    · subst same
      simp [slot, modifySiblings, modify]
    · simp [slot, modifySiblings, modify, update_of_ne same]
  | siblings other =>
    by_cases same : other = index
    · subst same
      simp [slot, modifySiblings, modify]
    · simp [slot, modifySiblings, modify, same]

theorem slot_unlinkFromParent (base : HandleBase) (index : Nat) :
    (base.unlinkFromParent index).slot = unlinkSlots base.slot index := by
  have entry : base.slot (.siblings index) =
      (base.handles index).sSiblings := rfl
  simp only [unlinkFromParent, unlinkSlots, entry]
  split_ifs with alone
  · rfl
  · rw [slot_modifySiblings, slot_modifyList, slot_modifyList]
    rfl

end HandleBase

namespace Family

variable {slot : Slot → HandleList} {live used : Nat → Prop}
  {kids : Nat → List Nat} {rank : Nat → Nat} {index : Nat}

/-- A handle without a parent is not touched by unlinking. -/
theorem unlinkSlots_root
    (family : Family slot live used kids rank)
    (inUse : used index)
    (isRoot : (slot (.siblings index)).hParent = 0) :
    unlinkSlots slot index = slot := by
  unfold unlinkSlots
  rw [family.root index inUse isRoot]
  simp [rootEntry]

/-- Unlinking takes a child out of the ring of its parent. -/
theorem unlink
    (family : Family slot live used kids rank)
    (member : index ∈ kids parent) :
    Family (unlinkSlots slot index) live used
      (update kids parent ((kids parent).erase index)) rank := by
  have different : index ≠ parent := by
    rintro rfl
    exact family.notMem_own index member
  have parentUsed := family.liveUsed parent
    (family.parentLive parent index member)
  have parentField := ((family.kids_iff parent index).mp member).2
  have distinct := family.ringDistinct parent
  have ring := family.ring parent parentUsed
  obtain ⟨front, back, split, erased⟩ :
      ∃ front back, kids parent = front ++ index :: back ∧
        (kids parent).erase index = front ++ back := by
    obtain ⟨front, back, _, split, erased⟩ := List.exists_erase_eq member
    exact ⟨front, back, split, erased⟩
  have nextField : (slot (.siblings index)).ui32Next =
      nextOf slot parent index := by
    rw [nextOf, slotOf_of_ne different]
  have prevField : (slot (.siblings index)).ui32Prev =
      prevOf slot parent index := by
    rw [prevOf, slotOf_of_ne different]
  rw [split] at ring distinct
  have nextMember : nextOf slot parent index ∈ parent :: kids parent := by
    rw [path_next (path_append.mp ring).2, split]
    cases back <;> simp
  have prevMember : prevOf slot parent index ∈ parent :: kids parent := by
    rw [path_prev (path_append.mp ring).1, split]
    have inside : front.getLastD parent ∈ parent :: front :=
      List.getLastD_mem_cons
    simp only [mem_cons, List.mem_append] at inside ⊢
    tauto
  have notAlone : nextOf slot parent index ≠ index := by
    rw [path_next (path_append.mp ring).2]
    cases back with
    | nil => simpa using different.symm
    | cons second rest =>
      have inner := (nodup_append.mp (nodup_cons.mp distinct).2)
      have apart := (nodup_cons.mp inner.2.1).1
      intro same
      rw [List.headD_cons] at same
      exact apart (same ▸ mem_cons_self)
  have apply := unlinkSlots_apply
    (by rwa [nextField])
    (by rw [parentField,
      handleToIndex_indexToHandle (family.bounded parent parentUsed)])
  rw [nextField, prevField] at apply
  have parentKept : ∀ field, field ≠ .siblings index →
      (unlinkSlots slot index field).hParent = (slot field).hParent := by
    intro field other
    rw [apply, if_neg other]
  have others : ∀ field, field ≠ .siblings index →
      field ≠ slotOf parent (nextOf slot parent index) →
      field ≠ slotOf parent (prevOf slot parent index) →
      unlinkSlots slot index field = slot field := by
    intro field notIndex notNext notPrev
    rw [apply, if_neg notIndex, if_neg notNext, if_neg notPrev]
  have indexField : Slot.siblings index = slotOf parent index :=
    (slotOf_of_ne different).symm
  refine ⟨?_, ?_, ?_, ?_, ?_, ?_, ?_, ?_, family.liveUsed, family.bounded⟩
  · intro other inUse
    by_cases same : other = parent
    · subst same
      rw [update_self, erased]
      have outside := (nodup_cons.mp distinct).1
      have removed := path_remove distinct outside ring
      have inner := (nodup_append.mp (nodup_cons.mp distinct).2)
      have notIndex : ∀ entry ∈ other :: (front ++ back),
          slotOf other entry ≠ .siblings index := by
        intro entry inRing same
        rw [indexField] at same
        obtain rfl := slotOf_injective other same
        rcases mem_cons.mp inRing with head | inItems
        · exact different head
        · rcases List.mem_append.mp inItems with inFront | inBack
          · exact inner.2.2 entry inFront entry mem_cons_self rfl
          · exact (nodup_cons.mp inner.2.1).1 inBack
      apply path_congr _ _ removed
      · intro entry inRing
        rw [nextOf, apply, if_neg (notIndex entry inRing)]
        simp only [(slotOf_injective other).eq_iff, update_apply]
        rfl
      · intro entry inRing
        rw [prevOf, apply, if_neg (notIndex entry inRing)]
        simp only [(slotOf_injective other).eq_iff, update_apply]
        rfl
    · rw [update_of_ne same]
      have kept : ∀ entry ∈ other :: kids other,
          unlinkSlots slot index (slotOf other entry) =
            slot (slotOf other entry) := by
        intro entry inRing
        apply others
        · rw [indexField]
          exact family.slotOf_apart same inRing (List.mem_cons_of_mem _ member)
        · exact family.slotOf_apart same inRing nextMember
        · exact family.slotOf_apart same inRing prevMember
      apply path_congr _ _ (family.ring other inUse)
      · intro entry inRing
        simp only [nextOf, kept entry inRing]
      · intro entry inRing
        simp only [prevOf, kept entry inRing]
  · intro other inUse
    rw [parentKept _ (by simp)]
    exact family.self other inUse
  · intro other child
    by_cases same : child = index
    · subst same
      rw [apply, if_pos rfl]
      simp only [rootEntry, indexToHandle, reduceCtorEq, and_false, iff_false]
      by_cases head : other = parent
      · subst head
        rw [update_self]
        exact (family.distinct other).not_mem_erase
      · rw [update_of_ne head]
        exact fun inOther => head (family.parent_unique inOther member)
    · rw [parentKept _ (by simpa using same), ← family.kids_iff]
      by_cases head : other = parent
      · subst head
        rw [update_self, List.mem_erase_of_ne same]
      · rw [update_of_ne head]
  · intro other child inOther
    apply family.parentLive other child
    by_cases head : other = parent
    · subst head
      rw [update_self] at inOther
      exact List.mem_of_mem_erase inOther
    · rwa [update_of_ne head] at inOther
  · intro other
    by_cases head : other = parent
    · subst head
      rw [update_self]
      exact (family.distinct other).erase index
    · rw [update_of_ne head]
      exact family.distinct other
  · intro other child inOther
    apply family.ranked other child
    by_cases head : other = parent
    · subst head
      rw [update_self] at inOther
      exact List.mem_of_mem_erase inOther
    · rwa [update_of_ne head] at inOther
  · intro other inUse isRoot
    by_cases same : other = index
    · subst same
      rw [apply, if_pos rfl]
    · have notIndex : Slot.siblings other ≠ .siblings index := by
        simpa using same
      rw [parentKept _ notIndex] at isRoot
      rw [others _ notIndex (family.slotOf_ne_root nextMember isRoot).symm
        (family.slotOf_ne_root prevMember isRoot).symm]
      exact family.root other inUse isRoot
  · intro other inUse dead
    by_cases same : other = index
    · subst same
      rw [apply, if_pos rfl]
      rfl
    · rw [parentKept _ (by simpa using same)]
      exact family.dead other inUse dead

end Family

/-! ## Adopting -/

/-- The list fields after a child is adopted. -/
theorem HandleBase.slot_adoptChild
    (base : HandleBase)
    {child : Nat}
    (apart : slotOf parent (prevOf base.slot parent parent) ≠
      .siblings child)
    (field : Slot) :
    (base.adoptChild parent child).slot field =
      if field = .siblings child then
        { ui32Prev := prevOf base.slot parent parent
          ui32Next := parent
          hParent := indexToHandle parent }
      else
        { ui32Prev :=
            if field = .children parent then child
            else (base.slot field).ui32Prev
          ui32Next :=
            if field = slotOf parent (prevOf base.slot parent parent) then
              child
            else (base.slot field).ui32Next
          hParent := (base.slot field).hParent } := by
  have last : (base.handles parent).sChildren.ui32Prev =
      prevOf base.slot parent parent := by
    rw [prevOf, slotOf_self]
    rfl
  rw [HandleBase.adoptChild, last]
  simp only [slot_modifySiblings, slot_modifyList, slotOf_self, update_apply]
  split_ifs <;> simp_all

namespace Family

variable {live used : Nat → Prop} {kids : Nat → List Nat}
  {rank : Nat → Nat} {base : HandleBase}

/-- Adopting puts a handle without parent and children at the end of the ring
of its parent. -/
theorem adopt
    (family : Family base.slot live used kids rank)
    {child : Nat}
    (parentLive : live parent)
    (childLive : live child)
    (isRoot : (base.slot (.siblings child)).hParent = 0)
    (childless : kids child = [])
    (different : child ≠ parent) :
    Family (base.adoptChild parent child).slot live used
      (update kids parent (kids parent ++ [child]))
      (update rank child (rank parent + 1)) := by
  have parentUsed := family.liveUsed parent parentLive
  have ring := family.ring parent parentUsed
  have lastMember :
      prevOf base.slot parent parent ∈ parent :: kids parent := by
    rw [path_prev ring]
    exact List.getLastD_mem_cons
  have apply := base.slot_adoptChild (family.slotOf_ne_root lastMember isRoot)
  have noParent : ∀ other, child ∉ kids other := by
    intro other member
    have parentField := ((family.kids_iff other child).mp member).2
    simp [isRoot, indexToHandle] at parentField
  have parentKept : ∀ field, field ≠ .siblings child →
      ((base.adoptChild parent child).slot field).hParent =
        (base.slot field).hParent := by
    intro field other
    rw [apply, if_neg other]
  have childField : Slot.siblings child = slotOf parent child :=
    (slotOf_of_ne different).symm
  have mem_kids : ∀ other entry,
      entry ∈ update kids parent (kids parent ++ [child]) other ↔
        entry ∈ kids other ∨ (other = parent ∧ entry = child) := by
    intro other entry
    by_cases same : other = parent
    · subst same
      simp [update_self]
    · simp [same]
  refine ⟨?_, ?_, ?_, ?_, ?_, ?_, ?_, ?_, family.liveUsed, family.bounded⟩
  · intro other inUse
    by_cases same : other = parent
    · subst same
      rw [update_self]
      have outside : child ∉ other :: kids other := by
        simp only [mem_cons, not_or]
        exact ⟨different, noParent other⟩
      have inserted := path_insert (family.ringDistinct other) outside
        (family.notMem_own other) different ring
      apply path_congr _ _ inserted
      · intro entry inRing
        rw [nextOf, apply, childField]
        simp only [(slotOf_injective other).eq_iff, update_apply]
        by_cases isChild : entry = child
        · subst isChild
          have notLast : entry ≠ prevOf base.slot other other := by
            rintro same
            exact outside (same ▸ lastMember)
          rw [if_pos rfl, if_neg notLast, if_pos rfl]
        · rw [if_neg isChild, if_neg isChild]
          rfl
      · intro entry inRing
        rw [prevOf, apply, childField, ← slotOf_self other]
        simp only [(slotOf_injective other).eq_iff, update_apply]
        by_cases isChild : entry = child
        · rw [if_pos isChild, if_pos isChild]
        · rw [if_neg isChild, if_neg isChild]
          rfl
    · rw [update_of_ne same]
      have kept : ∀ entry ∈ other :: kids other,
          (base.adoptChild parent child).slot (slotOf other entry) =
            base.slot (slotOf other entry) := by
        intro entry inRing
        have notHead : slotOf other entry ≠ .children parent := by
          rw [← slotOf_self parent]
          exact family.slotOf_apart same inRing mem_cons_self
        have notLast := family.slotOf_apart same inRing lastMember
        rw [apply, if_neg (family.slotOf_ne_root inRing isRoot),
          if_neg notHead, if_neg notLast]
      apply path_congr _ _ (family.ring other inUse)
      · intro entry inRing
        simp only [nextOf, kept entry inRing]
      · intro entry inRing
        simp only [prevOf, kept entry inRing]
  · intro other inUse
    rw [parentKept _ (by simp)]
    exact family.self other inUse
  · intro other entry
    rw [mem_kids]
    by_cases isChild : entry = child
    · subst isChild
      rw [apply, if_pos rfl]
      simp only [noParent other, childLive, indexToHandle, false_or,
        and_true, true_and, Nat.add_right_cancel_iff]
      exact eq_comm
    · rw [parentKept _ (by simpa using isChild), ← family.kids_iff]
      simp [isChild]
  · intro other entry member
    rcases (mem_kids other entry).mp member with before | ⟨rfl, _⟩
    · exact family.parentLive other entry before
    · exact parentLive
  · intro other
    by_cases same : other = parent
    · subst same
      rw [update_self]
      refine nodup_append.mpr ⟨family.distinct other, by simp, ?_⟩
      rintro entry member _ last rfl
      rw [List.mem_singleton.mp last] at member
      exact noParent other member
    · rw [update_of_ne same]
      exact family.distinct other
  · intro other entry member
    have otherNotChild : other ≠ child := by
      rintro rfl
      rcases (mem_kids other entry).mp member with before | ⟨same, _⟩
      · simp [childless] at before
      · exact different same
    rw [update_of_ne otherNotChild]
    rcases (mem_kids other entry).mp member with before | ⟨rfl, rfl⟩
    · have notChild : entry ≠ child := fun same =>
        noParent other (same ▸ before)
      rw [update_of_ne notChild]
      exact family.ranked other entry before
    · rw [update_self]
      exact Nat.lt_succ_self _
  · intro other inUse rootOther
    have notChild : Slot.siblings other ≠ .siblings child := by
      rintro same
      rw [same, apply, if_pos rfl] at rootOther
      simp [indexToHandle] at rootOther
    rw [parentKept _ notChild] at rootOther
    have notLast := family.slotOf_ne_root lastMember rootOther
    rw [apply, if_neg notChild, if_neg (by simp), if_neg notLast.symm]
    exact family.root other inUse rootOther
  · intro other inUse dead
    have notChild : Slot.siblings other ≠ .siblings child := by
      simp only [ne_eq, Slot.siblings.injEq]
      rintro rfl
      exact dead childLive
    rw [parentKept _ notChild]
    exact family.dead other inUse dead

end Family

end PvrServices.Handles
