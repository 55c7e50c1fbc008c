import Mathlib.Data.List.Count
import Mathlib.Data.List.Nodup
import Mathlib.Data.List.Perm.Basic

/-!
# Ledgers of exclusive resources

Holders acquire resources and release them.  The ledger lists both, and is
balanced when a resource has been acquired once more than it was released
while somebody holds it, and as often when nobody does.  Nobody shares a
resource, so that each acquisition is released once, by its holder.
-/

namespace Ledger

open List (count_append mem_append nodup_append)

variable {holder resource : Type} [DecidableEq resource]

/-- What was acquired and not released is what somebody holds. -/
structure Balanced
    (acquired released : List resource) (held : holder → List resource) :
    Prop where
  distinct : ∀ owner, (held owner).Nodup
  disjoint : ∀ first second item,
    item ∈ held first → item ∈ held second → first = second
  kept : ∀ owner item, item ∈ held owner →
    acquired.count item = released.count item + 1
  returned : ∀ item, (∀ owner, item ∉ held owner) →
    acquired.count item = released.count item

variable
  {acquired released items rest : List resource}
  {held after : holder → List resource}

/-- Before the first acquisition. -/
theorem balanced_nil :
    Balanced [] ([] : List resource) fun _ : holder => [] where
  distinct := fun _ => List.nodup_nil
  disjoint := fun _ _ _ impossible => absurd impossible List.not_mem_nil
  kept := fun _ _ impossible => absurd impossible List.not_mem_nil
  returned := fun _ _ => rfl

namespace Balanced

section

variable (balanced : Balanced acquired released held)
include balanced

/-- The order in which a holder lists its resources does not matter. -/
theorem reorder
    (same : ∀ owner, (after owner).Perm (held owner)) :
    Balanced acquired released after where
  distinct := fun owner => (same owner).nodup_iff.mpr (balanced.distinct owner)
  disjoint := fun first second item inFirst inSecond =>
    balanced.disjoint first second item ((same first).mem_iff.mp inFirst)
      ((same second).mem_iff.mp inSecond)
  kept := fun owner item member =>
    balanced.kept owner item ((same owner).mem_iff.mp member)
  returned := fun item none =>
    balanced.returned item fun owner member =>
      none owner ((same owner).mem_iff.mpr member)

/-- A resource that was released as often as acquired has no holder. -/
theorem not_held
    {item : resource}
    (unused : acquired.count item = released.count item)
    (owner : holder) :
    item ∉ held owner := by
  intro member
  have once := balanced.kept owner item member
  omega

/-- What is acquired and released in one go is not held by anyone. -/
theorem pass
    {back : List resource}
    (same : items.Perm back) :
    Balanced (items ++ acquired) (back ++ released) held where
  distinct := balanced.distinct
  disjoint := balanced.disjoint
  kept := by
    intro owner item member
    rw [count_append, count_append, same.count_eq,
      balanced.kept owner item member]
    omega
  returned := by
    intro item none
    rw [count_append, count_append, same.count_eq, balanced.returned item none]

end

section Update

variable [DecidableEq holder] (owner : holder)

omit [DecidableEq resource] in
/-- One holder has some items more, and the others have the same. -/
theorem more_iff
    {fewer more : holder → List resource}
    (others : ∀ other, other ≠ owner → more other = fewer other)
    (self : (more owner).Perm (items ++ fewer owner))
    (other : holder)
    (item : resource) :
    item ∈ more other ↔ item ∈ fewer other ∨ other = owner ∧ item ∈ items := by
  by_cases isOwner : other = owner
  · rw [isOwner, self.mem_iff, mem_append, or_comm]
    simp
  · simp [others other isOwner, isOwner]

/-- A holder acquires resources that nobody holds. -/
theorem acquire
    (balanced : Balanced acquired released held)
    (distinct : items.Nodup)
    (unused : ∀ item ∈ items, ∀ other, item ∉ held other)
    (others : ∀ other, other ≠ owner → after other = held other)
    (self : (after owner).Perm (items ++ held owner)) :
    Balanced (items ++ acquired) released after where
  distinct := by
    intro other
    by_cases isOwner : other = owner
    · rw [isOwner, self.nodup_iff, nodup_append]
      refine ⟨distinct, balanced.distinct owner, ?_⟩
      rintro item member _ inHeld rfl
      exact unused item member owner inHeld
    · rw [others other isOwner]
      exact balanced.distinct other
  disjoint := by
    intro first second item inFirst inSecond
    rcases (more_iff owner others self first item).mp inFirst with
      inFirst | ⟨isFirst, member⟩
    · rcases (more_iff owner others self second item).mp inSecond with
        inSecond | ⟨_, member⟩
      · exact balanced.disjoint first second item inFirst inSecond
      · exact absurd inFirst (unused item member first)
    · rcases (more_iff owner others self second item).mp inSecond with
        inSecond | ⟨isSecond, _⟩
      · exact absurd inSecond (unused item member second)
      · rw [isFirst, isSecond]
  kept := by
    intro other item inAfter
    rw [count_append]
    by_cases member : item ∈ items
    · rw [List.count_eq_one_of_mem distinct member,
        balanced.returned item (unused item member), Nat.add_comm]
    · rw [List.count_eq_zero_of_not_mem member, Nat.zero_add]
      exact balanced.kept other item
        (((more_iff owner others self other item).mp inAfter).resolve_right
          fun both => member both.2)
  returned := by
    intro item none
    have absent : item ∉ items := fun member =>
      none owner (self.mem_iff.mpr (List.mem_append_left _ member))
    rw [count_append, List.count_eq_zero_of_not_mem absent, Nat.zero_add]
    apply balanced.returned
    exact fun other inHeld => none other
      ((more_iff owner others self other item).mpr (Or.inl inHeld))

/-- A holder releases some of its resources. -/
theorem release
    (balanced : Balanced acquired released held)
    (self : (held owner).Perm (items ++ after owner))
    (others : ∀ other, other ≠ owner → after other = held other) :
    Balanced acquired (items ++ released) after where
  distinct := by
    intro other
    by_cases isOwner : other = owner
    · have whole := self.nodup_iff.mp (balanced.distinct owner)
      rw [isOwner]
      exact (nodup_append.mp whole).2.1
    · rw [others other isOwner]
      exact balanced.distinct other
  disjoint := by
    intro first second item inFirst inSecond
    have was_held :=
      more_iff owner (fun other apart => (others other apart).symm) self
    exact balanced.disjoint first second item
      ((was_held first item).mpr (Or.inl inFirst))
      ((was_held second item).mpr (Or.inl inSecond))
  kept := by
    intro other item inAfter
    have absent : item ∉ items := by
      intro member
      have inHeld : item ∈ held owner :=
        self.mem_iff.mpr (List.mem_append_left _ member)
      have whole := self.nodup_iff.mp (balanced.distinct owner)
      by_cases isOwner : other = owner
      · rw [isOwner] at inAfter
        exact (nodup_append.mp whole).2.2 item member item inAfter rfl
      · rw [others other isOwner] at inAfter
        exact isOwner (balanced.disjoint other owner item inAfter inHeld)
    rw [count_append, List.count_eq_zero_of_not_mem absent, Nat.zero_add]
    have was_held :=
      more_iff owner (fun other apart => (others other apart).symm) self
    exact balanced.kept other item ((was_held other item).mpr (Or.inl inAfter))
  returned := by
    intro item none
    rw [count_append]
    by_cases member : item ∈ items
    · have whole := self.nodup_iff.mp (balanced.distinct owner)
      have once := balanced.kept owner item
        (self.mem_iff.mpr (List.mem_append_left _ member))
      rw [List.count_eq_one_of_mem (nodup_append.mp whole).1 member,
        once, Nat.add_comm]
    · rw [List.count_eq_zero_of_not_mem member, Nat.zero_add]
      have was_held :=
        more_iff owner (fun other apart => (others other apart).symm) self
      refine balanced.returned item fun other inHeld => none other ?_
      exact ((was_held other item).mp inHeld).resolve_right
        fun both => member both.2

end Update

end Balanced

end Ledger
