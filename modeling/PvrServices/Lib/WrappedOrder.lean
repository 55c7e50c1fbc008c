import Mathlib.Data.BitVec

/-!
# Ordered comparison of wrapping counters

A counter of fixed width shows the low bits of a count that only grows.
Comparing what two counts show orders the counts themselves unless the counter
has wrapped between them.
-/

namespace WrappedOrder

variable {width count sample : Nat}

/-- What the counter shows of the count is not below what it shows of the
sample. -/
def ShownReached (width count sample : Nat) : Prop :=
  (BitVec.ofNat width sample).toNat ≤ (BitVec.ofNat width count).toNat

/-- The sample has passed a wrap of the counter that the count has not. -/
def WrapBetween (width count sample : Nat) : Prop :=
  count / 2 ^ width < sample / 2 ^ width

instance : Decidable (ShownReached width count sample) :=
  inferInstanceAs (Decidable (_ ≤ _))

instance : Decidable (WrapBetween width count sample) :=
  inferInstanceAs (Decidable (_ < _))

theorem shownReached_iff :
    ShownReached width count sample ↔
      sample % 2 ^ width ≤ count % 2 ^ width := by
  rw [ShownReached, BitVec.toNat_ofNat, BitVec.toNat_ofNat]

/-- A sample beyond a wrap has not been reached. -/
theorem WrapBetween.lt (wrap : WrapBetween width count sample) :
    count < sample := by
  by_contra reached
  have windows : sample / 2 ^ width ≤ count / 2 ^ width :=
    Nat.div_le_div_right (Nat.not_lt.mp reached)
  exact Nat.not_lt.mpr windows wrap

/-- Beyond a wrap, a sample less than a whole range ahead is shown as
reached. -/
theorem WrapBetween.shownReached
    (wrap : WrapBetween width count sample)
    (near : sample < count + 2 ^ width) :
    ShownReached width count sample := by
  apply shownReached_iff.mpr
  have countParts := Nat.div_add_mod count (2 ^ width)
  have sampleParts := Nat.div_add_mod sample (2 ^ width)
  have windows : 2 ^ width * (count / 2 ^ width) + 2 ^ width ≤
      2 ^ width * (sample / 2 ^ width) :=
    calc
      2 ^ width * (count / 2 ^ width) + 2 ^ width =
          2 ^ width * (count / 2 ^ width + 1) := (Nat.mul_succ _ _).symm
      _ ≤ 2 ^ width * (sample / 2 ^ width) := Nat.mul_le_mul_left _ wrap
  omega

/-- With no wrap in between, a sample shown as reached is reached. -/
theorem ShownReached.le
    (shown : ShownReached width count sample)
    (noWrap : ¬ WrapBetween width count sample) :
    sample ≤ count := by
  have lowBits := shownReached_iff.mp shown
  have windows : 2 ^ width * (sample / 2 ^ width) ≤
      2 ^ width * (count / 2 ^ width) :=
    Nat.mul_le_mul_left _ (Nat.not_lt.mp noWrap)
  calc
    sample = 2 ^ width * (sample / 2 ^ width) + sample % 2 ^ width :=
      (Nat.div_add_mod sample _).symm
    _ ≤ 2 ^ width * (count / 2 ^ width) + count % 2 ^ width :=
      Nat.add_le_add windows lowBits
    _ = count := Nat.div_add_mod count _

/-- A count that equals the sample shows it as reached. -/
theorem shownReached_self : ShownReached width count count :=
  Nat.le_refl _

/-- Ordered comparisons of several counters, taken together, accept only
reached samples exactly when no sample lies beyond a wrap or a counter without
a wrap in between refuses. -/
theorem forall_reached_iff
    {index : Type}
    {member : index → Prop}
    {counts samples : index → Nat}
    (near : ∀ i, member i → samples i < counts i + 2 ^ width) :
    ((∀ i, member i → ShownReached width (counts i) (samples i)) →
        ∀ i, member i → samples i ≤ counts i) ↔
      (∀ i, member i → ¬ WrapBetween width (counts i) (samples i)) ∨
        ∃ i, member i ∧ ¬ WrapBetween width (counts i) (samples i) ∧
          ¬ ShownReached width (counts i) (samples i) := by
  constructor
  · intro sound
    by_contra neither
    obtain ⟨wraps, refused⟩ := not_or.mp neither
    have shown : ∀ i, member i →
        ShownReached width (counts i) (samples i) := by
      intro i inside
      by_contra hidden
      apply refused
      refine ⟨i, inside, ?_, hidden⟩
      intro wrap
      exact hidden (wrap.shownReached (near i inside))
    apply wraps
    intro i inside wrap
    exact Nat.not_lt.mpr (sound shown i inside) wrap.lt
  · intro condition shown i inside
    apply (shown i inside).le
    cases condition with
    | inl noWrap => exact noWrap i inside
    | inr refused =>
      obtain ⟨other, otherInside, _, hidden⟩ := refused
      exact absurd (shown other otherInside) hidden

end WrappedOrder
