import Mathlib.Logic.Function.Basic

/-!
# Tables with a filled range

A table from numbers to optional entries, and the table in which the keys of
a range have entries given by their distance from its start.  Two fillings of
one range agree exactly if their entries do.
-/

namespace FilledRange

variable {α : Type} {table : Nat → Option α} {first count key : Nat}
  {value other : Nat → α}

/-- The table with entries for `count` keys from `first` on. -/
def fill (table : Nat → Option α) (first : Nat) (value : Nat → α)
    (count : Nat) : Nat → Option α :=
  fun key =>
    if first ≤ key ∧ key < first + count then some (value (key - first))
    else table key

@[simp] theorem fill_zero :
    fill table first value 0 = table := by
  funext key
  exact if_neg fun within => absurd within.2 (Nat.not_lt.mpr within.1)

theorem fill_of_lt {index : Nat} (within : index < count) :
    fill table first value count (first + index) = some (value index) := by
  rw [fill, if_pos ⟨Nat.le_add_right first index, by omega⟩,
    Nat.add_sub_cancel_left]

theorem fill_of_not
    (outside : ¬ (first ≤ key ∧ key < first + count)) :
    fill table first value count key = table key :=
  if_neg outside

/-- To fill a range is to set its first key and to fill the rest. -/
theorem fill_update :
    fill (Function.update table first (some (value 0))) (first + 1)
        (fun index => value (index + 1)) count =
      fill table first value (count + 1) := by
  funext key
  rcases Nat.lt_trichotomy key first with before | rfl | behind
  · rw [fill_of_not (by omega), fill_of_not (by omega),
      Function.update_of_ne (Nat.ne_of_lt before)]
  · rw [fill_of_not (by omega), Function.update_self]
    have start : fill table key value (count + 1) (key + 0) =
        some (value 0) :=
      fill_of_lt (Nat.succ_pos count)
    exact start.symm
  · obtain ⟨index, rfl⟩ := Nat.exists_eq_add_of_le behind
    by_cases within : index < count
    · rw [fill_of_lt within, Nat.add_assoc first 1 index,
        fill_of_lt (by omega), Nat.add_comm 1 index]
    · rw [fill_of_not (by omega), fill_of_not (by omega),
        Function.update_of_ne (by omega)]

theorem fill_eq_fill_iff :
    fill table first value count = fill table first other count ↔
      ∀ index < count, value index = other index := by
  constructor
  · intro same index within
    have entries := congrFun same (first + index)
    rw [fill_of_lt within, fill_of_lt within] at entries
    exact Option.some.inj entries
  · intro same
    funext key
    by_cases within : first ≤ key ∧ key < first + count
    · rw [fill, fill, if_pos within, if_pos within, same _ (by omega)]
    · rw [fill_of_not within, fill_of_not within]

end FilledRange
