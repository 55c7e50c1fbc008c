import Mathlib.Data.List.Basic
import Mathlib.Data.Nat.ModEq
import Mathlib.Tactic.Ring

/-!
# Rings with a gap

A ring of `size` slots has a read and a write offset.  The slots from the read
offset up to the write offset are occupied; the writer leaves one slot free, so
that equal offsets mean that the ring is empty.
-/

namespace GapRing

open Nat (add_mod_right mod_eq_of_lt mod_self)

variable {size read write slot : Nat}

/-- The occupied slots, in the order in which they were written. -/
def occupied (size read write : Nat) : List Nat :=
  (List.range ((write + size - read) % size)).map
    fun index => (read + index) % size

/-- There is room for another slot. -/
def HasRoom (size read write : Nat) : Prop :=
  (write + 1) % size ≠ read

@[simp] theorem occupied_empty (size read : Nat) :
    occupied size read read = [] := by
  rw [occupied, Nat.add_sub_cancel_left, mod_self]
  rfl

section

variable (readBound : read < size) (writeBound : write < size)
include readBound writeBound

/-- The number of occupied slots leads from the read to the write offset. -/
theorem read_add_length :
    (read + (write + size - read) % size) % size = write := by
  rcases lt_or_ge write read with before | after
  · rw [mod_eq_of_lt (a := write + size - read) (by omega),
      show read + (write + size - read) = write + size by omega,
      add_mod_right, mod_eq_of_lt writeBound]
  · rw [show write + size - read = write - read + size by omega,
      add_mod_right, mod_eq_of_lt (a := write - read) (by omega),
      Nat.add_sub_cancel' after, mod_eq_of_lt writeBound]

/-- Another slot makes the ring longer by one when there is room. -/
theorem length_push
    (room : HasRoom size read write) :
    ((write + 1) % size + size - read) % size =
      (write + size - read) % size + 1 := by
  unfold HasRoom at room
  rcases lt_or_ge (write + 1) size with inside | last
  · rw [mod_eq_of_lt inside] at room ⊢
    rcases lt_or_ge write read with before | after
    · rw [mod_eq_of_lt (a := write + 1 + size - read) (by omega),
        mod_eq_of_lt (a := write + size - read) (by omega)]
      omega
    · rw [show write + 1 + size - read = write + 1 - read + size by omega,
        show write + size - read = write - read + size by omega,
        add_mod_right, add_mod_right,
        mod_eq_of_lt (a := write + 1 - read) (by omega),
        mod_eq_of_lt (a := write - read) (by omega)]
      omega
  · obtain rfl : size = write + 1 := by omega
    rw [mod_self] at room ⊢
    rw [Nat.zero_add,
      show write + (write + 1) - read = write - read + (write + 1) by omega,
      add_mod_right, mod_eq_of_lt (a := write + 1 - read) (by omega),
      mod_eq_of_lt (a := write - read) (by omega)]
    omega

/-- A slot that is written comes last. -/
theorem occupied_push
    (room : HasRoom size read write) :
    occupied size read ((write + 1) % size) =
      occupied size read write ++ [write] := by
  rw [occupied, length_push readBound writeBound room, List.range_succ,
    List.map_append, List.map_singleton,
    read_add_length readBound writeBound]
  rfl

/-- The write offset is not occupied. -/
theorem write_notMem :
    write ∉ occupied size read write := by
  intro member
  obtain ⟨index, below, isWrite⟩ := List.mem_map.mp member
  rw [List.mem_range] at below
  have few : (write + size - read) % size < size := Nat.mod_lt _ (by omega)
  have whole := read_add_length readBound writeBound
  generalize (write + size - read) % size = length at below few whole
  rw [← isWrite] at whole
  rcases lt_or_ge (read + index) size with inside | wrapped
  · rw [mod_eq_of_lt inside] at whole
    rcases lt_or_ge (read + length) size with _ | _
    · rw [mod_eq_of_lt (by omega)] at whole
      omega
    · rw [Nat.mod_eq_sub_mod (by omega), mod_eq_of_lt (by omega)] at whole
      omega
  · rw [Nat.mod_eq_sub_mod (by omega), mod_eq_of_lt (by omega),
      Nat.mod_eq_sub_mod (by omega), mod_eq_of_lt (by omega)] at whole
    omega

/-- Reading takes the first slot. -/
theorem occupied_pop
    (nonempty : read ≠ write) :
    occupied size read write =
      read :: occupied size ((read + 1) % size) write := by
  have shorter : (write + size - read) % size =
      (write + size - (read + 1) % size) % size + 1 := by
    rcases lt_or_ge (read + 1) size with inside | last
    · rw [mod_eq_of_lt (a := read + 1) inside]
      rcases lt_or_ge write read with before | after
      · rw [mod_eq_of_lt (a := write + size - read) (by omega),
          mod_eq_of_lt (a := write + size - (read + 1)) (by omega)]
        omega
      · rw [show write + size - read = write - read + size by omega,
          show write + size - (read + 1) = write - (read + 1) + size by omega,
          add_mod_right, add_mod_right,
          mod_eq_of_lt (a := write - read) (by omega),
          mod_eq_of_lt (a := write - (read + 1)) (by omega)]
        omega
    · obtain rfl : size = read + 1 := by omega
      rw [mod_self, Nat.sub_zero, add_mod_right,
        mod_eq_of_lt (a := write) writeBound,
        mod_eq_of_lt (by omega)]
      omega
  rw [occupied, shorter, List.range_succ_eq_map, List.map_cons,
    Nat.add_zero, mod_eq_of_lt readBound, List.map_map, occupied]
  congr 1
  apply List.map_congr_left
  intro index _
  show (read + (index + 1)) % size = ((read + 1) % size + index) % size
  rw [Nat.mod_add_mod]
  congr 1
  ring

/-- Reading makes room. -/
theorem hasRoom_pop
    (nonempty : read ≠ write) :
    HasRoom size ((read + 1) % size) write := by
  unfold HasRoom
  intro same
  have congruent : write + 1 ≡ read + 1 [MOD size] := same
  have equal := (congruent.add_right_cancel' 1).eq_of_lt_of_lt writeBound
    readBound
  exact nonempty equal.symm

end

end GapRing
