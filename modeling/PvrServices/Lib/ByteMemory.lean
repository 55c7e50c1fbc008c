import Mathlib.Tactic.Ring

/-!
# Byte-addressed memory and little-endian words

A memory is a total function from addresses to bytes.  Words are read and
written least significant byte first.  Every multi-byte access is related to
its bytes once, so that later arguments about overlapping copies only have to
speak about single addresses.
-/

namespace ByteMemory

/-- A byte-addressed memory. -/
abbrev Memory := Nat → UInt8

/-- The little-endian number held by `width` bytes at `address`. -/
def readLE (memory : Memory) : (width address : Nat) → Nat
  | 0, _ => 0
  | width + 1, address =>
    (memory address).toNat + 256 * readLE memory width (address + 1)

/-- Store the low `width` bytes of `value` at `address`. -/
def writeLE (memory : Memory) (width address value : Nat) : Memory :=
  fun location =>
    if address ≤ location ∧ location < address + width then
      UInt8.ofNat (value / 256 ^ (location - address))
    else
      memory location

/-- Two byte ranges that share no address. -/
def Apart (first firstWidth second secondWidth : Nat) : Prop :=
  first + firstWidth ≤ second ∨ second + secondWidth ≤ first

instance (first firstWidth second secondWidth : Nat) :
    Decidable (Apart first firstWidth second secondWidth) :=
  inferInstanceAs (Decidable (_ ∨ _))

/-! ## Reading -/

@[simp] theorem readLE_zero (memory : Memory) (address : Nat) :
    readLE memory 0 address = 0 := rfl

theorem readLE_succ (memory : Memory) (width address : Nat) :
    readLE memory (width + 1) address =
      (memory address).toNat + 256 * readLE memory width (address + 1) := rfl

theorem readLE_lt (memory : Memory) (width address : Nat) :
    readLE memory width address < 256 ^ width := by
  induction width generalizing address with
  | zero => simp
  | succ width ih =>
    have low := (memory address).toNat_lt
    have high := ih (address + 1)
    rw [readLE_succ, pow_succ]
    omega

variable {memory : Memory} {width address value index location : Nat}

/-- A read only depends on the bytes it covers. -/
theorem readLE_congr
    {other : Memory}
    {otherAddress : Nat}
    (agree : ∀ index < width,
      memory (address + index) = other (otherAddress + index)) :
    readLE memory width address = readLE other width otherAddress := by
  induction width generalizing address otherAddress with
  | zero => rfl
  | succ width ih =>
    have head := agree 0 (by omega)
    have tail : readLE memory width (address + 1) =
        readLE other width (otherAddress + 1) := by
      apply ih
      intro index indexBound
      have byte := agree (index + 1) (by omega)
      rwa [show address + (index + 1) = address + 1 + index by omega,
        show otherAddress + (index + 1) = otherAddress + 1 + index by
          omega] at byte
    rw [readLE_succ, readLE_succ, tail]
    simp only [Nat.add_zero] at head
    rw [head]

/-- The bytes of a number, read back as a word, give its residue. -/
theorem readLE_eq_mod
    (bytes : ∀ index < width,
      memory (address + index) = UInt8.ofNat (value / 256 ^ index)) :
    readLE memory width address = value % 256 ^ width := by
  induction width generalizing address value with
  | zero => simp [Nat.mod_one]
  | succ width ih =>
    have head := bytes 0 (by omega)
    have tail : readLE memory width (address + 1) =
        value / 256 % 256 ^ width := by
      apply ih
      intro index indexBound
      have byte := bytes (index + 1) (by omega)
      rw [show address + (index + 1) = address + 1 + index by omega,
        pow_succ', ← Nat.div_div_eq_div_mul] at byte
      exact byte
    rw [readLE_succ, tail, pow_succ', Nat.mod_mul]
    simp only [Nat.add_zero, pow_zero, Nat.div_one] at head
    rw [head]
    simp

/-- A byte of a word that has been read. -/
theorem ofNat_readLE_div
    (memory : Memory)
    (address : Nat)
    (indexBound : index < width) :
    UInt8.ofNat (readLE memory width address / 256 ^ index) =
      memory (address + index) := by
  induction width generalizing address index with
  | zero => omega
  | succ width ih =>
    have low := (memory address).toNat_lt
    cases index with
    | zero =>
      apply UInt8.toNat_inj.mp
      simp [readLE_succ]
    | succ index =>
      rw [pow_succ', ← Nat.div_div_eq_div_mul, readLE_succ,
        show ((memory address).toNat +
            256 * readLE memory width (address + 1)) / 256 =
          readLE memory width (address + 1) by omega,
        ih (address + 1) (by omega)]
      congr 1
      omega

/-- A word has no bytes beyond its width. -/
theorem ofNat_readLE_div_of_le
    (memory : Memory)
    (address : Nat)
    (beyond : width ≤ index) :
    UInt8.ofNat (readLE memory width address / 256 ^ index) = 0 := by
  have small : readLE memory width address < 256 ^ index :=
    lt_of_lt_of_le (readLE_lt memory width address)
      (Nat.pow_le_pow_right (by omega) beyond)
  rw [Nat.div_eq_of_lt small]
  rfl

/-! ## Writing -/

theorem writeLE_outside
    (outside : location < address ∨ address + width ≤ location) :
    writeLE memory width address value location = memory location := by
  unfold writeLE
  rw [if_neg (by omega)]

theorem writeLE_inside
    (memory : Memory)
    (address value : Nat)
    (indexBound : index < width) :
    writeLE memory width address value (address + index) =
      UInt8.ofNat (value / 256 ^ index) := by
  unfold writeLE
  rw [if_pos (by omega), show address + index - address = index by omega]

@[simp] theorem readLE_writeLE
    (memory : Memory)
    (width address value : Nat) :
    readLE (writeLE memory width address value) width address =
      value % 256 ^ width :=
  readLE_eq_mod fun _ indexBound =>
    writeLE_inside memory address value indexBound

theorem readLE_writeLE_of_apart
    {readWidth readAddress : Nat}
    (apart : Apart address width readAddress readWidth) :
    readLE (writeLE memory width address value) readWidth readAddress =
      readLE memory readWidth readAddress := by
  apply readLE_congr
  intro index indexBound
  apply writeLE_outside
  rcases apart with before | after <;> omega

/-! ## Copying between memories -/

/-- Overwrite `width` bytes at `address` with bytes of another memory. -/
def copyFrom
    (target source : Memory)
    (address sourceAddress width : Nat) :
    Memory :=
  fun location =>
    if address ≤ location ∧ location < address + width then
      source (sourceAddress + (location - address))
    else
      target location

theorem copyFrom_inside
    (target source : Memory)
    (address sourceAddress : Nat)
    (indexBound : index < width) :
    copyFrom target source address sourceAddress width (address + index) =
      source (sourceAddress + index) := by
  unfold copyFrom
  rw [if_pos (by omega), Nat.add_sub_cancel_left]

theorem copyFrom_outside
    {target source : Memory}
    {sourceAddress : Nat}
    (outside : location < address ∨ address + width ≤ location) :
    copyFrom target source address sourceAddress width location =
      target location := by
  unfold copyFrom
  rw [if_neg (by omega)]

end ByteMemory
