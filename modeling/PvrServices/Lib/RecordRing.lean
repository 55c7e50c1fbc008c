import PvrServices.Lib.ByteMemory

/-!
# Records in a ring with slack

Records of different lengths follow one another in a ring of `size` bytes.  A
record starts at its position modulo `size` and is never split: it may run
past the nominal end into slack space behind the ring.  Positions are counted
without wrapping, so that the records from one reader position on are
consecutive intervals.
-/

namespace RecordRing

open ByteMemory

/-- The bytes of a memory range. -/
def bytesAt (memory : Memory) (address count : Nat) : List UInt8 :=
  (List.range count).map fun index => memory (address + index)

@[simp] theorem length_bytesAt (memory : Memory) (address count : Nat) :
    (bytesAt memory address count).length = count := by
  simp [bytesAt]

variable {memory other : Memory}
  {count base size position address reader filled : Nat}
  {records : List (List UInt8)}

theorem bytesAt_congr
    (agree : ∀ index < count,
      memory (address + index) = other (address + index)) :
    bytesAt memory address count = bytesAt other address count := by
  apply List.map_congr_left
  intro index member
  exact agree index (List.mem_range.mp member)

/-- The little-endian word a record starts with. -/
def headWord (record : List UInt8) (width : Nat) : Nat :=
  readLE (fun index => record.getD index 0) width 0

theorem headWord_bytesAt
    (memory : Memory)
    {width : Nat}
    (covered : width ≤ count) :
    headWord (bytesAt memory address count) width =
      readLE memory width address := by
  apply readLE_congr
  intro index indexBound
  have inside : index < count := by omega
  simp [bytesAt, inside]

/-- Number of bytes the records take. -/
def total (records : List (List UInt8)) : Nat :=
  (records.map List.length).sum

@[simp] theorem total_nil : total [] = 0 := rfl

@[simp] theorem total_cons (record : List UInt8) (rest : List (List UInt8)) :
    total (record :: rest) = record.length + total rest := rfl

@[simp] theorem total_append (first second : List (List UInt8)) :
    total (first ++ second) = total first + total second := by
  simp [total]

/-- The records are stored one after another from `position` on. -/
def Stored (memory : Memory) (base size : Nat) :
    Nat → List (List UInt8) → Prop
  | _, [] => True
  | position, record :: rest =>
    bytesAt memory (base + position % size) record.length = record ∧
      Stored memory base size (position + record.length) rest

theorem stored_mod
    {other : Nat}
    (same : position % size = other % size)
    (stored : Stored memory base size position records) :
    Stored memory base size other records := by
  induction records generalizing position other with
  | nil => trivial
  | cons record rest ih =>
    refine ⟨same ▸ stored.1, ih ?_ stored.2⟩
    rw [Nat.add_mod, same, ← Nat.add_mod]

theorem stored_append
    {records others : List (List UInt8)} :
    Stored memory base size position (records ++ others) ↔
      Stored memory base size position records ∧
        Stored memory base size (position + total records) others := by
  induction records generalizing position with
  | nil => simp [Stored]
  | cons record rest ih =>
    simp only [List.cons_append, Stored, ih, total_cons,
      and_assoc, Nat.add_assoc]

/-- A record that starts before the writer position and ends before it does
not meet the next free range, also where one of them reaches into the
slack. -/
theorem free_apart
    {length : Nat}
    (readerBound : reader < size)
    (after : reader ≤ position)
    (before : position + length ≤ reader + filled)
    (room : filled + count < size) :
    Apart ((reader + filled) % size) count (position % size) length := by
  unfold Apart
  have writerSplit : (reader + filled) % size = reader + filled ∨
      (size ≤ reader + filled ∧
        (reader + filled) % size = reader + filled - size) := by
    by_cases wraps : size ≤ reader + filled
    · right
      refine ⟨wraps, ?_⟩
      rw [Nat.mod_eq_sub_mod wraps, Nat.mod_eq_of_lt (by omega)]
    · exact Or.inl (Nat.mod_eq_of_lt (by omega))
  have recordSplit : (position < size ∧ position % size = position) ∨
      (size ≤ position ∧ position % size = position - size) := by
    by_cases wraps : size ≤ position
    · right
      refine ⟨wraps, ?_⟩
      rw [Nat.mod_eq_sub_mod wraps, Nat.mod_eq_of_lt (by omega)]
    · exact Or.inl ⟨by omega, Nat.mod_eq_of_lt (by omega)⟩
  have writerLow : reader + filled < size ∨ size ≤ reader + filled := by
    omega
  rcases writerSplit with writer | ⟨wraps, writer⟩ <;>
    rcases recordSplit with ⟨low, record⟩ | ⟨high, record⟩ <;>
    rw [writer, record]
  · have writerBound : (reader + filled) % size < size :=
      Nat.mod_lt _ (by omega)
    omega
  · have writerBound : (reader + filled) % size < size :=
      Nat.mod_lt _ (by omega)
    omega
  · omega
  · omega

/-- Writes into the free range behind the records leave them as they are. -/
theorem stored_of_frame
    (readerBound : reader < size)
    (after : reader ≤ position)
    (before : position + total records ≤ reader + filled)
    (room : filled + count < size)
    (frame : ∀ location,
      location < base + (reader + filled) % size ∨
        base + (reader + filled) % size + count ≤ location →
      other location = memory location)
    (stored : Stored memory base size position records) :
    Stored other base size position records := by
  induction records generalizing position with
  | nil => trivial
  | cons record rest ih =>
    rw [total_cons] at before
    refine ⟨?_, ih (by omega) (by omega) stored.2⟩
    rw [← stored.1, length_bytesAt]
    apply bytesAt_congr
    intro index indexBound
    apply frame
    have apart : Apart ((reader + filled) % size) count
        (position % size) record.length :=
      free_apart readerBound after (by omega) room
    rcases apart with above | below <;> omega

end RecordRing
