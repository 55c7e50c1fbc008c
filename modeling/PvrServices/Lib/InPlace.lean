import PvrServices.Lib.ByteMemory
import Mathlib.Data.List.Flatten

/-!
# Relocating fields in place

A buffer is rearranged by moves, each of which copies a little-endian field
to another place and width.  A stage reads all of its fields before it writes
any of them.  Stages that follow one another are safe when no stage writes
over a field that a later one still has to read; under that condition the run
has the same effect as reading every field from the original buffer.
-/

namespace ByteMemory

open List (flatten_cons mem_append mem_cons mem_singleton pairwise_append
  pairwise_cons)

/-- Copy the field of `sourceWidth` bytes at `source` to the field of
`targetWidth` bytes at `target`, truncating or extending with zeros. -/
structure Move where
  source : Nat
  sourceWidth : Nat
  target : Nat
  targetWidth : Nat
deriving DecidableEq, Repr

namespace Move

/-- Clear a range: the move of an empty field. -/
def clear (target targetWidth : Nat) : Move :=
  { source := 0, sourceWidth := 0, target, targetWidth }

/-- Perform one move, taking the source field from `snapshot`. -/
def writeFrom (snapshot : Memory) (memory : Memory) (move : Move) : Memory :=
  writeLE memory move.targetWidth move.target
    (readLE snapshot move.sourceWidth move.source)

/-- Perform one move. -/
def apply (move : Move) (memory : Memory) : Memory :=
  move.writeFrom memory memory

/-- The byte a move leaves at `index` of its target. -/
def byteAt (move : Move) (memory : Memory) (index : Nat) : UInt8 :=
  if index < move.sourceWidth then memory (move.source + index) else 0

/-- The two moves write disjoint ranges. -/
def TargetsApart (first second : Move) : Prop :=
  Apart first.target first.targetWidth second.target second.targetWidth

/-- Performing `earlier` leaves the source of `later` as it was. -/
def Spares (earlier later : Move) : Prop :=
  later.sourceWidth = 0 ∨
    Apart earlier.target earlier.targetWidth later.source later.sourceWidth

instance (first second : Move) : Decidable (first.TargetsApart second) :=
  inferInstanceAs (Decidable (Apart _ _ _ _))

instance (earlier later : Move) : Decidable (earlier.Spares later) :=
  inferInstanceAs (Decidable (_ ∨ Apart _ _ _ _))

theorem writeFrom_inside
    (snapshot memory : Memory)
    (move : Move)
    {index : Nat}
    (indexBound : index < move.targetWidth) :
    move.writeFrom snapshot memory (move.target + index) =
      move.byteAt snapshot index := by
  rw [writeFrom, writeLE_inside memory move.target _ indexBound, byteAt]
  split_ifs with covered
  · exact ofNat_readLE_div snapshot move.source covered
  · exact ofNat_readLE_div_of_le snapshot move.source (by omega)

variable {memory : Memory} {move : Move}

theorem writeFrom_outside
    {snapshot : Memory}
    {location : Nat}
    (outside : location < move.target ∨
      move.target + move.targetWidth ≤ location) :
    move.writeFrom snapshot memory location = memory location :=
  writeLE_outside outside

/-- Source bytes agree on memories that agree on the source field. -/
theorem byteAt_congr
    {other : Memory}
    (agree : ∀ index < move.sourceWidth,
      memory (move.source + index) = other (move.source + index))
    (index : Nat) :
    move.byteAt memory index = move.byteAt other index := by
  unfold byteAt
  split_ifs with covered
  · exact agree index covered
  · rfl

end Move

/-- A group of fields read together before any of them is written. -/
abbrev Stage := List Move

/-- Read every field of the stage, then write them in order. -/
def runStage (stage : Stage) (memory : Memory) : Memory :=
  stage.foldl (fun current move => move.writeFrom memory current) memory

/-- Perform the stages one after another. -/
def runStages (stages : List Stage) (memory : Memory) : Memory :=
  stages.foldl (fun current stage => runStage stage current) memory

@[simp] theorem runStages_nil (memory : Memory) :
    runStages [] memory = memory := rfl

@[simp] theorem runStages_cons
    (stage : Stage) (stages : List Stage) (memory : Memory) :
    runStages (stage :: stages) memory =
      runStages stages (runStage stage memory) := rfl

/-- No target of the moves covers `location`. -/
def Untouched (moves : List Move) (location : Nat) : Prop :=
  ∀ move ∈ moves, location < move.target ∨
    move.target + move.targetWidth ≤ location

/-- Every target is written once, and no stage writes over a field that a
later stage reads. -/
structure Safe (stages : List Stage) : Prop where
  targetsApart : stages.flatten.Pairwise Move.TargetsApart
  sparesLater : stages.Pairwise fun early late =>
    ∀ earlier ∈ early, ∀ later ∈ late, earlier.Spares later

instance (stages : List Stage) : Decidable (Safe stages) :=
  decidable_of_iff
    (stages.flatten.Pairwise Move.TargetsApart ∧
      stages.Pairwise fun early late =>
        ∀ earlier ∈ early, ∀ later ∈ late, earlier.Spares later)
    ⟨fun ⟨targetsApart, sparesLater⟩ => ⟨targetsApart, sparesLater⟩,
      fun ⟨targetsApart, sparesLater⟩ => ⟨targetsApart, sparesLater⟩⟩

/-! ## One stage -/

variable {memory snapshot : Memory} {location index frontier : Nat}
  {program : Memory → Memory} {stage : Stage} {move : Move}
  {stages : List Stage}

theorem foldl_writeFrom_untouched
    {moves : List Move}
    (untouched : Untouched moves location) :
    moves.foldl (fun current move => move.writeFrom snapshot current) memory
        location =
      memory location := by
  induction moves generalizing memory with
  | nil => rfl
  | cons move moves ih =>
    rw [List.foldl_cons, ih fun other member =>
        untouched other (List.mem_cons_of_mem _ member)]
    exact Move.writeFrom_outside (untouched move List.mem_cons_self)

theorem runStage_untouched
    (untouched : Untouched stage location) :
    runStage stage memory location = memory location :=
  foldl_writeFrom_untouched untouched

/-- A target apart from the later ones is not touched by them. -/
theorem untouched_of_targetsApart
    {moves : List Move}
    (apart : ∀ other ∈ moves, move.TargetsApart other)
    (indexBound : index < move.targetWidth) :
    Untouched moves (move.target + index) := by
  intro other member
  rcases apart other member with before | after <;> omega

theorem foldl_writeFrom_target
    {moves : List Move}
    (targetsApart : moves.Pairwise Move.TargetsApart)
    (member : move ∈ moves)
    (indexBound : index < move.targetWidth) :
    moves.foldl (fun current move => move.writeFrom snapshot current) memory
        (move.target + index) =
      move.byteAt snapshot index := by
  induction moves generalizing memory with
  | nil => cases member
  | cons first rest ih =>
    rw [pairwise_cons] at targetsApart
    rw [List.foldl_cons]
    cases member with
    | head =>
      rw [foldl_writeFrom_untouched
        (untouched_of_targetsApart targetsApart.1 indexBound)]
      exact move.writeFrom_inside snapshot memory indexBound
    | tail _ member => exact ih targetsApart.2 member

theorem runStage_target
    (memory : Memory)
    (targetsApart : stage.Pairwise Move.TargetsApart)
    (member : move ∈ stage)
    (indexBound : index < move.targetWidth) :
    runStage stage memory (move.target + index) = move.byteAt memory index :=
  foldl_writeFrom_target targetsApart member indexBound

/-! ## Several stages -/

theorem runStages_untouched
    (untouched : Untouched stages.flatten location) :
    runStages stages memory location = memory location := by
  induction stages generalizing memory with
  | nil => rfl
  | cons stage stages ih =>
    rw [runStages_cons, ih fun move member =>
      untouched move (by simp [member])]
    exact runStage_untouched fun move member =>
      untouched move (by simp [member])

theorem Safe.tail
    (safe : Safe (stage :: stages)) :
    Safe stages where
  targetsApart := by
    have apart := safe.targetsApart
    rw [flatten_cons, pairwise_append] at apart
    exact apart.2.1
  sparesLater := (pairwise_cons.mp safe.sparesLater).2

/-- In a safe run every target receives the field of the original buffer. -/
theorem runStages_target
    (memory : Memory)
    (safe : Safe stages)
    (member : move ∈ stages.flatten)
    (indexBound : index < move.targetWidth) :
    runStages stages memory (move.target + index) =
      move.byteAt memory index := by
  induction stages generalizing memory with
  | nil => cases member
  | cons stage stages ih =>
    have apart := safe.targetsApart
    rw [flatten_cons, pairwise_append] at apart
    obtain ⟨stageApart, _, crossApart⟩ := apart
    rw [flatten_cons, mem_append] at member
    rw [runStages_cons]
    rcases member with inStage | later
    · rw [runStages_untouched
        (untouched_of_targetsApart (crossApart move inStage) indexBound)]
      exact runStage_target memory stageApart inStage indexBound
    · rw [ih (runStage stage memory) safe.tail later]
      -- the stage just run spares the source of every later move
      apply Move.byteAt_congr
      intro offset offsetBound
      apply runStage_untouched
      intro earlier earlierMember
      obtain ⟨lateStage, lateMember, moveMember⟩ := List.mem_flatten.mp later
      have spares := (pairwise_cons.mp safe.sparesLater).1
        lateStage lateMember earlier earlierMember move moveMember
      rcases spares with empty | before | after <;> omega

theorem readLE_of_byteAt
    {original : Memory}
    (bytes : ∀ index < move.targetWidth,
      memory (move.target + index) = move.byteAt original index) :
    readLE memory move.targetWidth move.target =
      readLE original move.sourceWidth move.source %
        256 ^ move.targetWidth := by
  apply readLE_eq_mod
  intro index indexBound
  rw [bytes index indexBound, Move.byteAt]
  split_ifs with covered
  · exact (ofNat_readLE_div original move.source covered).symm
  · exact (ofNat_readLE_div_of_le original move.source (by omega)).symm

/-! ## Writes put off to the end -/

/-- Stages in the middle of which a first group of fields is held back: it is
read before the stages and written after them. -/
structure Relocation where
  /-- Read first, written last. -/
  deferred : Stage
  stages : List Stage

namespace Relocation

/-- A relocation that holds nothing back. -/
def ofStages (stages : List Stage) : Relocation :=
  { deferred := [], stages }

/-- All moves of a relocation. -/
def moves (relocation : Relocation) : List Move :=
  (relocation.deferred :: relocation.stages).flatten

/-- Perform a relocation. -/
def run (relocation : Relocation) (memory : Memory) : Memory :=
  relocation.deferred.foldl
    (fun current move => move.writeFrom memory current)
    (runStages relocation.stages memory)

/-- A relocation is safe when its stages are, the deferred group taken as the
first of them. -/
def Safe (relocation : Relocation) : Prop :=
  ByteMemory.Safe (relocation.deferred :: relocation.stages)

variable {relocation : Relocation}

theorem run_untouched
    (untouched : Untouched relocation.moves location) :
    relocation.run memory location = memory location := by
  rw [run, foldl_writeFrom_untouched fun move member =>
    untouched move (by simp [moves, member])]
  exact runStages_untouched fun move member =>
    untouched move (by rw [moves, flatten_cons]; simp [member])

/-- In a safe relocation every target receives the field of the original
buffer. -/
theorem run_target
    (memory : Memory)
    (safe : relocation.Safe)
    (member : move ∈ relocation.moves)
    (indexBound : index < move.targetWidth) :
    relocation.run memory (move.target + index) =
      move.byteAt memory index := by
  have apart := safe.targetsApart
  rw [flatten_cons, pairwise_append] at apart
  obtain ⟨deferredApart, _, crossApart⟩ := apart
  rw [moves, flatten_cons, mem_append] at member
  rcases member with held | staged
  · exact foldl_writeFrom_target deferredApart held indexBound
  · rw [run, foldl_writeFrom_untouched]
    · exact runStages_target memory safe.tail staged indexBound
    · intro held heldMember
      rcases crossApart held heldMember move staged with before | after <;>
        omega

end Relocation

/-! ## Programs that perform a set of moves -/

/-- `program` carries out `moves` as if every source were read from the
buffer it starts with, and writes nowhere else. -/
structure Performs (moves : List Move) (program : Memory → Memory) : Prop where
  target : ∀ memory, ∀ move ∈ moves, ∀ index < move.targetWidth,
    program memory (move.target + index) = move.byteAt memory index
  untouched : ∀ memory location, Untouched moves location →
    program memory location = memory location

/-- The order in which moves are listed does not matter. -/
theorem Performs.congr
    {moves others : List Move}
    (performs : Performs moves program)
    (same : ∀ move, move ∈ others ↔ move ∈ moves) :
    Performs others program where
  target memory move member :=
    performs.target memory move ((same move).mp member)
  untouched memory location untouched :=
    performs.untouched memory location fun move member =>
      untouched move ((same move).mpr member)

theorem performs_nil : Performs [] fun memory => memory where
  target _ _ member := absurd member List.not_mem_nil
  untouched _ _ _ := rfl

theorem performs_apply (move : Move) : Performs [move] move.apply where
  target memory other member index indexBound := by
    rw [mem_singleton] at member
    subst member
    exact other.writeFrom_inside memory memory indexBound
  untouched memory location untouched :=
    Move.writeFrom_outside (untouched move List.mem_cons_self)

/-- A stage performs its moves. -/
theorem performs_runStage
    (apart : stage.Pairwise Move.TargetsApart) :
    Performs stage (runStage stage) where
  target memory _ member _ indexBound :=
    runStage_target memory apart member indexBound
  untouched _ _ untouched := runStage_untouched untouched

/-- A safe list of stages performs its moves. -/
theorem performs_runStages
    (safe : Safe stages) :
    Performs stages.flatten (runStages stages) where
  target memory _ member _ indexBound :=
    runStages_target memory safe member indexBound
  untouched _ _ untouched := runStages_untouched untouched

/-- Sequencing: the first program must spare what the second still reads. -/
theorem Performs.seq
    {early late : List Move}
    {first second : Memory → Memory}
    (performsFirst : Performs early first)
    (performsSecond : Performs late second)
    (apart : ∀ move ∈ early, ∀ other ∈ late, move.TargetsApart other)
    (spares : ∀ move ∈ early, ∀ other ∈ late, move.Spares other) :
    Performs (early ++ late) fun memory => second (first memory) where
  target memory move member index indexBound := by
    rcases mem_append.mp member with inEarly | inLate
    · rw [performsSecond.untouched]
      · exact performsFirst.target memory move inEarly index indexBound
      · exact untouched_of_targetsApart (apart move inEarly) indexBound
    · rw [performsSecond.target _ move inLate index indexBound]
      apply Move.byteAt_congr
      intro offset offsetBound
      apply performsFirst.untouched
      intro earlier earlierMember
      rcases spares earlier earlierMember move inLate with
        empty | before | after <;> omega
  untouched memory location untouched := by
    rw [performsSecond.untouched _ _ fun move member =>
      untouched move (List.mem_append_right early member)]
    exact performsFirst.untouched _ _ fun move member =>
      untouched move (List.mem_append_left late member)

/-- Holding a group of fields back: it is read first and written last, so the
program in between may overwrite its sources. -/
theorem Performs.deferring
    {stage moves : List Move}
    (performs : Performs moves program)
    (stageApart : stage.Pairwise Move.TargetsApart)
    (apart : ∀ move ∈ stage, ∀ other ∈ moves, move.TargetsApart other) :
    Performs (stage ++ moves) fun memory =>
      stage.foldl (fun current move => move.writeFrom memory current)
        (program memory) where
  target memory move member index indexBound := by
    rcases mem_append.mp member with held | inProgram
    · exact foldl_writeFrom_target stageApart held indexBound
    · rw [foldl_writeFrom_untouched]
      · exact performs.target memory move inProgram index indexBound
      · intro heldMove heldMember
        rcases apart heldMove heldMember move inProgram with
          before | after <;> omega
  untouched memory location untouched := by
    rw [foldl_writeFrom_untouched fun move member =>
      untouched move (List.mem_append_left moves member)]
    exact performs.untouched _ _ fun move member =>
      untouched move (List.mem_append_right stage member)

/-- A loop that counts its index down to zero. -/
def countdown (body : Nat → Memory → Memory) : Nat → Memory → Memory
  | 0, memory => memory
  | index + 1, memory => countdown body index (body index memory)

/-- A loop that counts down performs the moves of all its rounds when every
round spares what the rounds below it still read. -/
theorem performs_countdown
    {body : Nat → Memory → Memory}
    {moves : Nat → List Move}
    {count : Nat}
    (round : ∀ index < count, Performs (moves index) (body index))
    (apart : ∀ low high, low < high → high < count →
      ∀ move ∈ moves high, ∀ other ∈ moves low, move.TargetsApart other)
    (spares : ∀ low high, low < high → high < count →
      ∀ move ∈ moves high, ∀ other ∈ moves low, move.Spares other) :
    Performs ((List.range count).flatMap moves) (countdown body count) := by
  induction count with
  | zero => exact performs_nil
  | succ count ih =>
    have below := ih (fun index bound => round index (by omega))
      (fun low high order bound => apart low high order (by omega))
      (fun low high order bound => spares low high order (by omega))
    have both := (round count (by omega)).seq below
      (fun move member other otherMember => by
        obtain ⟨low, lowBound, inLow⟩ := List.mem_flatMap.mp otherMember
        exact apart low count (List.mem_range.mp lowBound) (by omega)
          move member other inLow)
      (fun move member other otherMember => by
        obtain ⟨low, lowBound, inLow⟩ := List.mem_flatMap.mp otherMember
        exact spares low count (List.mem_range.mp lowBound) (by omega)
          move member other inLow)
    refine both.congr fun move => ?_
    simp only [List.range_succ, List.flatMap_append, mem_append,
      List.flatMap_cons, List.flatMap_nil, List.append_nil]
    exact or_comm

/-- The moves and the order-free specification determine a program. -/
theorem Performs.unique
    {moves : List Move}
    {other : Memory → Memory}
    (performs : Performs moves program)
    (otherPerforms : Performs moves other)
    (memory : Memory) :
    program memory = other memory := by
  funext location
  by_cases untouched : Untouched moves location
  · rw [performs.untouched memory location untouched,
      otherPerforms.untouched memory location untouched]
  · simp only [Untouched, not_forall, not_or, Nat.not_lt, Nat.not_le,
      exists_prop] at untouched
    obtain ⟨move, member, lower, upper⟩ := untouched
    have inside : location - move.target < move.targetWidth := by omega
    have left := performs.target memory move member _ inside
    have right := otherPerforms.target memory move member _ inside
    rw [show move.target + (location - move.target) = location by omega]
      at left right
    rw [left, right]

/-- Moves carried out from the last to the first, when each spares the ones
before it in the list. -/
theorem performs_foldr_apply
    {moves : List Move}
    (apart : moves.Pairwise fun low high => high.TargetsApart low)
    (spares : moves.Pairwise fun low high => high.Spares low) :
    Performs moves fun memory => moves.foldr Move.apply memory := by
  induction moves with
  | nil => exact performs_nil
  | cons move rest ih =>
    rw [pairwise_cons] at apart spares
    have both := (ih apart.2 spares.2).seq (performs_apply move)
      (fun high member other otherMember => by
        rw [mem_singleton.mp otherMember]
        exact apart.1 high member)
      (fun high member other otherMember => by
        rw [mem_singleton.mp otherMember]
        exact spares.1 high member)
    refine both.congr fun other => ?_
    rw [mem_append, mem_cons, mem_singleton]
    exact or_comm

variable {relocation : Relocation} {field : Move}

/-- A safe relocation performs its moves. -/
theorem Relocation.performs
    (safe : relocation.Safe) :
    Performs relocation.moves relocation.run where
  target memory _ member _ indexBound :=
    run_target memory safe member indexBound
  untouched _ _ untouched := run_untouched untouched

/-! ## Fields covered by moves -/

namespace Move

/-- `move` performs byte `index` of the wanted `field` move. -/
def CarriesByte (move field : Move) (index : Nat) : Prop :=
  move.target ≤ field.target + index ∧
    field.target + index < move.target + move.targetWidth ∧
    (index < field.sourceWidth →
      field.target + index - move.target < move.sourceWidth ∧
        move.source + (field.target + index - move.target) =
          field.source + index) ∧
    (field.sourceWidth ≤ index →
      move.sourceWidth ≤ field.target + index - move.target)

instance (move field : Move) (index : Nat) :
    Decidable (move.CarriesByte field index) :=
  inferInstanceAs (Decidable (_ ∧ _ ∧ (_ → _) ∧ (_ → _)))

/-- A field is covered when it is one of the moves, or every one of its bytes
is carried by some move. -/
def CoveredBy (field : Move) (moves : List Move) : Prop :=
  field ∈ moves ∨
    ∀ index < field.targetWidth, ∃ move ∈ moves, move.CarriesByte field index

instance (field : Move) (moves : List Move) :
    Decidable (field.CoveredBy moves) :=
  inferInstanceAs (Decidable (_ ∨ _))

/-- A field that has the same place in both layouts and that no move
touches. -/
def KeptBy (field : Move) (moves : List Move) : Prop :=
  field.source = field.target ∧ field.sourceWidth = field.targetWidth ∧
    ∀ move ∈ moves, move.TargetsApart field

instance (field : Move) (moves : List Move) :
    Decidable (field.KeptBy moves) := by
  unfold KeptBy TargetsApart
  infer_instance

end Move

section

variable {moves : List Move} (performs : Performs moves program)
  (memory : Memory)
include performs

/-- A program performs every field that its moves cover. -/
theorem Performs.readLE_field
    (covered : field.CoveredBy moves) :
    readLE (program memory) field.targetWidth field.target =
      readLE memory field.sourceWidth field.source %
        256 ^ field.targetWidth := by
  apply readLE_of_byteAt
  intro index indexBound
  rcases covered with member | bytewise
  · exact performs.target memory field member index indexBound
  · obtain ⟨move, member, lower, upper, copied, cleared⟩ :=
      bytewise index indexBound
    have moved := performs.target memory move member
      (field.target + index - move.target) (by omega)
    rw [show move.target + (field.target + index - move.target) =
      field.target + index by omega] at moved
    rw [moved, Move.byteAt, Move.byteAt]
    by_cases covers : index < field.sourceWidth
    · rw [if_pos covers, if_pos (copied covers).1, (copied covers).2]
    · have beyond := cleared (by omega)
      rw [if_neg covers, if_neg (by omega)]

/-- A program leaves a kept field as it was. -/
theorem Performs.readLE_kept
    (kept : field.KeptBy moves) :
    readLE (program memory) field.targetWidth field.target =
      readLE memory field.sourceWidth field.source %
        256 ^ field.targetWidth := by
  obtain ⟨samePlace, sameWidth, apart⟩ := kept
  rw [samePlace, sameWidth,
    Nat.mod_eq_of_lt (readLE_lt memory field.targetWidth field.target)]
  apply readLE_congr
  intro index indexBound
  apply performs.untouched
  intro move member
  rcases apart move member with before | after <;> omega

end

/-! ## Stages that only move downwards

The linear test below is sufficient for safety: the targets ascend, and no
field is read below the end of what has already been written. -/

/-- The targets of a stage ascend from `frontier` on. -/
def targetsAscend (frontier : Nat) : Stage → Bool
  | [] => true
  | move :: rest =>
    decide (frontier ≤ move.target) &&
      targetsAscend (move.target + move.targetWidth) rest

/-- End of the last target of an ascending stage. -/
def targetsEnd (frontier : Nat) : Stage → Nat
  | [] => frontier
  | move :: rest => targetsEnd (move.target + move.targetWidth) rest

/-- Every stage writes above `frontier`, the end of the earlier targets, and
reads above it. -/
def movesDown (frontier : Nat) : List Stage → Bool
  | [] => true
  | stage :: rest =>
    (stage.all fun move =>
      decide (move.sourceWidth = 0 ∨ frontier ≤ move.source)) &&
      targetsAscend frontier stage &&
      movesDown (targetsEnd frontier stage) rest

theorem targetsAscend_spec
    (ascend : targetsAscend frontier stage = true) :
    stage.Pairwise Move.TargetsApart ∧
      frontier ≤ targetsEnd frontier stage ∧
      ∀ move ∈ stage, frontier ≤ move.target ∧
        move.target + move.targetWidth ≤ targetsEnd frontier stage := by
  induction stage generalizing frontier with
  | nil => simp [targetsEnd]
  | cons move rest ih =>
    simp only [targetsAscend, Bool.and_eq_true, decide_eq_true_eq] at ascend
    obtain ⟨restApart, restEnd, restBounds⟩ := ih ascend.2
    rw [pairwise_cons, targetsEnd]
    refine ⟨⟨?_, restApart⟩, by omega, ?_⟩
    · intro other member
      exact Or.inl (restBounds other member).1
    · intro other member
      rcases mem_cons.mp member with rfl | inRest
      · exact ⟨ascend.1, restEnd⟩
      · have bounds := restBounds other inRest
        exact ⟨by omega, bounds.2⟩

theorem movesDown_spec
    (down : movesDown frontier stages = true) :
    Safe stages ∧
      ∀ move ∈ stages.flatten, frontier ≤ move.target ∧
        (move.sourceWidth = 0 ∨ frontier ≤ move.source) := by
  induction stages generalizing frontier with
  | nil => exact ⟨⟨List.Pairwise.nil, List.Pairwise.nil⟩, by simp⟩
  | cons stage rest ih =>
    simp only [movesDown, Bool.and_eq_true, List.all_eq_true,
      decide_eq_true_eq] at down
    obtain ⟨⟨sources, ascend⟩, restDown⟩ := down
    obtain ⟨restSafe, restBounds⟩ := ih restDown
    obtain ⟨stageApart, endBound, stageBounds⟩ := targetsAscend_spec ascend
    refine ⟨⟨?_, ?_⟩, ?_⟩
    · rw [flatten_cons, pairwise_append]
      refine ⟨stageApart, restSafe.targetsApart, ?_⟩
      intro move member other otherMember
      have ends := (stageBounds move member).2
      have starts := (restBounds other otherMember).1
      exact Or.inl (by omega)
    · rw [pairwise_cons]
      refine ⟨?_, restSafe.sparesLater⟩
      intro late lateMember earlier earlierMember later laterMember
      have ends := (stageBounds earlier earlierMember).2
      have inRest : later ∈ rest.flatten :=
        List.mem_flatten.mpr ⟨late, lateMember, laterMember⟩
      rcases (restBounds later inRest).2 with empty | above
      · exact Or.inl empty
      · exact Or.inr (Or.inl (by omega))
    · intro move member
      rw [flatten_cons, mem_append] at member
      rcases member with inStage | inRest
      · exact ⟨(stageBounds move inStage).1, sources move inStage⟩
      · have bounds := restBounds move inRest
        exact ⟨by omega, bounds.2.imp id (by omega)⟩

/-- Moving downwards is safe. -/
theorem Relocation.safe_of_movesDown
    (down : movesDown 0
      (relocation.deferred :: relocation.stages) = true) :
    relocation.Safe :=
  (movesDown_spec down).1

end ByteMemory
