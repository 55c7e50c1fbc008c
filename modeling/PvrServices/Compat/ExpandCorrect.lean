import PvrServices.Compat.ExpandIn

/-!
# Correctness of the IN expansions

The descriptor walks perform one move for every element, and the moves form a
ladder: what lies higher is written above everything that lower elements have
still to read.  The declared structures are compared with the walks and with
the layout strings leaf by leaf.
-/

namespace PvrServices.Compat

open ByteMemory CLayout
open List (mem_append mem_cons mem_flatMap mem_range mem_singleton
  pairwise_flatMap pairwise_singleton)
open FieldKind (stride32 stride64)

/-! ## Moves of a descriptor walk -/

/-- `high` is written above the target and above the source of `low`. -/
def Below (low high : Move) : Prop :=
  low.target + low.targetWidth ≤ high.target ∧
    low.source + low.sourceWidth ≤ high.target

variable {low high move : Move} {runs : List PlacedRun}

theorem Below.targetsApart
    (below : Below low high) :
    high.TargetsApart low :=
  Or.inr below.1

theorem Below.spares
    (below : Below low high) :
    high.Spares low :=
  Or.inr (Or.inr below.2)

/-- The moves one element stands for, in ascending order. -/
def elementMoves (kind : FieldKind) (s d : Nat) : List Move :=
  match kind with
  | .u => [scalarMove s d]
  | .h => [widenMove s d]
  | .b => [byteMove s d 0]
  | .s => ((List.range 8).flatMap fun index => [byteMove s d index]) ++
      [widenMove (s + 8) (d + 8)]

/-- The moves of one run. -/
def PlacedRun.moves (run : PlacedRun) : List Move :=
  (List.range run.cnt).flatMap fun j =>
    elementMoves run.kind (run.src + j * run.kind.stride32)
      (run.dst + j * run.kind.stride64)

/-- The moves of a whole descriptor; they are carried out from the last to
the first. -/
def expandedMoves (aFields : List FieldRun) : List Move :=
  (placeRuns 0 0 aFields).flatMap PlacedRun.moves

/-- End of a run in the packed structure. -/
def PlacedRun.srcEnd (run : PlacedRun) : Nat :=
  run.src + run.cnt * run.kind.stride32

/-- End of a run in the kernel structure. -/
def PlacedRun.dstEnd (run : PlacedRun) : Nat :=
  run.dst + run.cnt * run.kind.stride64

theorem stride32_le_stride64 (kind : FieldKind) :
    kind.stride32 ≤ kind.stride64 := by
  cases kind <;> simp [stride32, stride64]

/-! ## One element -/

variable {s d : Nat} {run : PlacedRun} {field : Move}

/-- The moves of an element stay inside the element in both layouts. -/
theorem elementMoves_inside
    {kind : FieldKind}
    (member : move ∈ elementMoves kind s d) :
    s ≤ move.source ∧ move.source + move.sourceWidth ≤ s + kind.stride32 ∧
      d ≤ move.target ∧
        move.target + move.targetWidth ≤ d + kind.stride64 := by
  cases kind with
  | u =>
    rw [mem_singleton.mp member]
    simp [scalarMove, stride32, stride64]
  | h =>
    rw [mem_singleton.mp member]
    simp [widenMove, stride32, stride64]
  | b =>
    rw [mem_singleton.mp member]
    simp [byteMove, stride32, stride64]
  | s =>
    simp only [elementMoves, mem_append, mem_cons,
      mem_flatMap, mem_range, List.not_mem_nil,
      or_false] at member
    rcases member with ⟨index, indexBound, rfl⟩ | rfl
    · simp only [byteMove, stride32, stride64]
      omega
    · simp [widenMove, stride32, stride64]

theorem blockMoves_below
    (upwards : s ≤ d)
    (count : Nat) :
    ((List.range count).flatMap fun index =>
      [byteMove s d index]).Pairwise Below := by
  rw [pairwise_flatMap]
  refine ⟨fun index _ => pairwise_singleton _ _, ?_⟩
  refine List.pairwise_lt_range.imp fun {low high} order => ?_
  intro move member other otherMember
  rw [mem_singleton.mp member, mem_singleton.mp otherMember]
  constructor <;> simp only [byteMove] <;> omega

/-- Within an element the moves form a ladder. -/
theorem elementMoves_below
    (kind : FieldKind)
    (upwards : s ≤ d) :
    (elementMoves kind s d).Pairwise Below := by
  cases kind with
  | u | h | b => exact pairwise_singleton _ _
  | s =>
    rw [elementMoves, List.pairwise_append]
    refine ⟨blockMoves_below upwards 8, pairwise_singleton _ _, ?_⟩
    intro move member other otherMember
    obtain ⟨index, indexBound, inBlock⟩ := mem_flatMap.mp member
    rw [mem_range] at indexBound
    rw [mem_singleton.mp inBlock, mem_singleton.mp otherMember]
    constructor <;> simp only [byteMove, widenMove] <;> omega

/-- A loop that counts down over a ladder of moves performs them. -/
theorem performs_countdown_of_below
    {body : Nat → Memory → Memory}
    {moves : Nat → List Move}
    {count : Nat}
    (round : ∀ index < count, Performs (moves index) (body index))
    (ladder : ((List.range count).flatMap moves).Pairwise Below) :
    Performs ((List.range count).flatMap moves) (countdown body count) := by
  have across : ∀ low high, low < high → high < count →
      ∀ move ∈ moves high, ∀ other ∈ moves low, Below other move := by
    intro low high order bound move member other otherMember
    have pairs := (pairwise_flatMap.mp ladder).2
    rw [List.pairwise_iff_getElem] at pairs
    have pair := pairs low high (by simp; omega) (by simpa using bound) order
    simp only [List.getElem_range] at pair
    exact pair other otherMember move member
  apply performs_countdown round
  · intro low high order bound move member other otherMember
    exact (across low high order bound move member other
      otherMember).targetsApart
  · intro low high order bound move member other otherMember
    exact (across low high order bound move member other otherMember).spares

/-- Copying a block upwards from its last byte performs its byte moves. -/
theorem performs_blockCopy
    (upwards : s ≤ d)
    (count : Nat) :
    Performs ((List.range count).flatMap fun index => [byteMove s d index])
      (countdown (fun index => (byteMove s d index).apply) count) :=
  performs_countdown_of_below (fun _ _ => performs_apply _)
    (blockMoves_below upwards count)

/-- The body of the element loop performs the moves of the element. -/
theorem performs_expandElement
    (kind : FieldKind)
    (upwards : s ≤ d) :
    Performs (elementMoves kind s d) (expandElement kind s d) := by
  cases kind with
  | u | h | b => exact performs_apply _
  | s =>
    have ladder := elementMoves_below .s upwards
    rw [elementMoves, List.pairwise_append] at ladder
    have held := (performs_blockCopy upwards 8).deferring
      (pairwise_singleton Move.TargetsApart (widenMove (s + 8) (d + 8)))
      (fun move member other otherMember =>
        (ladder.2.2 other otherMember move member).targetsApart)
    refine held.congr fun move => ?_
    rw [elementMoves, mem_append, mem_append]
    exact or_comm

/-! ## One run -/

theorem stride_step
    {low high : Nat}
    (order : low < high)
    (stride : Nat) :
    low * stride + stride ≤ high * stride := by
  calc
    low * stride + stride = (low + 1) * stride := by ring
    _ ≤ high * stride := Nat.mul_le_mul_right stride order

theorem PlacedRun.srcEnd_le_dstEnd
    (upwards : run.src ≤ run.dst) :
    run.srcEnd ≤ run.dstEnd :=
  Nat.add_le_add upwards
    (Nat.mul_le_mul_left run.cnt (stride32_le_stride64 run.kind))

/-- The moves of a run stay inside the run in both layouts. -/
theorem PlacedRun.moves_inside
    (member : move ∈ run.moves) :
    move.source + move.sourceWidth ≤ run.srcEnd ∧
      run.dst ≤ move.target ∧
        move.target + move.targetWidth ≤ run.dstEnd := by
  obtain ⟨j, jBound, inElement⟩ := mem_flatMap.mp member
  have inside := elementMoves_inside inElement
  have order := mem_range.mp jBound
  have sources := stride_step order run.kind.stride32
  have targets := stride_step order run.kind.stride64
  unfold PlacedRun.srcEnd PlacedRun.dstEnd
  omega

theorem PlacedRun.element_upwards
    (upwards : run.src ≤ run.dst)
    (j : Nat) :
    run.src + j * run.kind.stride32 ≤ run.dst + j * run.kind.stride64 :=
  Nat.add_le_add upwards
    (Nat.mul_le_mul_left j (stride32_le_stride64 run.kind))

/-- Within a run the moves form a ladder. -/
theorem PlacedRun.moves_below
    (upwards : run.src ≤ run.dst) :
    run.moves.Pairwise Below := by
  rw [PlacedRun.moves, pairwise_flatMap]
  refine ⟨fun j _ => elementMoves_below _ (run.element_upwards upwards j), ?_⟩
  refine List.pairwise_lt_range.imp fun {low high} order => ?_
  intro move member other otherMember
  have lowInside := elementMoves_inside member
  have highInside := elementMoves_inside otherMember
  have targets := stride_step order run.kind.stride64
  have lowUpwards := run.element_upwards upwards low
  have strides := stride32_le_stride64 run.kind
  constructor <;> omega

/-- One run performs its moves. -/
theorem performs_expandRun
    (upwards : run.src ≤ run.dst) :
    Performs run.moves (expandRun run) :=
  performs_countdown_of_below
    (fun j _ => performs_expandElement _ (run.element_upwards upwards j))
    (run.moves_below upwards)

/-! ## The whole walk -/

/-- Runs are placed one above the other, each with its kernel place above its
packed place. -/
theorem placeRuns_spec
    {so ko : Nat}
    (upwards : so ≤ ko)
    (aFields : List FieldRun) :
    (∀ run ∈ placeRuns so ko aFields, run.src ≤ run.dst ∧ ko ≤ run.dst) ∧
      (placeRuns so ko aFields).Pairwise fun low high =>
        low.dstEnd ≤ high.dst := by
  induction aFields generalizing so ko with
  | nil => exact ⟨by simp [placeRuns], List.Pairwise.nil⟩
  | cons run rest ih =>
    have aligned : ko ≤ if run.kind.aligns then alignUp ko 8 else ko := by
      have bound := le_alignUp_eight ko
      split_ifs <;> omega
    have strides := Nat.mul_le_mul_left run.cnt (stride32_le_stride64 run.kind)
    obtain ⟨bounds, order⟩ := @ih (so + run.cnt * run.kind.stride32)
      ((if run.kind.aligns then alignUp ko 8 else ko) +
        run.cnt * run.kind.stride64)
      (by omega)
    rw [placeRuns]
    constructor
    · intro placed member
      rcases mem_cons.mp member with rfl | inRest
      · exact ⟨by simp only; omega, aligned⟩
      · have bound := bounds placed inRest
        exact ⟨bound.1, by omega⟩
    · exact List.pairwise_cons.mpr
        ⟨fun placed member => (bounds placed member).2, order⟩

/-- The moves of placed runs form a ladder. -/
theorem runs_below
    (upwards : ∀ run ∈ runs, run.src ≤ run.dst)
    (order : runs.Pairwise fun low high => low.dstEnd ≤ high.dst) :
    (runs.flatMap PlacedRun.moves).Pairwise Below := by
  rw [pairwise_flatMap]
  refine ⟨fun run member => run.moves_below (upwards run member), ?_⟩
  refine order.imp_of_mem fun {low high} lowMember _ ends => ?_
  intro move member other otherMember
  have lowInside := PlacedRun.moves_inside member
  have highInside := PlacedRun.moves_inside otherMember
  have lowEnds := PlacedRun.srcEnd_le_dstEnd (upwards low lowMember)
  constructor <;> omega

/-- Runs carried out from the last to the first perform all their moves. -/
theorem performs_expandRuns
    (upwards : ∀ run ∈ runs, run.src ≤ run.dst)
    (order : runs.Pairwise fun low high => low.dstEnd ≤ high.dst) :
    Performs (runs.flatMap PlacedRun.moves) (expandRuns runs) := by
  induction runs with
  | nil => exact performs_nil
  | cons run rest ih =>
    have ladder := runs_below upwards order
    rw [List.flatMap_cons, List.pairwise_append] at ladder
    have rest := ih
      (fun other member => upwards other (List.mem_cons_of_mem _ member))
      (List.pairwise_cons.mp order).2
    have both := rest.seq
      (performs_expandRun (upwards run List.mem_cons_self))
      (fun move member other otherMember =>
        (ladder.2.2 other otherMember move member).targetsApart)
      (fun move member other otherMember =>
        (ladder.2.2 other otherMember move member).spares)
    refine both.congr fun move => ?_
    rw [List.flatMap_cons, mem_append, mem_append]
    exact or_comm

theorem expandedMoves_below (aFields : List FieldRun) :
    (expandedMoves aFields).Pairwise Below :=
  runs_below (fun run member => ((placeRuns_spec le_rfl aFields).1 run
    member).1) (placeRuns_spec le_rfl aFields).2

/-- Every descriptor walk performs its moves. -/
theorem performs_expandFields (aFields : List FieldRun) :
    Performs (expandedMoves aFields) (expandFields aFields) :=
  performs_expandRuns (fun run member =>
    ((placeRuns_spec le_rfl aFields).1 run member).1)
    (placeRuns_spec le_rfl aFields).2

/-! ## Fields of the declared structures -/

/-- The moves that take every field of a structure from the packed layout to
the same field of the kernel layout. -/
def expandedFields (type : CType) : List Move :=
  (type.fieldPairs i686 x86_64).map fieldMove

/-- The fields a run stands for; an opaque block is a block of 32-bit
words. -/
def PlacedRun.wordFields (run : PlacedRun) : List Move :=
  match run.kind with
  | .u => run.moves
  | .h => run.moves
  | .b => (List.range (run.cnt / 4)).map fun k =>
    scalarMove (run.src + 4 * k) (run.dst + 4 * k)
  | .s => (List.range run.cnt).flatMap fun j =>
    [scalarMove (run.src + j * 12) (run.dst + j * 16),
      scalarMove (run.src + j * 12 + 4) (run.dst + j * 16 + 4),
      widenMove (run.src + j * 12 + 8) (run.dst + j * 16 + 8)]

variable {moves : List Move}

theorem Move.CoveredBy.mono
    {others : List Move}
    (covered : field.CoveredBy moves)
    (subset : moves ⊆ others) :
    field.CoveredBy others := by
  rcases covered with member | bytewise
  · exact Or.inl (subset member)
  · refine Or.inr fun index indexBound => ?_
    obtain ⟨move, member, carries⟩ := bytewise index indexBound
    exact ⟨move, subset member, carries⟩

/-- A word is covered by the four byte moves that start at its offset in a
block copy. -/
theorem scalarMove_coveredBy_bytes
    {s d offset : Nat}
    {moves : List Move}
    (bytes : ∀ index < 4, byteMove s d (offset + index) ∈ moves) :
    (scalarMove (s + offset) (d + offset)).CoveredBy moves := by
  refine Or.inr fun index indexBound => ?_
  simp only [scalarMove] at indexBound
  refine ⟨_, bytes index indexBound, ?_⟩
  simp only [Move.CarriesByte, byteMove, scalarMove]
  omega

theorem PlacedRun.wordFields_covered
    (member : field ∈ run.wordFields) :
    field.CoveredBy run.moves := by
  obtain ⟨kind, cnt, src, dst⟩ := run
  cases kind with
  | u => exact Or.inl member
  | h => exact Or.inl member
  | b =>
    obtain ⟨k, kBound, rfl⟩ := List.mem_map.mp member
    simp only [mem_range] at kBound
    apply scalarMove_coveredBy_bytes
    intro index indexBound
    apply mem_flatMap.mpr
    refine ⟨4 * k + index, mem_range.mpr (by simp only; omega), ?_⟩
    simp [elementMoves, byteMove, stride32, stride64]
  | s =>
    obtain ⟨j, jBound, inElement⟩ := mem_flatMap.mp member
    have subset : elementMoves .s (src + j * 12) (dst + j * 16) ⊆
        PlacedRun.moves { kind := .s, cnt, src, dst } := by
      intro move inMoves
      exact mem_flatMap.mpr ⟨j, jBound, inMoves⟩
    refine Move.CoveredBy.mono ?_ subset
    simp only [mem_cons, List.not_mem_nil, or_false] at inElement
    rcases inElement with rfl | rfl | rfl
    · refine @scalarMove_coveredBy_bytes _ _ 0 _ fun index bound => ?_
      simp only [elementMoves, mem_append, mem_flatMap]
      exact Or.inl ⟨index, mem_range.mpr (by omega), by simp⟩
    · refine scalarMove_coveredBy_bytes fun index bound => ?_
      simp only [elementMoves, mem_append, mem_flatMap]
      exact Or.inl ⟨4 + index, mem_range.mpr (by omega), by simp⟩
    · exact Or.inl (by simp [elementMoves])

/-- What an in-place expansion of a structure has to achieve. -/
structure ExpandsInPlace
    (type : CType)
    (moves : List Move)
    (expand : Memory → Memory) : Prop where
  /-- The expansion is the run of the moves from the last to the first. -/
  lastToFirst : ∀ memory, expand memory = moves.foldr Move.apply memory
  /-- No move writes over packed bytes that a lower move has still to read. -/
  sparesUnread : moves.Pairwise fun low high => high.Spares low
  /-- No move writes outside the kernel structure. -/
  writesInside : ∀ move ∈ moves,
    move.target + move.targetWidth ≤ type.sizeOf x86_64
  /-- Bytes that no move writes keep their content. -/
  untouched : ∀ memory location, Untouched moves location →
    expand memory location = memory location
  /-- Every field of the kernel structure has the value of the packed one. -/
  fields : ∀ memory, ∀ field ∈ expandedFields type,
    readLE (expand memory) field.targetWidth field.target =
      readLE memory field.sourceWidth field.source

/-- A field read back after a move that does not narrow it. -/
theorem readLE_widened
    {program : Memory → Memory}
    (performs : Performs moves program)
    (memory : Memory)
    (covered : field.CoveredBy moves)
    (widens : field.sourceWidth ≤ field.targetWidth) :
    readLE (program memory) field.targetWidth field.target =
      readLE memory field.sourceWidth field.source := by
  rw [performs.readLE_field memory covered]
  apply Nat.mod_eq_of_lt
  exact lt_of_lt_of_le (readLE_lt memory _ _)
    (Nat.pow_le_pow_right (by omega) widens)

/-- A descriptor whose words are the fields of a structure expands it. -/
theorem expandsInPlace_of_fields
    {type : CType}
    {aFields : List FieldRun}
    (same : expandedFields type =
      (placeRuns 0 0 aFields).flatMap PlacedRun.wordFields)
    (widens : ∀ field ∈ expandedFields type,
      field.sourceWidth ≤ field.targetWidth)
    (inside : ∀ run ∈ placeRuns 0 0 aFields, run.dstEnd ≤ type.sizeOf x86_64) :
    ExpandsInPlace type (expandedMoves aFields) (expandFields aFields) where
  lastToFirst :=
    (performs_expandFields aFields).unique
      (performs_foldr_apply
        ((expandedMoves_below aFields).imp fun below => below.targetsApart)
        ((expandedMoves_below aFields).imp fun below => below.spares))
  sparesUnread := (expandedMoves_below aFields).imp fun below => below.spares
  writesInside move member := by
    obtain ⟨run, runMember, inRun⟩ := mem_flatMap.mp member
    exact le_trans (PlacedRun.moves_inside inRun).2.2 (inside run runMember)
  untouched memory location untouched :=
    (performs_expandFields aFields).untouched memory location untouched
  fields memory field member := by
    apply readLE_widened (performs_expandFields aFields) memory ?_
      (widens field member)
    rw [same] at member
    obtain ⟨run, runMember, inRun⟩ := mem_flatMap.mp member
    exact Move.CoveredBy.mono (PlacedRun.wordFields_covered inRun)
      fun move inMoves => mem_flatMap.mpr ⟨run, runMember, inMoves⟩

/-! ## The three large structures -/

theorem devInitPart2_fields :
    expandedFields bridgeInSgxDevInitPart2 =
      (placeRuns 0 0 devInitPart2Fields).flatMap PlacedRun.wordFields := by
  decide +kernel

theorem doKick_fields :
    expandedFields bridgeInDoKick =
      (placeRuns 0 0 doKickFields).flatMap PlacedRun.wordFields := by
  decide +kernel

theorem submitTransfer_fields :
    expandedFields bridgeInSubmitTransfer =
      (placeRuns 0 0 submitTransferFields).flatMap PlacedRun.wordFields := by
  decide +kernel

/-- The three hand-written expansions widen their structures in place, for
every content of the buffer. -/
theorem pvrCompatExpand_inPlace :
    (bridgeInSgxDevInitPart2.sizeOf i686 = 2068 ∧
      bridgeInSgxDevInitPart2.sizeOf x86_64 = 2192 ∧
      ExpandsInPlace bridgeInSgxDevInitPart2
        (expandedMoves devInitPart2Fields) pvrCompatExpandDevInitPart2) ∧
    (bridgeInDoKick.sizeOf i686 = 564 ∧
      bridgeInDoKick.sizeOf x86_64 = 784 ∧
      ExpandsInPlace bridgeInDoKick
        (expandedMoves doKickFields) pvrCompatExpandDoKick) ∧
    (bridgeInSubmitTransfer.sizeOf i686 = 88 ∧
      bridgeInSubmitTransfer.sizeOf x86_64 = 160 ∧
      ExpandsInPlace bridgeInSubmitTransfer
        (expandedMoves submitTransferFields)
        pvrCompatExpandSubmitTransfer) := by
  refine ⟨⟨by decide +kernel, by decide +kernel, ?_⟩,
    ⟨by decide +kernel, by decide +kernel, ?_⟩,
    ⟨by decide +kernel, by decide +kernel, ?_⟩⟩
  · exact expandsInPlace_of_fields devInitPart2_fields
      (by decide +kernel) (by decide +kernel)
  · exact expandsInPlace_of_fields doKick_fields
      (by decide +kernel) (by decide +kernel)
  · exact expandsInPlace_of_fields submitTransfer_fields
      (by decide +kernel) (by decide +kernel)

end PvrServices.Compat
