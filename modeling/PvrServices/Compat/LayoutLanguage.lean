import PvrServices.Compat.Layout

/-!
# The layout language

A layout string is a sequence of letters, each with an optional repeat count.
It describes a run of words, and `PVRCompatLayoutFields` places the words of
any such string, up to the size of its scratch arrays, as the two ABIs lay out
the structure of these words.  Repacking forth and back restores the words.
-/

namespace PvrServices.Compat

open ByteMemory CLayout
open CFields (alignOf endOf leaves)

/-! ## Strings and their words -/

/-- A decimal digit. -/
def IsDigit (letter : Char) : Prop :=
  '0' ≤ letter ∧ letter ≤ '9'

/-- The decimal number that goes on with the digits. -/
def decimalFrom (ui32Rep : Nat) (digits : List Char) : Nat :=
  digits.foldl (fun value digit => value * 10 + (digit.toNat - '0'.toNat))
    ui32Rep

/-- The words a well-formed layout string describes, `true` for a handle. -/
inductive Describes : List Char → List Bool → Prop where
  | nil : Describes [] []
  | letter
      {bHandle : Bool} {rest : List Char} {words : List Bool}
      (others : Describes rest words) :
      Describes ((if bHandle then 'h' else 'u') :: rest) (bHandle :: words)
  | repeated
      {digits : List Char} {bHandle : Bool} {rest : List Char}
      {words : List Bool}
      (digitsOnly : ∀ digit ∈ digits, IsDigit digit)
      (positive : 0 < decimalFrom 0 digits)
      (others : Describes rest words) :
      Describes (digits ++ (if bHandle then 'h' else 'u') :: rest)
        (List.replicate (decimalFrom 0 digits) bHandle ++ words)

/-- The C type of a word. -/
def wordType (bHandle : Bool) : CType :=
  if bHandle then .pointer else .scalar 4

/-- The members of the structure of the words. -/
def wordMembers : List Bool → CFields
  | [] => .nil
  | bHandle :: words => .cons "" (wordType bHandle) (wordMembers words)

/-- The structure of the words. -/
def wordStruct (words : List Bool) : CType :=
  .record (wordMembers words)

/-! ## The walk -/

theorem le_decimalFrom (ui32Rep : Nat) (digits : List Char) :
    ui32Rep ≤ decimalFrom ui32Rep digits := by
  induction digits generalizing ui32Rep with
  | nil => exact le_rfl
  | cons digit digits ih =>
    have step := ih (ui32Rep * 10 + (digit.toNat - '0'.toNat))
    rw [decimalFrom, List.foldl_cons]
    rw [decimalFrom] at step
    omega

variable {ui32Rep : Nat} {walk : LayoutWalk} {psz : List Char}
  {words : List Bool} {field : LayoutField}

/-- The digits of a small number are read as the number. -/
theorem LayoutWalk.run_digits
    (walk : LayoutWalk)
    {digits : List Char}
    (digitsOnly : ∀ digit ∈ digits, IsDigit digit)
    (small : decimalFrom ui32Rep digits < 2 ^ 32)
    (rest : List Char) :
    walk.run ui32Rep (digits ++ rest) =
      walk.run (decimalFrom ui32Rep digits) rest := by
  induction digits generalizing ui32Rep with
  | nil => rfl
  | cons digit digits ih =>
    have next := le_decimalFrom
      (ui32Rep * 10 + (digit.toNat - '0'.toNat)) digits
    rw [decimalFrom, List.foldl_cons] at small ⊢
    rw [decimalFrom] at next
    have isDigit : '0' ≤ digit ∧ digit ≤ '9' :=
      digitsOnly digit List.mem_cons_self
    rw [List.cons_append, LayoutWalk.run, if_pos isDigit,
      Nat.mod_eq_of_lt (Nat.lt_of_le_of_lt next small)]
    exact ih
      (fun other member => digitsOnly other (List.mem_cons_of_mem _ member))
      small

/-- A letter places its word as often as the count says. -/
theorem LayoutWalk.run_letter
    (walk : LayoutWalk)
    (ui32Rep : Nat)
    (bHandle : Bool)
    (rest : List Char) :
    walk.run ui32Rep ((if bHandle then 'h' else 'u') :: rest) =
      (walk.pushRepeated bHandle (if ui32Rep = 0 then 1 else ui32Rep)).run 0
        rest := by
  cases bHandle <;> rfl

/-- Place the words one after the other. -/
def LayoutWalk.pushAll (walk : LayoutWalk) (words : List Bool) : LayoutWalk :=
  words.foldl LayoutWalk.push walk

theorem LayoutWalk.length_push (walk : LayoutWalk) (bHandle : Bool) :
    (walk.push bHandle).fields.length = walk.fields.length + 1 := by
  simp [LayoutWalk.push]

theorem LayoutWalk.length_pushAll (walk : LayoutWalk) (words : List Bool) :
    (walk.pushAll words).fields.length =
      walk.fields.length + words.length := by
  induction words generalizing walk with
  | nil => rfl
  | cons bHandle words ih =>
    rw [LayoutWalk.pushAll, List.foldl_cons, ← LayoutWalk.pushAll,
      ih, LayoutWalk.length_push, List.length_cons]
    omega

theorem LayoutWalk.pushRepeated_eq
    {bHandle : Bool}
    (room : walk.fields.length + ui32Rep ≤ pvrCompatMaxWords) :
    walk.pushRepeated bHandle ui32Rep =
      walk.pushAll (List.replicate ui32Rep bHandle) := by
  induction ui32Rep generalizing walk with
  | zero => rfl
  | succ ui32Rep ih =>
    rw [LayoutWalk.pushRepeated, if_pos (by omega), List.replicate_succ,
      LayoutWalk.pushAll, List.foldl_cons, ← LayoutWalk.pushAll]
    apply ih
    rw [LayoutWalk.length_push]
    omega

/-- The walk over a well-formed string places its words. -/
theorem Describes.run_eq
    (describes : Describes psz words)
    (room : walk.fields.length + words.length ≤ pvrCompatMaxWords) :
    walk.run 0 psz = walk.pushAll words := by
  induction describes generalizing walk with
  | nil => rfl
  | @letter bHandle rest words _ ih =>
    rw [List.length_cons] at room
    rw [LayoutWalk.run_letter, if_pos rfl,
      LayoutWalk.pushRepeated_eq (by omega)]
    apply ih
    rw [LayoutWalk.length_pushAll, List.length_replicate]
    omega
  | @repeated digits bHandle rest words digitsOnly positive _
      ih =>
    rw [List.length_append, List.length_replicate] at room
    have maxWords : pvrCompatMaxWords = 160 := rfl
    rw [LayoutWalk.run_digits walk digitsOnly (by omega),
      LayoutWalk.run_letter, if_neg (by omega),
      LayoutWalk.pushRepeated_eq (by omega), LayoutWalk.pushAll,
      LayoutWalk.pushAll, List.foldl_append]
    apply ih
    rw [← LayoutWalk.pushAll, LayoutWalk.length_pushAll, List.length_replicate]
    omega

/-- The walk over a well-formed string that fits the scratch arrays. -/
theorem Describes.fields_eq
    (describes : Describes psz words)
    (fits : words.length ≤ pvrCompatMaxWords) :
    pvrCompatLayoutFields psz =
      LayoutWalk.pushAll { fields := [], o32 := 0, o64 := 0, ui32Align := 4 }
        words := by
  apply describes.run_eq
  simpa using fits

/-! ## Placement by the ABIs -/

/-- The place of a word in the structure of a 32-bit caller. -/
def LayoutField.leaf32 (field : LayoutField) : Leaf where
  offset := field.off32
  size := 4

/-- The place of a word in the kernel structure. -/
def LayoutField.leaf64 (field : LayoutField) : Leaf where
  offset := field.off64
  size := field.width64

theorem alignUp_of_mod
    {offset alignment : Nat}
    (positive : 0 < alignment)
    (aligned : offset % alignment = 0) :
    alignUp offset alignment = offset := by
  obtain ⟨count, rfl⟩ := Nat.dvd_of_mod_eq_zero aligned
  unfold alignUp
  rw [Nat.add_sub_assoc positive, Nat.mul_add_div positive,
    Nat.div_eq_of_lt (Nat.sub_one_lt (Nat.ne_of_gt positive)), Nat.add_zero,
    Nat.mul_comm]

/-- The running offsets are those of words. -/
structure LayoutWalk.Aligned (walk : LayoutWalk) : Prop where
  o32 : walk.o32 % 4 = 0
  o64 : walk.o64 % 4 = 0

theorem LayoutWalk.Aligned.push
    (aligned : walk.Aligned)
    (bHandle : Bool) :
    (walk.push bHandle).Aligned := by
  have small := aligned.o32
  have wide := aligned.o64
  constructor
  · simp only [LayoutWalk.push]
    omega
  · cases bHandle
    · simp only [LayoutWalk.push, Bool.false_eq_true, if_false]
      omega
    · simp only [LayoutWalk.push, if_true, alignUp]
      omega

/-- Placing words follows the layout rules of both ABIs. -/
theorem LayoutWalk.Aligned.pushAll
    (aligned : walk.Aligned)
    (words : List Bool) :
    (walk.pushAll words).fields.map LayoutField.leaf32 =
        walk.fields.map LayoutField.leaf32 ++
          (wordMembers words).leaves i686 0 walk.o32 ∧
      (walk.pushAll words).fields.map LayoutField.leaf64 =
        walk.fields.map LayoutField.leaf64 ++
          (wordMembers words).leaves x86_64 0 walk.o64 ∧
      (walk.pushAll words).fields.map LayoutField.bHandle =
        walk.fields.map LayoutField.bHandle ++ words ∧
      (walk.pushAll words).o32 = (wordMembers words).endOf i686 walk.o32 ∧
      (walk.pushAll words).o64 = (wordMembers words).endOf x86_64 walk.o64 ∧
      (walk.pushAll words).ui32Align =
        (if true ∈ words then 8 else walk.ui32Align) := by
  induction words generalizing walk with
  | nil => simp [LayoutWalk.pushAll, wordMembers, leaves, endOf]
  | cons bHandle words ih =>
    obtain ⟨leaves32, leaves64, handles, end32, end64, alignment⟩ :=
      ih (aligned.push bHandle)
    have step : walk.pushAll (bHandle :: words) =
        (walk.push bHandle).pushAll words := rfl
    have place32 := alignUp_of_mod (by decide) aligned.o32
    have place64 := alignUp_of_mod (by decide) aligned.o64
    rw [step, leaves32, leaves64, handles, end32, end64, alignment]
    cases bHandle with
    | false =>
      simp [LayoutWalk.push, wordMembers, wordType, leaves,
        endOf, CType.leaves, CType.alignOf, CType.sizeOf,
        LayoutField.leaf32, LayoutField.leaf64, LayoutField.width64,
        place32, place64]
    | true =>
      simp [LayoutWalk.push, wordMembers, wordType, leaves,
        endOf, CType.leaves, CType.alignOf, CType.sizeOf, i686,
        x86_64, LayoutField.leaf32, LayoutField.leaf64,
        LayoutField.width64, place32]

theorem alignOf_wordMembers_i686 (words : List Bool) :
    (wordMembers words).alignOf i686 = if words = [] then 1 else 4 := by
  induction words with
  | nil => rfl
  | cons bHandle words ih =>
    rw [wordMembers, alignOf, ih]
    cases bHandle <;> cases words <;> rfl

theorem alignOf_wordMembers_x86_64 (words : List Bool) :
    (wordMembers words).alignOf x86_64 =
      if true ∈ words then 8 else if words = [] then 1 else 4 := by
  induction words with
  | nil => rfl
  | cons bHandle words ih =>
    rw [wordMembers, alignOf, ih]
    cases bHandle <;> by_cases handle : true ∈ words <;>
      cases words <;>
      simp_all [wordType, CType.alignOf, x86_64]

theorem aligned_start :
    LayoutWalk.Aligned { fields := [], o32 := 0, o64 := 0, ui32Align := 4 } :=
  ⟨rfl, rfl⟩

/-- The sizes of the walk are those of the structure. -/
theorem Describes.sizes
    (describes : Describes psz words)
    (fits : words.length ≤ pvrCompatMaxWords) :
    (pvrCompatLayoutFields psz).size32 = (wordStruct words).sizeOf i686 ∧
      (pvrCompatLayoutFields psz).size64 =
        (wordStruct words).sizeOf x86_64 := by
  obtain ⟨_, _, _, end32, end64, alignment⟩ := aligned_start.pushAll words
  have fields := describes.fields_eq fits
  have aligned : (pvrCompatLayoutFields psz).o32 % 4 = 0 := by
    rw [fields]
    have kept : ∀ (rest : List Bool) (walk : LayoutWalk), walk.Aligned →
        (walk.pushAll rest).Aligned := by
      intro rest
      induction rest with
      | nil => exact fun _ aligned => aligned
      | cons bHandle rest ih =>
        exact fun walk aligned => ih _ (aligned.push bHandle)
    exact (kept words _ aligned_start).o32
  constructor
  · rw [LayoutWalk.size32, wordStruct, CType.sizeOf, alignOf_wordMembers_i686]
    rw [fields] at aligned ⊢
    rw [end32] at aligned ⊢
    split_ifs
    · exact (alignUp_of_mod (by decide) (Nat.mod_one _)).symm
    · exact (alignUp_of_mod (by decide) aligned).symm
  · rw [LayoutWalk.size64, fields, end64, alignment, wordStruct,
      CType.sizeOf, alignOf_wordMembers_x86_64]
    by_cases handle : true ∈ words
    · rw [if_pos handle, if_pos handle]
    · rw [if_neg handle, if_neg handle]
      by_cases none : words = []
      · subst none
        rfl
      · rw [if_neg none]

/-! ## Repacking -/

/-- Expansion widens every word. -/
theorem readLE_expand
    (psz : List Char)
    (memory : Memory)
    (member : field ∈ (pvrCompatLayoutFields psz).fields) :
    readLE (runStage (layoutStage true psz) memory) field.width64
        field.off64 =
      readLE memory 4 field.off32 := by
  have performs := performs_runStage (layoutStage_targetsApart true psz)
  have isMove : field.expandMove ∈ layoutStage true psz :=
    List.mem_map_of_mem member
  have moved := performs.readLE_field memory (Or.inl isMove)
  have small := readLE_lt memory 4 field.off32
  have fits : (256 : Nat) ^ 4 ≤ 256 ^ field.width64 := by
    apply Nat.pow_le_pow_right (by decide)
    unfold LayoutField.width64
    split_ifs <;> decide
  have whole := Nat.mod_eq_of_lt (Nat.lt_of_lt_of_le small fits)
  exact moved.trans whole

/-- Compaction keeps the lower half of every word. -/
theorem readLE_compact
    (psz : List Char)
    (memory : Memory)
    (member : field ∈ (pvrCompatLayoutFields psz).fields) :
    readLE (runStage (layoutStage false psz) memory) 4 field.off32 =
      readLE memory field.width64 field.off64 % 256 ^ 4 := by
  have performs := performs_runStage (layoutStage_targetsApart false psz)
  have isMove : field.compactMove ∈ layoutStage false psz :=
    List.mem_map_of_mem member
  exact performs.readLE_field memory (Or.inl isMove)

/-- Every word ends within the sizes of its structures. -/
theorem Describes.field_inside
    (describes : Describes psz words)
    (fits : words.length ≤ pvrCompatMaxWords)
    (member : field ∈ (pvrCompatLayoutFields psz).fields) :
    field.off32 + 4 ≤ (pvrCompatLayoutFields psz).size32 ∧
      field.off64 + field.width64 ≤ (pvrCompatLayoutFields psz).size64 := by
  have bounds := (pvrCompatLayoutFields_ascending psz).bounded field member
  obtain ⟨_, _, _, _, _, alignment⟩ := aligned_start.pushAll words
  rw [← describes.fields_eq fits] at alignment
  refine ⟨bounds.1, Nat.le_trans bounds.2 ?_⟩
  rw [LayoutWalk.size64]
  rw [alignment]
  split_ifs
  · exact le_alignUp_eight _
  · simp only [alignUp]
    omega

/-- Repacking writes inside the larger structure. -/
theorem Describes.repack_outside
    (describes : Describes psz words)
    (fits : words.length ≤ pvrCompatMaxWords)
    (bExpand : Bool)
    (memory : Memory)
    {location : Nat}
    (outside : max (pvrCompatLayoutFields psz).size32
      (pvrCompatLayoutFields psz).size64 ≤ location) :
    runStage (layoutStage bExpand psz) memory location = memory location := by
  apply runStage_untouched
  intro move isMove
  obtain ⟨field, member, rfl⟩ := List.mem_map.mp isMove
  have inside := describes.field_inside fits member
  right
  cases bExpand with
  | true =>
    simp only [if_true, LayoutField.expandMove]
    omega
  | false =>
    simp only [Bool.false_eq_true, if_false, LayoutField.compactMove]
    omega

/-! ## The language -/

/-- What holds of a layout string that describes `words`. -/
structure LayoutSound (psz : List Char) (words : List Bool) : Prop where
  /-- The fields are the words. -/
  handles : (pvrCompatLayoutFields psz).fields.map LayoutField.bHandle = words
  /-- They are placed where the ABIs place them. -/
  leaves32 : (pvrCompatLayoutFields psz).fields.map LayoutField.leaf32 =
    (wordStruct words).leaves i686 0
  leaves64 : (pvrCompatLayoutFields psz).fields.map LayoutField.leaf64 =
    (wordStruct words).leaves x86_64 0
  size32 : (pvrCompatLayoutFields psz).size32 = (wordStruct words).sizeOf i686
  size64 : (pvrCompatLayoutFields psz).size64 =
    (wordStruct words).sizeOf x86_64
  disjoint : (pvrCompatLayoutFields psz).fields.Pairwise fun first second =>
    Apart first.off32 4 second.off32 4 ∧
      Apart first.off64 first.width64 second.off64 second.width64
  inside : ∀ field ∈ (pvrCompatLayoutFields psz).fields,
    field.off32 + 4 ≤ (pvrCompatLayoutFields psz).size32 ∧
      field.off64 + field.width64 ≤ (pvrCompatLayoutFields psz).size64
  /-- Expanding and compacting restores the words of the packed structure. -/
  expandCompact : ∀ memory, ∀ field ∈ (pvrCompatLayoutFields psz).fields,
    readLE (runStage (layoutStage false psz)
        (runStage (layoutStage true psz) memory)) 4 field.off32 =
      readLE memory 4 field.off32
  /-- Compacting and expanding restores the words that have 32 bits. -/
  compactExpand : ∀ memory, ∀ field ∈ (pvrCompatLayoutFields psz).fields,
    readLE memory field.width64 field.off64 < 2 ^ 32 →
      readLE (runStage (layoutStage true psz)
          (runStage (layoutStage false psz) memory)) field.width64
          field.off64 =
        readLE memory field.width64 field.off64
  outside : ∀ bExpand memory location,
    max (pvrCompatLayoutFields psz).size32
        (pvrCompatLayoutFields psz).size64 ≤ location →
      runStage (layoutStage bExpand psz) memory location = memory location

/-- Every well-formed string that fits the scratch arrays is placed and
repacked soundly. -/
theorem layoutSound_of_describes
    (psz : List Char)
    (words : List Bool)
    (describes : Describes psz words)
    (fits : words.length ≤ pvrCompatMaxWords) :
    LayoutSound psz words := by
  obtain ⟨leaves32, leaves64, handles, _, _, _⟩ := aligned_start.pushAll words
  have fields := describes.fields_eq fits
  obtain ⟨size32, size64⟩ := describes.sizes fits
  refine ⟨?_, ?_, ?_, size32, size64, ?_,
    fun _ => describes.field_inside fits, ?_, ?_,
    fun bExpand memory _ => describes.repack_outside fits bExpand memory⟩
  · rw [fields]
    exact handles
  · rw [fields, leaves32, wordStruct, CType.leaves]
    rfl
  · rw [fields, leaves64, wordStruct, CType.leaves]
    rfl
  · exact (pvrCompatLayoutFields_ascending psz).pairwise.imp
      fun order => ⟨Or.inl order.1, Or.inl order.2⟩
  · intro memory field member
    have small := readLE_lt memory 4 field.off32
    rw [readLE_compact psz _ member, readLE_expand psz memory member,
      Nat.mod_eq_of_lt small]
  · intro memory field member small
    rw [readLE_expand psz _ member, readLE_compact psz memory member]
    exact Nat.mod_eq_of_lt (Nat.lt_of_lt_of_eq small (by decide))

/-- The string of the buffer swap, with its 128 words of clip rectangles. -/
theorem layoutSound_swapDispClassToBuffer :
    LayoutSound ['u', 'h', 'h', 'u', 'h', 'u', '1', '2', '8', 'u']
      ([false, true, true, false, true, false] ++
        List.replicate 128 false) := by
  apply layoutSound_of_describes
  · have rects : Describes (['1', '2', '8'] ++ ['u'])
        (List.replicate 128 false ++ []) :=
      @Describes.repeated ['1', '2', '8'] false [] []
        (by simp [IsDigit]) (by decide) .nil
    rw [List.append_nil] at rects
    exact @Describes.letter false _ _ <| @Describes.letter true _ _ <|
      @Describes.letter true _ _ <| @Describes.letter false _ _ <|
      @Describes.letter true _ _ <| @Describes.letter false _ _ rects
  · rw [List.length_append, List.length_replicate]
    decide

end PvrServices.Compat
