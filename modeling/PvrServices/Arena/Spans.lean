import Mathlib.Data.List.Induction
import PvrServices.Arena.Calls
import PvrServices.Lib.Tiling

/-!
# The spans of an arena

Seen as a sequence of boundary tags, an arena is a sequence of spans in the
order of their addresses.  The tags of a span's segments tile it; an imported
span has a marker in front and behind.  A block is cut out of a segment by
replacing its tag, and freeing one joins it with its free neighbours.
-/

namespace PvrServices.Arena

open Tiling
open List (append_assoc append_nil cons_append flatMap_append flatMap_cons
  mem_append mem_append_left mem_append_right mem_cons mem_cons_self
  mem_flatMap mem_singleton nil_append not_mem_nil pairwise_append
  pairwise_cons)

/-- Arena addresses stay below this limit, so that the arithmetic on bases
does not wrap; device addresses have 32 bits. -/
def addressLimit : Nat := 2 ^ 64 - 2 ^ 33

/-- What the import callback says of a span. -/
structure Extent where
  base : Nat
  uSize : Nat
  psMapping : Option BmMapping
deriving DecidableEq

/-- A span with the tags of its segments. -/
structure Span where
  extent : Extent
  marked : Bool
  body : List Bt

/-- The marker in front of an imported span. -/
def Extent.startMarker (extent : Extent) : Bt where
  type := .span
  base := extent.base
  uSize := extent.uSize
  psMapping := none

/-- The marker behind an imported span. -/
def Extent.endMarker (extent : Extent) : Bt where
  type := .span
  base := extent.base + extent.uSize
  uSize := 0
  psMapping := none

namespace Span

/-- The tags in front of the segments. -/
def opening (span : Span) : List Bt :=
  if span.marked then [span.extent.startMarker] else []

/-- The tags behind the segments. -/
def closing (span : Span) : List Bt :=
  if span.marked then [span.extent.endMarker] else []

/-- The tags of a span. -/
def tags (span : Span) : List Bt :=
  span.opening ++ span.body ++ span.closing

/-- The segments tile the span and carry its mapping. -/
structure Sound (span : Span) : Prop where
  positive : 0 < span.extent.uSize
  small : span.extent.uSize < 2 ^ 32
  within : span.extent.base + span.extent.uSize ≤ addressLimit
  tiles : Tiles Bt.base Bt.uSize span.extent.base span.body
    (span.extent.base + span.extent.uSize)
  segments : ∀ tag ∈ span.body,
    tag.type ≠ .span ∧ tag.psMapping = span.extent.psMapping

end Span

/-- The tags are those of disjoint spans in the order of their addresses; a
span without markers, the resource of `RA_Create`, is the only one. -/
structure Layout (tags : List Bt) (spans : List Span) : Prop where
  tags_eq : tags = spans.flatMap Span.tags
  sound : ∀ span ∈ spans, span.Sound
  ordered : spans.Pairwise fun first second =>
    first.extent.base + first.extent.uSize ≤ second.extent.base
  marked : (∀ span ∈ spans, span.marked = true) ∨
    ∃ span, spans = [span] ∧ span.marked = false

variable {tags before after old new : List Bt} {spans : List Span} {tag : Bt}
  {span : Span}

/-! ## Finding the span of a segment -/

private theorem flatMap_split
    {item element : Type}
    {items : List item}
    {expand : item → List element}
    {entry : element}
    {front back : List element}
    (split : items.flatMap expand = front ++ entry :: back) :
    ∃ earlier chosen later inFront behind,
      items = earlier ++ chosen :: later ∧
        expand chosen = inFront ++ entry :: behind ∧
          front = earlier.flatMap expand ++ inFront ∧
            back = behind ++ later.flatMap expand := by
  induction items generalizing front with
  | nil => simp at split
  | cons first rest ih =>
    rw [flatMap_cons] at split
    rcases List.append_eq_append_iff.mp split with
      ⟨middle, frontEq, restEq⟩ | ⟨middle, firstEq, backEq⟩
    · obtain ⟨earlier, chosen, later, inFront, behind, itemsEq, chosenEq,
        middleEq, backEq⟩ := ih restEq
      refine ⟨first :: earlier, chosen, later, inFront, behind, ?_, chosenEq,
        ?_, backEq⟩
      · rw [itemsEq, cons_append]
      · rw [frontEq, middleEq, flatMap_cons, append_assoc]
    · cases middle with
      | nil =>
        rw [append_nil] at firstEq
        rw [nil_append] at backEq
        have restSplit : rest.flatMap expand = [] ++ entry :: back :=
          backEq.symm
        obtain ⟨earlier, chosen, later, inFront, behind, itemsEq, chosenEq,
          middleEq, behindEq⟩ := ih restSplit
        refine ⟨first :: earlier, chosen, later, inFront, behind, ?_,
          chosenEq, ?_, behindEq⟩
        · rw [itemsEq, cons_append]
        · rw [flatMap_cons, append_assoc, ← middleEq, append_nil, firstEq]
      | cons head others =>
        rw [cons_append, List.cons.injEq] at backEq
        obtain ⟨rfl, backEq⟩ := backEq
        exact ⟨[], first, rest, front, others, rfl, firstEq, rfl, backEq⟩

private theorem append_split
    {element : Type}
    {first second third front back : List element}
    {entry : element}
    (split : first ++ second ++ third = front ++ entry :: back)
    (notFirst : entry ∉ first)
    (notThird : entry ∉ third) :
    ∃ left right, second = left ++ entry :: right ∧
      front = first ++ left ∧ back = right ++ third := by
  rw [append_assoc] at split
  obtain ⟨middle, frontEq, restEq⟩ : ∃ middle, front = first ++ middle ∧
      second ++ third = middle ++ entry :: back := by
    rcases List.append_eq_append_iff.mp split with
      ⟨middle, frontEq, restEq⟩ | ⟨middle, firstEq, backEq⟩
    · exact ⟨middle, frontEq, restEq⟩
    · cases middle with
      | nil =>
        refine ⟨[], ?_, backEq.symm⟩
        rw [firstEq, append_nil, append_nil]
      | cons head others =>
        rw [cons_append, List.cons.injEq] at backEq
        apply absurd _ notFirst
        rw [firstEq, backEq.1]
        exact mem_append_right _ mem_cons_self
  rcases List.append_eq_append_iff.mp restEq with
    ⟨others, middleEq, thirdEq⟩ | ⟨others, secondEq, backEq⟩
  · apply absurd _ notThird
    rw [thirdEq]
    exact mem_append_right _ mem_cons_self
  · cases others with
    | nil =>
      apply absurd _ notThird
      rw [nil_append] at backEq
      rw [← backEq]
      exact mem_cons_self
    | cons head right =>
      rw [cons_append, List.cons.injEq] at backEq
      obtain ⟨rfl, backEq⟩ := backEq
      exact ⟨middle, right, secondEq, frontEq, backEq⟩

theorem Span.opening_type
    (span : Span) :
    ∀ tag ∈ span.opening, tag.type = .span := by
  intro tag member
  unfold opening at member
  split at member
  · rw [mem_singleton.mp member]
    rfl
  · exact absurd member not_mem_nil

theorem Span.closing_type
    (span : Span) :
    ∀ tag ∈ span.closing, tag.type = .span := by
  intro tag member
  unfold closing at member
  split at member
  · rw [mem_singleton.mp member]
    rfl
  · exact absurd member not_mem_nil

/-- A segment lies in the body of a span. -/
theorem Layout.locate
    (layout : Layout (before ++ tag :: after) spans)
    (segment : tag.type ≠ .span) :
    ∃ earlier span later left right,
      spans = earlier ++ span :: later ∧
        span.body = left ++ tag :: right ∧
          before = earlier.flatMap Span.tags ++ span.opening ++ left ∧
            after = right ++ span.closing ++ later.flatMap Span.tags := by
  obtain ⟨earlier, span, later, inFront, behind, spansEq, spanEq, beforeEq,
    afterEq⟩ := flatMap_split layout.tags_eq.symm
  obtain ⟨left, right, bodyEq, frontEq, backEq⟩ := append_split spanEq
    (fun member => segment (span.opening_type tag member))
    (fun member => segment (span.closing_type tag member))
  refine ⟨earlier, span, later, left, right, spansEq, bodyEq, ?_, ?_⟩
  · rw [beforeEq, frontEq, append_assoc]
  · rw [afterEq, backEq]

/-- A span without markers is the only one. -/
theorem Layout.unmarked_alone
    {earlier later : List Span}
    (layout : Layout tags (earlier ++ span :: later))
    (unmarked : span.marked = false) :
    earlier = [] ∧ later = [] := by
  rcases layout.marked with allMarked | ⟨only, onlyEq, _⟩
  · rw [allMarked span (by simp)] at unmarked
    cases unmarked
  · have length := congrArg List.length onlyEq
    simp only [List.length_append, List.length_cons, List.length_nil] at length
    constructor <;> apply List.eq_nil_of_length_eq_zero <;> omega

/-- A stretch of segments lies in the body of one span. -/
theorem Layout.locate_stretch
    (layout : Layout (before ++ tag :: (old ++ after)) spans)
    (segment : tag.type ≠ .span)
    (segments : ∀ other ∈ old, other.type ≠ .span) :
    ∃ earlier span later left right,
      spans = earlier ++ span :: later ∧
        span.body = left ++ tag :: (old ++ right) ∧
          before = earlier.flatMap Span.tags ++ span.opening ++ left ∧
            after = right ++ span.closing ++ later.flatMap Span.tags := by
  obtain ⟨earlier, span, later, left, right, spansEq, bodyEq, beforeEq,
    afterEq⟩ := layout.locate segment
  rw [append_assoc] at afterEq
  suffices prefixed : ∃ rest, right = old ++ rest ∧
      after = rest ++ (span.closing ++ later.flatMap Span.tags) by
    obtain ⟨rest, rightEq, afterEq⟩ := prefixed
    refine ⟨earlier, span, later, left, rest, spansEq, ?_, beforeEq, ?_⟩
    · rw [bodyEq, rightEq]
    · rw [afterEq, append_assoc]
  rcases List.append_eq_append_iff.mp afterEq with
    ⟨rest, rightEq, afterEq⟩ | ⟨extra, oldEq, outsideEq⟩
  · exact ⟨rest, rightEq, afterEq⟩
  · cases extra with
    | nil =>
      refine ⟨[], ?_, ?_⟩
      · rw [oldEq, append_nil, append_nil]
      · rw [outsideEq, nil_append, nil_append]
    | cons first others =>
      have inOld : first ∈ old := by
        rw [oldEq]
        exact mem_append_right _ mem_cons_self
      exfalso
      -- What follows a body is a marker or nothing.
      rcases Bool.eq_false_or_eq_true span.marked with isMarked | unmarked
      · rw [Span.closing, if_pos isMarked, cons_append,
          cons_append, List.cons.injEq] at outsideEq
        apply segments first inOld
        rw [← outsideEq.1]
        rfl
      · subst spansEq
        rw [(layout.unmarked_alone unmarked).2, Span.closing, unmarked]
          at outsideEq
        exact absurd outsideEq (by simp)

/-! ## Changing the segments of a span -/

/-- Two lists of spans have the same extents and markers. -/
def SameExtents (spans others : List Span) : Prop :=
  spans.map (fun span => (span.extent, span.marked)) =
    others.map fun span => (span.extent, span.marked)

/-- A stretch of segments is replaced by another that tiles the same
addresses. -/
theorem Layout.replace
    (layout : Layout (before ++ tag :: (old ++ after)) spans)
    (segments : ∀ other ∈ tag :: old, other.type ≠ .span)
    (tiles : ∀ start stop, Tiles Bt.base Bt.uSize start (tag :: old) stop →
      Tiles Bt.base Bt.uSize start new stop)
    (carried : ∀ other ∈ new, other.type ≠ .span ∧
      other.psMapping = tag.psMapping) :
    ∃ spansAfter, Layout (before ++ new ++ after) spansAfter ∧
      SameExtents spansAfter spans := by
  obtain ⟨earlier, span, later, left, right, rfl, bodyEq, rfl, rfl⟩ :=
    layout.locate_stretch (segments tag mem_cons_self) fun other member =>
      segments other (List.mem_cons_of_mem _ member)
  have spanSound := layout.sound span (by simp)
  let changed : Span := { span with body := left ++ new ++ right }
  refine ⟨earlier ++ changed :: later, ⟨?_, ?_, ?_, ?_⟩, ?_⟩
  · rw [flatMap_append, flatMap_cons]
    simp only [changed, Span.tags, Span.opening, Span.closing, append_assoc]
  · intro other member
    simp only [mem_append, mem_cons] at member
    rcases member with inEarlier | rfl | inLater
    · exact layout.sound other (mem_append_left _ inEarlier)
    · refine ⟨spanSound.positive, spanSound.small, spanSound.within, ?_, ?_⟩
      · have all := spanSound.tiles
        rw [bodyEq, ← cons_append, ← append_assoc] at all
        exact all.replace tiles
      · have tagSound := spanSound.segments tag (by rw [bodyEq]; simp)
        intro entry inBody
        simp only [changed, mem_append] at inBody
        rcases inBody with (inLeft | inNew) | inRight
        · exact spanSound.segments entry (by rw [bodyEq]; simp [inLeft])
        · refine ⟨(carried entry inNew).1, ?_⟩
          exact (carried entry inNew).2.trans tagSound.2
        · exact spanSound.segments entry (by rw [bodyEq]; simp [inRight])
    · exact layout.sound other
        (mem_append_right _ (List.mem_cons_of_mem _ inLater))
  · have ordered := layout.ordered
    simp only [pairwise_append, pairwise_cons, mem_cons,
      forall_eq_or_imp] at ordered ⊢
    exact ordered
  · rcases layout.marked with allMarked | ⟨only, onlyEq, unmarked⟩
    · refine Or.inl ?_
      intro other member
      simp only [mem_append, mem_cons] at member
      rcases member with inEarlier | rfl | inLater
      · exact allMarked other (mem_append_left _ inEarlier)
      · exact allMarked span (by simp)
      · exact allMarked other
          (mem_append_right _ (List.mem_cons_of_mem _ inLater))
    · have isSpan : span ∈ [only] := by
        rw [← onlyEq]
        simp
      rw [← mem_singleton.mp isSpan] at unmarked
      obtain ⟨noEarlier, noLater⟩ := layout.unmarked_alone unmarked
      refine Or.inr ⟨changed, ?_, unmarked⟩
      rw [noEarlier, noLater, nil_append]
  · simp [SameExtents, changed]

/-! ## The addresses of the tags -/

/-- The bases of a span's tags lie between its ends. -/
theorem Span.Sound.base_bounds
    (sound : span.Sound)
    (member : tag ∈ span.tags) :
    span.extent.base ≤ tag.base ∧
      tag.base ≤ span.extent.base + span.extent.uSize := by
  simp only [Span.tags, mem_append, Span.opening, Span.closing] at member
  rcases member with (opening | inBody) | closing
  · split at opening
    · rw [mem_singleton.mp opening]
      exact ⟨Nat.le_refl _, Nat.le_add_right ..⟩
    · exact absurd opening not_mem_nil
  · have bounds := sound.tiles.bounds inBody
    omega
  · split at closing
    · rw [mem_singleton.mp closing]
      exact ⟨Nat.le_add_right .., Nat.le_refl _⟩
    · exact absurd closing not_mem_nil

/-- The tags of a span are in the order of their bases, and each segment ends
before the next tag. -/
theorem Span.Sound.pairwise
    (sound : span.Sound) :
    span.tags.Pairwise fun first second => first.base ≤ second.base ∧
      (first.type ≠ .span → first.base + first.uSize ≤ second.base) := by
  have segments : span.body.Pairwise fun first second =>
      first.base ≤ second.base ∧
        (first.type ≠ .span → first.base + first.uSize ≤ second.base) :=
    sound.tiles.pairwise.imp fun ordered => ⟨by omega, fun _ => ordered⟩
  have inBody : ∀ tag ∈ span.body, span.extent.base ≤ tag.base ∧
      tag.base + tag.uSize ≤ span.extent.base + span.extent.uSize := by
    intro tag member
    have bounds := sound.tiles.bounds member
    omega
  unfold Span.tags Span.opening Span.closing
  rcases Bool.eq_false_or_eq_true span.marked with isMarked | unmarked
  · simp only [isMarked, if_true, pairwise_append, mem_append,
      mem_singleton, List.pairwise_singleton]
    refine ⟨⟨trivial, segments, ?_⟩, trivial, ?_⟩
    · rintro first rfl second member
      exact ⟨(inBody second member).1, fun impossible => absurd rfl impossible⟩
    · rintro first (rfl | member) second rfl
      · exact ⟨Nat.le_add_right .., fun impossible => absurd rfl impossible⟩
      · have bounds := inBody first member
        simp only [Extent.endMarker]
        omega
  · simpa [unmarked] using segments

/-- The tags are in the order of their bases, and each segment ends before the
next tag. -/
theorem Layout.pairwise
    (layout : Layout tags spans) :
    tags.Pairwise fun first second => first.base ≤ second.base ∧
      (first.type ≠ .span → first.base + first.uSize ≤ second.base) := by
  rw [layout.tags_eq, List.pairwise_flatMap]
  refine ⟨fun span member => (layout.sound span member).pairwise, ?_⟩
  apply List.Pairwise.imp_of_mem _ layout.ordered
  intro first second isFirst isSecond ordered tag inFirst other inSecond
  have firstSound := layout.sound first isFirst
  have secondSound := layout.sound second isSecond
  have below := (firstSound.base_bounds inFirst).2
  have above := (secondSound.base_bounds inSecond).1
  refine ⟨by omega, fun segment => ?_⟩
  simp only [Span.tags, mem_append] at inFirst
  rcases inFirst with (opening | inBody) | closing
  · exact absurd (first.opening_type tag opening) segment
  · have bounds := firstSound.tiles.bounds inBody
    omega
  · exact absurd (first.closing_type tag closing) segment

/-- A segment has a size, and its addresses are below the limit. -/
theorem Layout.segment_bounds
    (layout : Layout tags spans)
    (member : tag ∈ tags)
    (segment : tag.type ≠ .span) :
    0 < tag.uSize ∧ tag.uSize < 2 ^ 32 ∧
      tag.base + tag.uSize ≤ addressLimit := by
  obtain ⟨before, after, rfl⟩ := List.append_of_mem member
  obtain ⟨earlier, span, later, left, right, rfl, bodyEq, _, _⟩ :=
    layout.locate segment
  have sound := layout.sound span (by simp)
  have inBody : tag ∈ span.body := by
    rw [bodyEq]
    simp
  have bounds := sound.tiles.bounds inBody
  have small := sound.small
  have within := sound.within
  omega

/-- Neighbouring segments touch. -/
theorem Layout.touch
    {other : Bt}
    (layout : Layout (before ++ tag :: other :: after) spans)
    (segment : tag.type ≠ .span)
    (otherSegment : other.type ≠ .span) :
    tag.base + tag.uSize = other.base ∧
      tag.uSize + other.uSize < 2 ^ 32 ∧
        tag.psMapping = other.psMapping := by
  have stretch : Layout (before ++ tag :: ([other] ++ after)) spans := layout
  obtain ⟨earlier, span, later, left, right, rfl, bodyEq, _, _⟩ :=
    stretch.locate_stretch segment (by
      intro entry member
      rw [mem_singleton.mp member]
      exact otherSegment)
  have sound := layout.sound span (by simp)
  have tiles := sound.tiles
  have small := sound.small
  rw [bodyEq] at tiles
  have touching := tiles.touch
  have tagBounds := tiles.bounds
    (show tag ∈ left ++ tag :: ([other] ++ right) by simp)
  have otherBounds := tiles.bounds
    (show other ∈ left ++ tag :: ([other] ++ right) by simp)
  have tagMapping := (sound.segments tag (by rw [bodyEq]; simp)).2
  have otherMapping := (sound.segments other (by rw [bodyEq]; simp)).2
  exact ⟨touching, by omega, tagMapping.trans otherMapping.symm⟩

/-- The segments cover the addresses of the spans. -/
theorem Layout.covers
    (layout : Layout tags spans)
    (address : Nat) :
    (∃ tag ∈ tags, tag.type ≠ .span ∧ tag.base ≤ address ∧
        address < tag.base + tag.uSize) ↔
      ∃ span ∈ spans, span.extent.base ≤ address ∧
        address < span.extent.base + span.extent.uSize := by
  constructor
  · rintro ⟨tag, member, segment, above, below⟩
    obtain ⟨before, after, rfl⟩ := List.append_of_mem member
    obtain ⟨earlier, span, later, left, right, rfl, bodyEq, _, _⟩ :=
      layout.locate segment
    have isSpan : span ∈ earlier ++ span :: later := by simp
    have inBody : tag ∈ span.body := by
      rw [bodyEq]
      simp
    have bounds := (layout.sound span isSpan).tiles.bounds inBody
    exact ⟨span, isSpan, by omega, by omega⟩
  · rintro ⟨span, isSpan, above, below⟩
    have sound := layout.sound span isSpan
    obtain ⟨tag, inBody, within⟩ := sound.tiles.covers above below
    refine ⟨tag, ?_, (sound.segments tag inBody).1, within⟩
    rw [layout.tags_eq, mem_flatMap]
    exact ⟨span, isSpan, by simp [Span.tags, inBody]⟩

/-! ## Adding and removing spans -/

/-- Imported spans end in a marker. -/
theorem flatMap_tags_getLast
    (allMarked : ∀ span ∈ spans, span.marked = true) :
    ∀ last ∈ (spans.flatMap Span.tags).getLast?, last.type = .span := by
  rcases List.eq_nil_or_concat' spans with rfl | ⟨others, span, rfl⟩
  · intro last impossible
    cases impossible
  · intro last isLast
    rw [flatMap_append, List.flatMap_singleton, Span.tags, Span.closing,
      if_pos (allMarked span (by simp)), ← append_assoc,
      List.getLast?_concat] at isLast
    cases isLast
    rfl

/-- A segment between two markers is a whole imported span. -/
theorem Layout.dropSpan
    {start stop : Bt}
    (layout : Layout (before ++ start :: tag :: stop :: after) spans)
    (startMarker : start.type = .span)
    (segment : tag.type ≠ .span)
    (stopMarker : stop.type = .span) :
    ∃ earlier span later, spans = earlier ++ span :: later ∧
      span.marked = true ∧
        span.extent = ⟨tag.base, tag.uSize, tag.psMapping⟩ ∧
          Layout (before ++ after) (earlier ++ later) ∧
            ∀ last ∈ before.getLast?, last.type = .span := by
  rw [List.append_cons] at layout
  obtain ⟨earlier, span, later, left, right, rfl, bodyEq, frontEq, backEq⟩ :=
    layout.locate segment
  have sound := layout.sound span (by simp)
  have leftNil : left = [] := by
    cases left using List.reverseRecOn with
    | nil => rfl
    | append_singleton others last =>
      rw [← append_assoc] at frontEq
      have same := (List.append_inj' frontEq rfl).2
      rw [List.cons.injEq] at same
      exact absurd (same.1 ▸ startMarker)
        (sound.segments last (by rw [bodyEq]; simp)).1
  have rightNil : right = [] := by
    cases right with
    | nil => rfl
    | cons first others =>
      rw [cons_append, cons_append, List.cons.injEq] at backEq
      exact absurd (backEq.1 ▸ stopMarker)
        (sound.segments first (by rw [bodyEq]; simp)).1
  have isMarked : span.marked = true := by
    rcases Bool.eq_false_or_eq_true span.marked with isMarked | unmarked
    · exact isMarked
    · rw [(layout.unmarked_alone unmarked).1, leftNil, Span.opening, unmarked]
        at frontEq
      exact absurd frontEq (by simp)
  subst leftNil rightNil
  rw [Span.opening, if_pos isMarked, append_nil] at frontEq
  rw [Span.closing, if_pos isMarked, nil_append, cons_append,
    nil_append, List.cons.injEq] at backEq
  have beforeEq := (List.append_inj' frontEq rfl).1
  have allMarked : ∀ other ∈ earlier ++ later, other.marked = true := by
    rcases layout.marked with allMarked | ⟨only, onlyEq, unmarked⟩
    · intro other member
      apply allMarked
      simp only [mem_append, mem_cons] at member ⊢
      tauto
    · have isSpan : span ∈ [only] := by
        rw [← onlyEq]
        simp
      rw [← mem_singleton.mp isSpan, isMarked] at unmarked
      cases unmarked
  refine ⟨earlier, span, later, rfl, isMarked, ?_,
    ⟨?_, ?_, ?_, Or.inl allMarked⟩, ?_⟩
  · have tiles := sound.tiles
    rw [bodyEq] at tiles
    obtain ⟨atStart, _, ends⟩ := tiles
    have size : span.extent.base + tag.uSize =
      span.extent.base + span.extent.uSize := ends
    have mapping := (sound.segments tag (by rw [bodyEq]; simp)).2
    cases extentEq : span.extent with
    | mk base uSize psMapping =>
      rw [extentEq] at atStart size mapping
      rw [atStart, mapping, Nat.add_left_cancel size]
  · rw [beforeEq, backEq.2, flatMap_append]
  · intro other member
    apply layout.sound
    simp only [mem_append, mem_cons] at member ⊢
    tauto
  · have ordered := layout.ordered
    simp only [pairwise_append, pairwise_cons, mem_cons,
      forall_eq_or_imp] at ordered ⊢
    exact ⟨ordered.1, ordered.2.1.2, fun first member =>
      (ordered.2.2 first member).2⟩
  · rw [beforeEq]
    exact flatMap_tags_getLast fun other member =>
      allMarked other (mem_append_left _ member)

private theorem split_at
    (ordered : spans.Pairwise fun first second =>
      first.extent.base + first.extent.uSize ≤ second.extent.base)
    (base : Nat) :
    ∃ earlier later, spans = earlier ++ later ∧
      (∀ span ∈ earlier, span.extent.base ≤ base) ∧
        ∀ span ∈ later, base < span.extent.base := by
  induction spans with
  | nil =>
    exact ⟨[], [], rfl, fun _ impossible => absurd impossible
      not_mem_nil, fun _ impossible => absurd impossible not_mem_nil⟩
  | cons first rest ih =>
    rw [pairwise_cons] at ordered
    rcases Nat.lt_or_ge base first.extent.base with above | below
    · refine ⟨[], first :: rest, rfl, fun _ impossible => absurd impossible
        not_mem_nil, ?_⟩
      intro span member
      rcases mem_cons.mp member with rfl | later
      · exact above
      · have following := ordered.1 span later
        omega
    · obtain ⟨earlier, later, restEq, inEarlier, inLater⟩ := ih ordered.2
      refine ⟨first :: earlier, later, ?_, ?_, inLater⟩
      · rw [restEq, cons_append]
      · intro span member
        rcases mem_cons.mp member with rfl | others
        · exact below
        · exact inEarlier span others

private theorem filter_split
    {front back : List Bt}
    {base : Nat}
    (below : ∀ tag ∈ front, tag.base ≤ base)
    (above : ∀ tag ∈ back, base < tag.base) :
    (front ++ back).filter (fun tag => decide (tag.base ≤ base)) = front := by
  rw [List.filter_append, List.filter_eq_self.mpr, List.filter_eq_nil_iff.mpr,
    append_nil]
  · intro tag member
    have further := above tag member
    simp only [decide_eq_true_eq]
    omega
  · intro tag member
    simpa using below tag member

/-- The span with one free segment that `_InsertResourceSpan` makes. -/
def Extent.freshSpan (extent : Extent) : Span where
  extent := extent
  marked := true
  body :=
    [{ type := .free
       base := extent.base
       uSize := extent.uSize
       psMapping := extent.psMapping }]

/-- A span disjoint from the others goes where its base puts it. -/
theorem Layout.addSpan
    {extent : Extent}
    (layout : Layout (before ++ after) spans)
    (allMarked : ∀ span ∈ spans, span.marked = true)
    (positive : 0 < extent.uSize)
    (small : extent.uSize < 2 ^ 32)
    (within : extent.base + extent.uSize ≤ addressLimit)
    (disjoint : ∀ span ∈ spans,
      span.extent.base + span.extent.uSize ≤ extent.base ∨
        extent.base + extent.uSize ≤ span.extent.base)
    (below : ∀ tag ∈ before, tag.base ≤ extent.base)
    (above : ∀ tag ∈ after.head?, extent.base < tag.base) :
    ∃ earlier later, spans = earlier ++ later ∧
      Layout (before ++ extent.freshSpan.tags ++ after)
        (earlier ++ extent.freshSpan :: later) := by
  obtain ⟨earlier, later, rfl, inEarlier, inLater⟩ :=
    split_at layout.ordered extent.base
  have earlierEnds : ∀ span ∈ earlier,
      span.extent.base + span.extent.uSize ≤ extent.base := by
    intro span member
    have starts := inEarlier span member
    rcases disjoint span (mem_append_left _ member) with ends | behind
    · exact ends
    · omega
  have laterStarts : ∀ span ∈ later,
      extent.base + extent.uSize ≤ span.extent.base := by
    intro span member
    have starts := inLater span member
    have spanPositive := (layout.sound span
      (mem_append_right _ member)).positive
    rcases disjoint span (mem_append_right _ member) with ends | behind
    · omega
    · exact behind
  have afterAbove : ∀ tag ∈ after, extent.base < tag.base := by
    cases after with
    | nil => exact fun _ impossible => absurd impossible not_mem_nil
    | cons first rest =>
      have firstAbove := above first rfl
      have sorted := (pairwise_append.mp layout.pairwise).2.1
      rw [pairwise_cons] at sorted
      intro tag member
      rcases mem_cons.mp member with rfl | later
      · exact firstAbove
      · have following := (sorted.1 tag later).1
        omega
  have bothSplits : before ++ after =
      earlier.flatMap Span.tags ++ later.flatMap Span.tags := by
    rw [layout.tags_eq, flatMap_append]
  have beforeEq : before = earlier.flatMap Span.tags := by
    rw [← filter_split below afterAbove, bothSplits]
    apply filter_split
    · intro tag member
      obtain ⟨span, isSpan, inSpan⟩ := mem_flatMap.mp member
      have bounds := (layout.sound span
        (mem_append_left _ isSpan)).base_bounds inSpan
      have ends := earlierEnds span isSpan
      omega
    · intro tag member
      obtain ⟨span, isSpan, inSpan⟩ := mem_flatMap.mp member
      have bounds := (layout.sound span
        (mem_append_right _ isSpan)).base_bounds inSpan
      have starts := inLater span isSpan
      omega
  have afterEq : after = later.flatMap Span.tags := by
    rw [beforeEq] at bothSplits
    exact List.append_cancel_left bothSplits
  refine ⟨earlier, later, rfl, ?_, ?_, ?_, Or.inl ?_⟩
  · rw [beforeEq, afterEq, flatMap_append, flatMap_cons, append_assoc]
  · intro span member
    simp only [mem_append, mem_cons] at member
    rcases member with inFront | rfl | behind
    · exact layout.sound span (mem_append_left _ inFront)
    · refine ⟨positive, small, within, ?_, ?_⟩
      · exact ⟨rfl, positive, rfl⟩
      · intro tag isBody
        rw [mem_singleton.mp isBody]
        exact ⟨by simp, rfl⟩
    · exact layout.sound span (mem_append_right _ behind)
  · have ordered := pairwise_append.mp layout.ordered
    rw [pairwise_append, pairwise_cons]
    refine ⟨ordered.1, ⟨laterStarts, ordered.2.1⟩, ?_⟩
    intro first isFirst second isSecond
    rcases mem_cons.mp isSecond with rfl | behind
    · exact earlierEnds first isFirst
    · exact ordered.2.2 first isFirst second behind
  · intro span member
    simp only [mem_append, mem_cons] at member
    rcases member with inFront | rfl | behind
    · exact allMarked span (mem_append_left _ inFront)
    · rfl
    · exact allMarked span (mem_append_right _ behind)

end PvrServices.Arena
