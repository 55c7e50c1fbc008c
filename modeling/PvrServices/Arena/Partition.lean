import Mathlib.Data.List.Chain
import PvrServices.Arena.Spans

/-!
# Cutting and joining segments

The effect of the calls on the sequence of tags: an allocation replaces a free
segment by its block and what is left of it in front and behind; freeing a
segment joins it with its free neighbours, and an imported span that is free
as a whole leaves the arena.
-/

namespace PvrServices.Arena

open Tiling
open List (append_assoc isChain_cons mem_cons mem_singleton not_mem_nil)

/-! ## Joining -/

/-- Join a segment with the one in front, if that is free. -/
def absorbPrev (front : List Bt) (tag : Bt) : List Bt × Bt :=
  match front.getLast? with
  | some other =>
    if other.type = .free then
      (front.dropLast,
        { tag with base := other.base, uSize := tag.uSize + other.uSize })
    else (front, tag)
  | none => (front, tag)

/-- Join a segment with the one behind, if that is free. -/
def absorbNext (tag : Bt) (back : List Bt) : Bt × List Bt :=
  match back.head? with
  | some other =>
    if other.type = .free then
      ({ tag with uSize := tag.uSize + other.uSize }, back.tail)
    else (tag, back)
  | none => (tag, back)

/-- Join a segment with its free neighbours. -/
def coalesce (front : List Bt) (tag : Bt) (back : List Bt) :
    List Bt × Bt × List Bt :=
  let joined := absorbPrev front tag
  (joined.1, absorbNext joined.2 back)

/-- The tags around a segment are both span markers. -/
def BetweenMarkers (front back : List Bt) : Prop :=
  front.getLast?.map Bt.type = some .span ∧
    back.head?.map Bt.type = some .span

instance (front back : List Bt) : Decidable (BetweenMarkers front back) :=
  inferInstanceAs (Decidable (_ ∧ _))

theorem BetweenMarkers.split
    {front back : List Bt}
    (between : BetweenMarkers front back) :
    ∃ others prev next rest, front = others ++ [prev] ∧
      back = next :: rest ∧ prev.type = .span ∧ next.type = .span := by
  obtain ⟨last, first⟩ := between
  obtain ⟨prev, isLast, prevMarker⟩ := Option.map_eq_some_iff.mp last
  obtain ⟨next, isFirst, nextMarker⟩ := Option.map_eq_some_iff.mp first
  obtain ⟨others, frontEq⟩ := List.getLast?_eq_some_iff.mp isLast
  obtain ⟨rest, backEq⟩ := List.head?_eq_some_iff.mp isFirst
  exact ⟨others, prev, next, rest, frontEq, backEq, prevMarker, nextMarker⟩

/-- The tags after a joined segment becomes free, or its span leaves. -/
def settledTags (front : List Bt) (tag : Bt) (back : List Bt) : List Bt :=
  if BetweenMarkers front back then front.dropLast ++ back.tail
  else front ++ { tag with type := .free } :: back

/-- The span that leaves when a joined segment becomes free. -/
def settledSpan (front : List Bt) (tag : Bt) (back : List Bt) :
    Option Extent :=
  if BetweenMarkers front back then
    some ⟨tag.base, tag.uSize, tag.psMapping⟩
  else none

/-- The tags after freeing the segment of a tag. -/
def freedTags (front : List Bt) (tag : Bt) (back : List Bt) : List Bt :=
  let joined := coalesce front tag back
  settledTags joined.1 joined.2.1 joined.2.2

/-- The span that freeing the segment of a tag gives back. -/
def givenBack (front : List Bt) (tag : Bt) (back : List Bt) :
    Option Extent :=
  let joined := coalesce front tag back
  settledSpan joined.1 joined.2.1 joined.2.2

variable {front back : List Bt} {tag other : Bt} {spans : List Span}
  {request : Request}

theorem absorbPrev_free
    (free : other.type = .free) :
    absorbPrev (front ++ [other]) tag =
      (front,
        { tag with base := other.base, uSize := tag.uSize + other.uSize }) := by
  rw [absorbPrev, List.getLast?_concat]
  simp [free]

theorem absorbPrev_kept
    (kept : ∀ other ∈ front.getLast?, other.type ≠ .free) :
    absorbPrev front tag = (front, tag) := by
  unfold absorbPrev
  cases last : front.getLast? with
  | none => rfl
  | some other => exact if_neg (kept other last)

theorem absorbNext_free
    (free : other.type = .free) :
    absorbNext tag (other :: back) =
      ({ tag with uSize := tag.uSize + other.uSize }, back) := by
  simp [absorbNext, free]

theorem absorbNext_kept
    (kept : ∀ other ∈ back.head?, other.type ≠ .free) :
    absorbNext tag back = (tag, back) := by
  unfold absorbNext
  cases first : back.head? with
  | none => rfl
  | some other => exact if_neg (kept other first)

/-- The segment in front is free, or it is left alone. -/
theorem absorbPrev_cases
    (front : List Bt)
    (tag : Bt) :
    (∃ others other, front = others ++ [other] ∧ other.type = .free ∧
        absorbPrev front tag = (others,
          { tag with
            base := other.base
            uSize := tag.uSize + other.uSize })) ∨
      (∀ other ∈ front.getLast?, other.type ≠ .free) ∧
        absorbPrev front tag = (front, tag) := by
  rcases List.eq_nil_or_concat' front with rfl | ⟨others, other, rfl⟩
  · exact Or.inr ⟨by simp, rfl⟩
  · by_cases free : other.type = .free
    · exact Or.inl ⟨others, other, rfl, free, absorbPrev_free free⟩
    · refine Or.inr ⟨?_, ?_⟩
      · intro last isLast
        rw [List.getLast?_concat] at isLast
        cases isLast
        exact free
      · apply absorbPrev_kept
        intro last isLast
        rw [List.getLast?_concat] at isLast
        cases isLast
        exact free

/-- The segment behind is free, or it is left alone. -/
theorem absorbNext_cases
    (tag : Bt)
    (back : List Bt) :
    (∃ other others, back = other :: others ∧ other.type = .free ∧
        absorbNext tag back =
          ({ tag with uSize := tag.uSize + other.uSize }, others)) ∨
      (∀ other ∈ back.head?, other.type ≠ .free) ∧
        absorbNext tag back = (tag, back) := by
  cases back with
  | nil => exact Or.inr ⟨by simp, rfl⟩
  | cons other others =>
    by_cases free : other.type = .free
    · exact Or.inl ⟨other, others, rfl, free, absorbNext_free free⟩
    · have kept : ∀ first ∈ (other :: others).head?, first.type ≠ .free := by
        intro first isFirst
        cases isFirst
        exact free
      exact Or.inr ⟨kept, absorbNext_kept kept⟩

private theorem free_segment
    (free : tag.type = .free) :
    tag.type ≠ .span := by
  rw [free]
  simp

/-- Two neighbouring segments are joined into one. -/
theorem Layout.join
    (layout : Layout (front ++ tag :: other :: back) spans)
    (joined : Bt)
    (segment : tag.type ≠ .span)
    (otherSegment : other.type ≠ .span)
    (joinedSegment : joined.type ≠ .span)
    (extent : joined.base = tag.base ∧
      joined.uSize = tag.uSize + other.uSize)
    (mapping : joined.psMapping = tag.psMapping) :
    ∃ spansAfter, Layout (front ++ joined :: back) spansAfter ∧
      SameExtents spansAfter spans := by
  have stretch : Layout (front ++ tag :: ([other] ++ back)) spans := layout
  have segments : ∀ entry ∈ [tag, other], entry.type ≠ .span := by
    intro entry member
    rcases mem_cons.mp member with rfl | isOther
    · exact segment
    · rw [mem_singleton.mp isOther]
      exact otherSegment
  have tiling : ∀ start stop,
      Tiles Bt.base Bt.uSize start [tag, other] stop →
        Tiles Bt.base Bt.uSize start [joined] stop := by
    rintro start stop ⟨atStart, positive, _, _, ends⟩
    have last : start + tag.uSize + other.uSize = stop := ends
    refine ⟨extent.1.trans atStart, ?_, ?_⟩
    · rw [extent.2]
      exact Nat.add_pos_left positive _
    · show start + joined.uSize = stop
      omega
  obtain ⟨spansAfter, after, same⟩ := stretch.replace segments tiling (by
    intro entry member
    rw [mem_singleton.mp member]
    exact ⟨joinedSegment, mapping⟩)
  rw [append_assoc] at after
  exact ⟨spansAfter, after, same⟩

section

variable (layout : Layout (front ++ tag :: back) spans)
  (segment : tag.type ≠ .span)
include layout segment

/-- Joining with the segment in front keeps the layout. -/
theorem Layout.absorbPrev :
    ∃ spansAfter,
      Layout ((absorbPrev front tag).1 ++ (absorbPrev front tag).2 :: back)
          spansAfter ∧
        SameExtents spansAfter spans ∧
          (absorbPrev front tag).2.type = tag.type ∧
            (absorbPrev front tag).2.psMapping = tag.psMapping := by
  rcases absorbPrev_cases front tag with
    ⟨others, other, rfl, free, joined⟩ | ⟨_, kept⟩
  · rw [joined]
    rw [append_assoc] at layout
    have pair : Layout (others ++ other :: tag :: back) spans := layout
    have touching := pair.touch (free_segment free) segment
    obtain ⟨spansAfter, after, same⟩ := pair.join
      { tag with base := other.base, uSize := tag.uSize + other.uSize }
      (free_segment free) segment segment ⟨rfl, Nat.add_comm ..⟩
      touching.2.2.symm
    exact ⟨spansAfter, after, same, rfl, rfl⟩
  · rw [kept]
    exact ⟨spans, layout, rfl, rfl, rfl⟩

/-- Joining with the segment behind keeps the layout. -/
theorem Layout.absorbNext :
    ∃ spansAfter,
      Layout (front ++ (absorbNext tag back).1 :: (absorbNext tag back).2)
          spansAfter ∧
        SameExtents spansAfter spans ∧
          (absorbNext tag back).1.type = tag.type ∧
            (absorbNext tag back).1.psMapping = tag.psMapping := by
  rcases absorbNext_cases tag back with
    ⟨other, others, rfl, free, joined⟩ | ⟨_, kept⟩
  · rw [joined]
    obtain ⟨spansAfter, after, same⟩ := layout.join
      { tag with uSize := tag.uSize + other.uSize } segment
      (free_segment free) segment ⟨rfl, rfl⟩ rfl
    exact ⟨spansAfter, after, same, rfl, rfl⟩
  · rw [kept]
    exact ⟨spans, layout, rfl, rfl, rfl⟩

/-- Joining with both neighbours keeps the layout, and the joined segment
contains the segment. -/
theorem Layout.coalesce :
    ∃ spansAfter,
      Layout ((coalesce front tag back).1 ++
        (Arena.coalesce front tag back).2.1 ::
          (Arena.coalesce front tag back).2.2) spansAfter ∧
        SameExtents spansAfter spans ∧
          (Arena.coalesce front tag back).2.1.type = tag.type := by
  obtain ⟨first, layoutFirst, sameFirst, typeFirst, _⟩ :=
    layout.absorbPrev segment
  have segmentFirst : (Arena.absorbPrev front tag).2.type ≠ .span := by
    rw [typeFirst]
    exact segment
  obtain ⟨second, layoutSecond, sameSecond, typeSecond, _⟩ :=
    layoutFirst.absorbNext segmentFirst
  exact ⟨second, layoutSecond, sameSecond.trans sameFirst,
    typeSecond.trans typeFirst⟩

/-- The joined segment contains the segment. -/
theorem Layout.coalesce_bounds :
    (Arena.coalesce front tag back).2.1.base ≤ tag.base ∧
      tag.base + tag.uSize ≤ (Arena.coalesce front tag back).2.1.base +
        (Arena.coalesce front tag back).2.1.uSize := by
  have joinedFront : (Arena.absorbPrev front tag).2.base ≤ tag.base ∧
      tag.base + tag.uSize = (Arena.absorbPrev front tag).2.base +
        (Arena.absorbPrev front tag).2.uSize := by
    rcases absorbPrev_cases front tag with
      ⟨others, other, rfl, free, joined⟩ | ⟨_, kept⟩
    · rw [append_assoc] at layout
      have touching := layout.touch (by
        rw [free]
        simp) segment
      rw [joined]
      constructor
      · simp only
        omega
      · simp only
        omega
    · rw [kept]
      exact ⟨Nat.le_refl _, rfl⟩
  have joinedBack : ∀ joined : Bt,
      (Arena.absorbNext joined back).1.base = joined.base ∧
        joined.uSize ≤ (Arena.absorbNext joined back).1.uSize := by
    intro joined
    rcases absorbNext_cases joined back with
      ⟨other, others, rfl, free, joinedEq⟩ | ⟨_, kept⟩
    · rw [joinedEq]
      exact ⟨rfl, Nat.le_add_right _ _⟩
    · rw [kept]
      exact ⟨rfl, Nat.le_refl _⟩
  obtain ⟨sameBase, larger⟩ := joinedBack (Arena.absorbPrev front tag).2
  simp only [Arena.coalesce]
  omega

/-! ## Freeing -/

/-- What is left of the spans when freeing a segment gives a span back. -/
def Returned (extent : Extent) (spans spansAfter : List Span) : Prop :=
  ∃ earlier span later, SameExtents (earlier ++ span :: later) spans ∧
    span.marked = true ∧ span.extent = extent ∧ spansAfter = earlier ++ later

/-- A joined segment that becomes free, or the span that leaves, keeps the
layout. -/
theorem Layout.settledTags :
    ∃ spansAfter, Layout (settledTags front tag back) spansAfter ∧
      (settledSpan front tag back = none ∧ SameExtents spansAfter spans ∨
        ∃ extent, settledSpan front tag back = some extent ∧
          Returned extent spans spansAfter) := by
  unfold Arena.settledTags settledSpan
  by_cases between : BetweenMarkers front back
  · rw [if_pos between, if_pos between]
    obtain ⟨others, prev, next, rest, rfl, rfl, prevMarker, nextMarker⟩ :=
      between.split
    rw [append_assoc] at layout
    obtain ⟨earlier, span, later, rfl, isMarked, extentEq, dropped, _⟩ :=
      layout.dropSpan prevMarker segment nextMarker
    refine ⟨earlier ++ later, ?_, Or.inr ⟨_, rfl, ?_⟩⟩
    · simpa using dropped
    · exact ⟨earlier, span, later, rfl, isMarked, extentEq, rfl⟩
  · rw [if_neg between, if_neg between]
    have stretch : Layout (front ++ tag :: ([] ++ back)) spans := layout
    have segments : ∀ entry ∈ [tag], entry.type ≠ .span := by
      intro entry member
      rw [mem_singleton.mp member]
      exact segment
    have tiling : ∀ start stop, Tiles Bt.base Bt.uSize start [tag] stop →
        Tiles Bt.base Bt.uSize start [{ tag with type := .free }] stop :=
      fun _ _ tiles => tiles
    obtain ⟨spansAfter, after, same⟩ := stretch.replace segments tiling (by
      intro entry member
      rw [mem_singleton.mp member]
      exact ⟨by simp, rfl⟩)
    refine ⟨spansAfter, ?_, Or.inl ⟨rfl, same⟩⟩
    rw [append_assoc] at after
    exact after

/-- Freeing a segment keeps the layout, and gives back the span that it says. -/
theorem Layout.freedTags :
    ∃ spansAfter, Layout (freedTags front tag back) spansAfter ∧
      (givenBack front tag back = none ∧ SameExtents spansAfter spans ∨
        ∃ extent, givenBack front tag back = some extent ∧
          Returned extent spans spansAfter) := by
  obtain ⟨joined, layoutJoined, same, typeJoined⟩ := layout.coalesce segment
  obtain ⟨third, layoutThird, outcome⟩ := layoutJoined.settledTags (by
    rw [typeJoined]
    exact segment)
  refine ⟨third, layoutThird, ?_⟩
  rcases outcome with ⟨kept, sameThird⟩ | ⟨extent, gone, returned⟩
  · exact Or.inl ⟨kept, sameThird.trans same⟩
  · obtain ⟨earlier, span, later, sameSpans, isMarked, extentEq, afterEq⟩ :=
      returned
    exact Or.inr ⟨extent, gone,
      ⟨earlier, span, later, sameSpans.trans same, isMarked, extentEq,
        afterEq⟩⟩

end

/-! ## Cutting -/

open RaArena

/-- The wanted bases of a block. -/
def Aligned (request : Request) (base : Nat) : Prop :=
  1 < request.uAlignment.toNat →
    (base + request.uAlignmentOffset.toNat % request.uAlignment.toNat) %
      request.uAlignment.toNat = 0

/-- The aligned base is the first one from the segment's base on. -/
theorem alignedBase_spec
    (request : Request)
    {base : Nat}
    (within : base ≤ addressLimit) :
    base ≤ alignedBase request base ∧
      alignedBase request base < base + 2 ^ 32 ∧
        Aligned request (alignedBase request base) ∧
          ∀ other, base ≤ other → Aligned request other →
            alignedBase request base ≤ other := by
  have alignmentBound := request.uAlignment.isLt
  unfold alignedBase Aligned
  unfold addressLimit at within
  by_cases large : 1 < request.uAlignment.toNat
  · simp only [large, if_true, forall_const]
    generalize request.uAlignment.toNat = alignment at *
    have offsetBound :=
      Nat.mod_lt request.uAlignmentOffset.toNat (Nat.zero_lt_of_lt large)
    generalize request.uAlignmentOffset.toNat % alignment = offset at *
    have top : base + offset + alignment - 1 < 2 ^ 64 := by omega
    have quotient := Nat.div_add_mod (base + offset + alignment - 1) alignment
    have remainder := Nat.mod_lt (base + offset + alignment - 1)
      (Nat.zero_lt_of_lt large)
    rw [Nat.mul_comm] at quotient
    have rounded : (base + offset + alignment - 1) / alignment * alignment <
        2 ^ 64 := by omega
    have result : wrap64 (wrap64 (wrap64 (base + offset + alignment - 1) /
        alignment * alignment) + 2 ^ 64 - offset) =
          (base + offset + alignment - 1) / alignment * alignment - offset := by
      unfold wrap64
      rw [Nat.mod_eq_of_lt top, Nat.mod_eq_of_lt rounded,
        Nat.add_sub_assoc (by omega), Nat.add_comm]
      have shift : 2 ^ 64 - offset +
          (base + offset + alignment - 1) / alignment * alignment =
            (base + offset + alignment - 1) / alignment * alignment - offset +
              2 ^ 64 := by omega
      rw [shift, Nat.add_mod_right, Nat.mod_eq_of_lt (by omega)]
    rw [result]
    refine ⟨by omega, by omega, ?_, ?_⟩
    · rw [Nat.sub_add_cancel (by omega)]
      exact Nat.mul_mod_left ..
    · intro other above aligned
      obtain ⟨multiple, otherEq⟩ := Nat.dvd_of_mod_eq_zero aligned
      have bounded : (base + offset + alignment - 1) / alignment < multiple +
          1 := by
        rw [Nat.div_lt_iff_lt_mul (Nat.zero_lt_of_lt large), Nat.add_mul,
          Nat.mul_comm multiple]
        omega
      have scaled := Nat.mul_le_mul_right alignment (Nat.le_of_lt_succ bounded)
      rw [Nat.mul_comm multiple] at scaled
      omega
  · simp only [large, if_false, false_implies, true_and]
    exact ⟨Nat.le_refl _, by omega, fun other above _ => above⟩

/-- Where a block ends. -/
def blockEnd (request : Request) (contents : Bt) : Nat :=
  alignedBase request contents.base + request.uSize.toNat

/-- The free segment in front of a block. -/
def frontPiece (request : Request) (contents : Bt) : List Bt :=
  if contents.base < alignedBase request contents.base then
    [{ contents with
       uSize := alignedBase request contents.base - contents.base }]
  else []

/-- The segment from the base of a block on. -/
def rearPiece (request : Request) (contents : Bt) : Bt :=
  { contents with
    base := alignedBase request contents.base
    uSize := contents.base + contents.uSize -
      alignedBase request contents.base }

/-- The segment of a block. -/
def block (request : Request) (contents : Bt) : Bt where
  type := .live
  base := alignedBase request contents.base
  uSize := request.uSize.toNat
  psMapping := contents.psMapping

/-- The free segment behind a block. -/
def backPiece (request : Request) (contents : Bt) : List Bt :=
  if blockEnd request contents < contents.base + contents.uSize then
    [{ contents with
       base := blockEnd request contents
       uSize := contents.base + contents.uSize - blockEnd request contents }]
  else []

/-- Cutting a segment in front of the block keeps the layout. -/
theorem Layout.cutFront
    (layout : Layout (front ++ tag :: back) spans)
    (segment : tag.type ≠ .span)
    (fits : alignedBase request tag.base < tag.base + tag.uSize) :
    ∃ spansAfter,
      Layout (front ++ (frontPiece request tag ++ [rearPiece request tag]) ++
        back) spansAfter ∧ SameExtents spansAfter spans := by
  have stretch : Layout (front ++ tag :: ([] ++ back)) spans := layout
  have bounds := layout.segment_bounds (by simp) segment
  have spec := alignedBase_spec request (show tag.base ≤ addressLimit by omega)
  apply stretch.replace
  · intro entry member
    rw [mem_singleton.mp member]
    exact segment
  · rintro start stop ⟨atStart, positive, ends⟩
    have last : start + tag.uSize = stop := ends
    subst atStart
    unfold frontPiece
    by_cases gap : tag.base < alignedBase request tag.base
    · rw [if_pos gap]
      refine ⟨rfl, by simp only; omega, ?_, by simp only [rearPiece]; omega, ?_⟩
      · simp only [rearPiece]
        omega
      · simp only [rearPiece, Tiles]
        omega
    · rw [if_neg gap]
      refine ⟨by simp only [rearPiece]; omega,
        by simp only [rearPiece]; omega, ?_⟩
      simp only [rearPiece, Tiles]
      omega
  · intro entry member
    rcases List.mem_append.mp member with isFront | isRear
    · unfold frontPiece at isFront
      split at isFront
      · rw [mem_singleton.mp isFront]
        exact ⟨segment, rfl⟩
      · exact absurd isFront not_mem_nil
    · rw [mem_singleton.mp isRear]
      exact ⟨segment, rfl⟩

/-- Cutting a segment around the block keeps the layout. -/
theorem Layout.cut
    (layout : Layout (front ++ tag :: back) spans)
    (segment : tag.type ≠ .span)
    (positive : 0 < request.uSize.toNat)
    (fits : blockEnd request tag ≤ tag.base + tag.uSize) :
    ∃ spansAfter,
      Layout (front ++ (frontPiece request tag ++
        block request tag :: backPiece request tag) ++ back) spansAfter ∧
          SameExtents spansAfter spans := by
  have stretch : Layout (front ++ tag :: ([] ++ back)) spans := layout
  have bounds := layout.segment_bounds (by simp) segment
  have spec := alignedBase_spec request (show tag.base ≤ addressLimit by omega)
  apply stretch.replace
  · intro entry member
    rw [mem_singleton.mp member]
    exact segment
  · rintro start stop ⟨atStart, _, ends⟩
    have last : start + tag.uSize = stop := ends
    subst atStart
    rw [tiles_append]
    refine ⟨alignedBase request tag.base, ?_, rfl, positive, ?_⟩
    · unfold frontPiece
      split
      · refine ⟨rfl, by simp only; omega, ?_⟩
        simp only [Tiles]
        omega
      · simp only [Tiles]
        omega
    · unfold backPiece
      unfold blockEnd at *
      split
      · refine ⟨rfl, by simp only; omega, ?_⟩
        simp only [Tiles, block]
        omega
      · simp only [Tiles, block]
        omega
  · intro entry member
    simp only [List.mem_append, mem_cons] at member
    rcases member with isFront | rfl | isBack
    · unfold frontPiece at isFront
      split at isFront
      · rw [mem_singleton.mp isFront]
        exact ⟨segment, rfl⟩
      · exact absurd isFront not_mem_nil
    · exact ⟨by simp [block], rfl⟩
    · unfold backPiece at isBack
      split at isBack
      · rw [mem_singleton.mp isBack]
        exact ⟨segment, rfl⟩
      · exact absurd isBack not_mem_nil

/-! ## Coalesced segments -/

/-- No two neighbouring segments are free. -/
def Coalesced (tags : List Bt) : Prop :=
  tags.IsChain fun first second => ¬(first.type = .free ∧ second.type = .free)

instance (tags : List Bt) : Decidable (Coalesced tags) :=
  inferInstanceAs (Decidable (tags.IsChain _))

theorem coalesced_append :
    Coalesced (front ++ back) ↔ Coalesced front ∧ Coalesced back ∧
      ∀ last ∈ front.getLast?, ∀ first ∈ back.head?,
        ¬(last.type = .free ∧ first.type = .free) :=
  List.isChain_append

/-- A segment between two that are not free. -/
theorem coalesced_middle
    (inFront : Coalesced front)
    (behind : Coalesced back)
    (last : ∀ other ∈ front.getLast?, other.type ≠ .free)
    (first : ∀ other ∈ back.head?, other.type ≠ .free) :
    Coalesced (front ++ tag :: back) := by
  refine coalesced_append.mpr ⟨inFront, ?_, ?_⟩
  · apply List.IsChain.cons behind
    exact fun other isFirst both => first other isFirst both.2
  · exact fun other isLast _ _ both => last other isLast both.1

/-- The neighbours of a free segment are not free. -/
theorem Coalesced.neighbours
    (coalesced : Coalesced (front ++ tag :: back))
    (free : tag.type = .free) :
    (∀ other ∈ front.getLast?, other.type ≠ .free) ∧
      ∀ other ∈ back.head?, other.type ≠ .free := by
  obtain ⟨_, behind, between⟩ := coalesced_append.mp coalesced
  refine ⟨fun other isLast isFree => ?_, fun other isFirst isFree => ?_⟩
  · exact between other isLast tag rfl ⟨isFree, free⟩
  · exact (isChain_cons.mp behind).1 other isFirst ⟨free, isFree⟩

theorem Coalesced.absorbPrev
    (coalesced : Coalesced front)
    (tag : Bt) :
    Coalesced (absorbPrev front tag).1 ∧
      ∀ last ∈ (Arena.absorbPrev front tag).1.getLast?, last.type ≠ .free := by
  rcases absorbPrev_cases front tag with
    ⟨others, other, rfl, free, joined⟩ | ⟨last, kept⟩
  · rw [joined]
    exact ⟨(coalesced_append.mp coalesced).1, (coalesced.neighbours free).1⟩
  · rw [kept]
    exact ⟨coalesced, last⟩

theorem Coalesced.absorbNext
    (coalesced : Coalesced back)
    (tag : Bt) :
    Coalesced (absorbNext tag back).2 ∧
      ∀ first ∈ (Arena.absorbNext tag back).2.head?, first.type ≠ .free := by
  rcases absorbNext_cases tag back with
    ⟨other, others, rfl, free, joined⟩ | ⟨first, kept⟩
  · rw [joined]
    have atFront : Coalesced ([] ++ other :: others) := coalesced
    exact ⟨(isChain_cons.mp coalesced).2, (atFront.neighbours free).2⟩
  · rw [kept]
    exact ⟨coalesced, first⟩

section

variable (layout : Layout (front ++ tag :: back) spans)
  (segment : tag.type ≠ .span) (inFront : Coalesced front)
include layout segment inFront

/-- A joined segment that becomes free has no free neighbours, nor has what
its span leaves behind. -/
theorem Layout.settledTags_coalesced
    (behind : Coalesced back)
    (last : ∀ other ∈ front.getLast?, other.type ≠ .free)
    (first : ∀ other ∈ back.head?, other.type ≠ .free) :
    Coalesced (Arena.settledTags front tag back) := by
  unfold Arena.settledTags
  by_cases between : BetweenMarkers front back
  · rw [if_pos between]
    obtain ⟨others, start, stop, rest, rfl, rfl, startMarker, stopMarker⟩ :=
      between.split
    rw [append_assoc] at layout
    obtain ⟨_, _, _, _, _, _, _, ends⟩ :=
      layout.dropSpan startMarker segment stopMarker
    rw [List.dropLast_concat, List.tail_cons]
    refine coalesced_append.mpr
      ⟨(coalesced_append.mp inFront).1, (isChain_cons.mp behind).2, ?_⟩
    intro other isLast _ _ both
    have marker := ends other isLast
    rw [both.1] at marker
    cases marker
  · rw [if_neg between]
    exact coalesced_middle inFront behind last first

/-- Freeing a segment leaves no free neighbours. -/
theorem Layout.freedTags_coalesced
    (behind : Coalesced back) :
    Coalesced (Arena.freedTags front tag back) := by
  obtain ⟨joined, layoutJoined, _, typeJoined⟩ := layout.coalesce segment
  have prev := inFront.absorbPrev tag
  have next := behind.absorbNext (Arena.absorbPrev front tag).2
  apply layoutJoined.settledTags_coalesced _ prev.1 next.1 prev.2 next.2
  rw [typeJoined]
  exact segment

end

/-- Cutting a block out of a segment leaves no free neighbours. -/
theorem Coalesced.cut
    (coalesced : Coalesced (front ++ tag :: back))
    (free : tag.type = .free) :
    Coalesced (front ++ (frontPiece request tag ++
      block request tag :: backPiece request tag) ++ back) := by
  have around := coalesced.neighbours free
  obtain ⟨inFront, behind, _⟩ := coalesced_append.mp coalesced
  have behindTag := (isChain_cons.mp behind).2
  have frontCut : Coalesced (front ++ frontPiece request tag) := by
    unfold frontPiece
    split
    · exact coalesced_middle inFront List.isChain_nil around.1 (by simp)
    · rw [List.append_nil]
      exact inFront
  have backCut : Coalesced (backPiece request tag ++ back) := by
    unfold backPiece
    split
    · have nothing : Coalesced [] := List.isChain_nil
      exact coalesced_middle nothing behindTag (by simp) around.2
    · exact behindTag
  rw [← append_assoc, append_assoc, List.cons_append]
  refine coalesced_append.mpr ⟨frontCut, ?_, ?_⟩
  · apply List.IsChain.cons backCut
    rintro other _ ⟨isLive, _⟩
    cases isLive
  · rintro last _ first isFirst ⟨_, isFree⟩
    cases isFirst
    cases isFree

/-- Freeing a block joins what its allocation cut, unless a free neighbour
touches the block. -/
theorem coalesce_cut
    (free : tag.type = .free)
    (last : ¬tag.base < alignedBase request tag.base →
      ∀ other ∈ front.getLast?, other.type ≠ .free)
    (first : ¬blockEnd request tag < tag.base + tag.uSize →
      ∀ other ∈ back.head?, other.type ≠ .free)
    (above : tag.base ≤ alignedBase request tag.base)
    (fits : blockEnd request tag ≤ tag.base + tag.uSize) :
    coalesce (front ++ frontPiece request tag) (block request tag)
        (backPiece request tag ++ back) =
      (front, { tag with type := .live }, back) := by
  have joinedFront : absorbPrev (front ++ frontPiece request tag)
      (block request tag) = (front,
        { tag with
          type := .live
          uSize := blockEnd request tag - tag.base }) := by
    unfold frontPiece
    by_cases cutsFront : tag.base < alignedBase request tag.base
    · rw [if_pos cutsFront, absorbPrev_free (by exact free)]
      simp only [block, blockEnd, Prod.mk.injEq, Bt.mk.injEq, true_and,
        and_true]
      omega
    · rw [if_neg cutsFront, List.append_nil, absorbPrev_kept (last cutsFront)]
      simp only [block, blockEnd, Prod.mk.injEq, Bt.mk.injEq, true_and,
        and_true]
      omega
  have joinedBack : absorbNext
      { tag with type := .live, uSize := blockEnd request tag - tag.base }
        (backPiece request tag ++ back) =
          ({ tag with type := .live }, back) := by
    unfold backPiece
    have reached : tag.base ≤ blockEnd request tag := by
      unfold blockEnd
      omega
    by_cases cutsBack : blockEnd request tag < tag.base + tag.uSize
    · rw [if_pos cutsBack, List.singleton_append,
        absorbNext_free (by exact free)]
      simp only [Prod.mk.injEq, Bt.mk.injEq, true_and, and_true]
      omega
    · rw [if_neg cutsBack, List.nil_append, absorbNext_kept (first cutsBack)]
      simp only [Prod.mk.injEq, Bt.mk.injEq, true_and, and_true]
      omega
  rw [coalesce, joinedFront, joinedBack]

end PvrServices.Arena
