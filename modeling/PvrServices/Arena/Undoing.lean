import PvrServices.Arena.ImportSizing

/-!
# Freeing what was allocated

Freeing a block of a coalesced arena joins exactly the pieces that its
allocation cut, and a span that was imported for it goes back.  Only a block
of an imported span that was free as a whole is different: the span goes back
although it was there before the allocation.
-/

namespace PvrServices.Arena

open RaArena
open List (append_nil getLast?_concat isChain_cons mem_append mem_cons
  mem_cons_self nil_append pairwise_append pairwise_cons)

variable {arena after linked : RaArena} {request : Request} {answers : Answers}
  {front back : List Bt} {tag contents : Bt} {spans : List Span}
  {span : Import}

/-! ## Freeing a live segment -/

/-- Segments that overlap are at one place among the tags. -/
theorem Layout.split_unique
    {frontOther backOther : List Bt}
    {other : Bt}
    (layout : Layout (front ++ tag :: back) spans)
    (segment : tag.type ≠ .span)
    (otherSegment : other.type ≠ .span)
    (starts : tag.base < other.base + other.uSize)
    (ends : other.base < tag.base + tag.uSize)
    (same : front ++ tag :: back = frontOther ++ other :: backOther) :
    frontOther = front ∧ other = tag ∧ backOther = back := by
  have ordered := layout.pairwise
  rcases List.append_eq_append_iff.mp same with
    ⟨middle, frontEq, backEq⟩ | ⟨middle, frontEq, backEq⟩
  · cases middle with
    | nil =>
      rw [append_nil] at frontEq
      rw [nil_append, List.cons.injEq] at backEq
      exact ⟨frontEq, backEq.1.symm, backEq.2.symm⟩
    | cons first rest =>
      rw [List.cons_append, List.cons.injEq] at backEq
      have later : other ∈ back := by
        rw [backEq.2]
        simp
      have behind := (pairwise_append.mp ordered).2.1
      have apart := ((pairwise_cons.mp behind).1 other later).2 segment
      omega
  · cases middle with
    | nil =>
      rw [append_nil] at frontEq
      rw [nil_append, List.cons.injEq] at backEq
      exact ⟨frontEq.symm, backEq.1, backEq.2⟩
    | cons first rest =>
      rw [List.cons_append, List.cons.injEq] at backEq
      have earlier : other ∈ front := by
        rw [frontEq, backEq.1]
        simp
      have across := (pairwise_append.mp ordered).2.2
      have apart := (across other earlier tag mem_cons_self).2 otherSegment
      omega

/-- `RA_Free` of a live segment, on the tags and around them. -/
theorem raFree_live
    (invariant : Invariant arena)
    (tagsEq : arena.tags = front ++ tag :: back)
    (isLive : tag.type = .live)
    (bFreeBackingStore : Bool) :
    Invariant (arena.raFree tag.base bFreeBackingStore) ∧
      (arena.raFree tag.base bFreeBackingStore).tags =
          freedTags front tag back ∧
        Frees
          { arena with
            pSegmentHash := Function.update arena.pSegmentHash tag.base none }
          (arena.raFree tag.base bFreeBackingStore)
          (givenBack front tag back)
          (freedRange arena bFreeBackingStore tag
            (coalesce front tag back).2.1) := by
  have segment : tag.type ≠ .span := by
    rw [isLive]
    simp
  have member : tag ∈ arena.tags := by
    rw [tagsEq]
    simp
  obtain ⟨pBT, listed, btEq⟩ := List.mem_map.mp member
  have found : arena.pSegmentHash tag.base = some pBT := by
    apply (invariant.consistent.hashed tag.base pBT).mpr
    rw [btEq]
    exact ⟨listed, isLive, rfl⟩
  obtain ⟨frontFound, backFound, foundEq, _, _, afterInvariant, afterTags,
    frees⟩ := raFree_spec invariant found bFreeBackingStore
  obtain ⟨spans, sound⟩ := invariant
  have layout : Layout arena.tags spans := sound.layout
  rw [tagsEq] at layout foundEq
  rw [btEq] at foundEq afterTags frees
  have positive := (layout.segment_bounds (by simp) segment).1
  obtain ⟨rfl, _, rfl⟩ := layout.split_unique segment segment
    (Nat.lt_add_of_pos_right positive) (Nat.lt_add_of_pos_right positive)
      foundEq
  exact ⟨afterInvariant, afterTags, frees⟩

/-! ## The last live segment of a span -/

/-- The live segment at the base is the only one of its imported span. -/
def LastLive (tags : List Bt) (base : Nat) : Prop :=
  ∃ front start body stop back, tags = front ++ start :: body ++ stop :: back ∧
    start.type = .span ∧ stop.type = .span ∧
      (∀ tag ∈ body, tag.type ≠ .span) ∧
        (∃ tag ∈ body, tag.type = .live ∧ tag.base = base) ∧
          ∀ tag ∈ body, tag.type = .live → tag.base = base

/-- Joining takes a free segment in front at most. -/
theorem absorbPrev_split
    (front : List Bt)
    (tag : Bt) :
    ∃ piece, front = (absorbPrev front tag).1 ++ piece ∧
      ∀ other ∈ piece, other.type = .free := by
  rcases absorbPrev_cases front tag with
    ⟨others, other, rfl, free, joined⟩ | ⟨_, kept⟩
  · rw [joined]
    refine ⟨[other], rfl, ?_⟩
    intro entry member
    rw [List.mem_singleton.mp member]
    exact free
  · rw [kept]
    exact ⟨[], (append_nil _).symm, by simp⟩

/-- Joining takes a free segment behind at most. -/
theorem absorbNext_split
    (tag : Bt)
    (back : List Bt) :
    ∃ piece, back = piece ++ (absorbNext tag back).2 ∧
      ∀ other ∈ piece, other.type = .free := by
  rcases absorbNext_cases tag back with
    ⟨other, others, rfl, free, joined⟩ | ⟨_, kept⟩
  · rw [joined]
    refine ⟨[other], rfl, ?_⟩
    intro entry member
    rw [List.mem_singleton.mp member]
    exact free
  · rw [kept]
    exact ⟨[], rfl, by simp⟩

/-- A run of free segments of a coalesced arena is a single one. -/
theorem Coalesced.free_run
    {run : List Bt}
    (coalesced : Coalesced run)
    (free : ∀ tag ∈ run, tag.type = .free) :
    run = [] ∨ ∃ tag, run = [tag] := by
  match run with
  | [] => exact Or.inl rfl
  | [tag] => exact Or.inr ⟨tag, rfl⟩
  | first :: second :: rest =>
    refine absurd ⟨free first mem_cons_self, free second ?_⟩
      ((isChain_cons.mp coalesced).1 second rfl)
    exact List.mem_cons_of_mem _ mem_cons_self

/-- Behind a marker, joining takes the free segments in front. -/
theorem Coalesced.absorbPrev_run
    {start : Bt}
    {left : List Bt}
    (coalesced : Coalesced left)
    (free : ∀ other ∈ left, other.type = .free)
    (marker : start.type = .span)
    (front : List Bt)
    (tag : Bt) :
    (Arena.absorbPrev (front ++ start :: left) tag).1 = front ++ [start] := by
  rcases coalesced.free_run free with rfl | ⟨other, rfl⟩
  · rw [absorbPrev_kept]
    intro last isLast
    rw [getLast?_concat] at isLast
    cases isLast
    rw [marker]
    simp
  · rw [List.append_cons, absorbPrev_free (free other mem_cons_self)]

/-- In front of a marker, joining takes the free segments behind. -/
theorem Coalesced.absorbNext_run
    {stop : Bt}
    {right : List Bt}
    (coalesced : Coalesced right)
    (free : ∀ other ∈ right, other.type = .free)
    (marker : stop.type = .span)
    (tag : Bt)
    (back : List Bt) :
    (Arena.absorbNext tag (right ++ stop :: back)).2 = stop :: back := by
  rcases coalesced.free_run free with rfl | ⟨other, rfl⟩
  · rw [nil_append, absorbNext_kept]
    intro first isFirst
    cases isFirst
    rw [marker]
    simp
  · rw [List.singleton_append, absorbNext_free (free other mem_cons_self)]

theorem settledSpan_isSome
    (front : List Bt)
    (tag : Bt)
    (back : List Bt) :
    (settledSpan front tag back).isSome ↔ BetweenMarkers front back := by
  unfold settledSpan
  by_cases between : BetweenMarkers front back
  · rw [if_pos between]
    exact iff_of_true rfl between
  · rw [if_neg between]
    exact iff_of_false (by simp) between

theorem eq_of_settledSpan
    {extent : Extent}
    (given : extent ∈ settledSpan front tag back) :
    extent = ⟨tag.base, tag.uSize, tag.psMapping⟩ := by
  unfold settledSpan at given
  split at given
  · exact (Option.some.inj given).symm
  · cases given

/-- In a coalesced arena, freeing a segment gives its span back just when it is
the last live one of an imported span. -/
theorem givenBack_iff
    (layout : Layout (front ++ tag :: back) spans)
    (coalesced : Coalesced (front ++ tag :: back))
    (isLive : tag.type = .live) :
    (givenBack front tag back).isSome ↔
      LastLive (front ++ tag :: back) tag.base := by
  have segment : tag.type ≠ .span := by
    rw [isLive]
    simp
  have given : (givenBack front tag back).isSome ↔
      BetweenMarkers (absorbPrev front tag).1
        (absorbNext (absorbPrev front tag).2 back).2 :=
    settledSpan_isSome _ _ _
  rw [given]
  constructor
  · intro between
    obtain ⟨left, frontEq, leftFree⟩ := absorbPrev_split front tag
    obtain ⟨right, backEq, rightFree⟩ :=
      absorbNext_split (absorbPrev front tag).2 back
    obtain ⟨others, start, stop, rest, startEq, stopEq, startMarker,
      stopMarker⟩ := between.split
    rw [startEq] at frontEq
    rw [stopEq] at backEq
    refine ⟨others, start, left ++ tag :: right, stop, rest, ?_, startMarker,
      stopMarker, ?_, ⟨tag, by simp, isLive, rfl⟩, ?_⟩
    · rw [frontEq, backEq]
      simp
    · intro entry member
      rcases mem_append.mp member with inLeft | rest
      · rw [leftFree entry inLeft]
        simp
      · rcases mem_cons.mp rest with rfl | inRight
        · exact segment
        · rw [rightFree entry inRight]
          simp
    · intro entry member entryLive
      rcases mem_append.mp member with inLeft | rest
      · rw [leftFree entry inLeft] at entryLive
        cases entryLive
      · rcases mem_cons.mp rest with rfl | inRight
        · rfl
        · rw [rightFree entry inRight] at entryLive
          cases entryLive
  · rintro ⟨before, start, body, stop, behind, tagsEq, startMarker, stopMarker,
      segments, ⟨last, lastMember, lastLive, lastBase⟩, only⟩
    obtain ⟨left, right, rfl⟩ := List.append_of_mem lastMember
    have sameTags : front ++ tag :: back =
        (before ++ start :: left) ++ last :: (right ++ stop :: behind) := by
      rw [tagsEq]
      simp
    have lastSegment : last.type ≠ .span := by
      rw [lastLive]
      simp
    have positive := (layout.segment_bounds (by simp) segment).1
    have lastPositive := (layout.segment_bounds
      (by rw [sameTags]; simp) lastSegment).1
    obtain ⟨frontEq, rfl, backEq⟩ := layout.split_unique segment lastSegment
      (by omega) (by omega) sameTags
    subst frontEq backEq
    obtain ⟨_, behindOrdered, across⟩ := pairwise_append.mp layout.pairwise
    have free : ∀ other ∈ left ++ last :: right, other.base ≠ last.base →
        other.type = .free := by
      intro other member different
      cases typeEq : other.type with
      | span => exact absurd typeEq (segments other member)
      | free => rfl
      | live => exact absurd (only other member typeEq) different
    have leftFree : ∀ other ∈ left, other.type = .free := by
      intro other member
      have isSegment := segments other (by simp [member])
      have size := (layout.segment_bounds (by simp [member]) isSegment).1
      have ends := (across other (by simp [member]) last
        mem_cons_self).2 isSegment
      exact free other (by simp [member]) (by omega)
    have rightFree : ∀ other ∈ right, other.type = .free := by
      intro other member
      have ends := ((pairwise_cons.mp behindOrdered).1 other
        (by simp [member])).2 segment
      exact free other (by simp [member]) (by omega)
    obtain ⟨inFront, behindTag, _⟩ := coalesced_append.mp coalesced
    have leftCoalesced : Coalesced left :=
      (isChain_cons.mp (coalesced_append.mp inFront).2.1).2
    have rightCoalesced : Coalesced right :=
      (coalesced_append.mp (isChain_cons.mp behindTag).2).1
    rw [leftCoalesced.absorbPrev_run leftFree startMarker,
      rightCoalesced.absorbNext_run rightFree stopMarker]
    constructor
    · rw [getLast?_concat, Option.map_some, startMarker]
    · rw [List.head?_cons, Option.map_some, stopMarker]

/-- A span that is given back no longer covers its addresses. -/
theorem Layout.uncovered
    (layout : Layout (front ++ tag :: back) spans)
    (segment : tag.type ≠ .span)
    (given : (givenBack front tag back).isSome) :
    ∀ other ∈ Arena.freedTags front tag back, other.type ≠ .span →
      other.base + other.uSize ≤ tag.base ∨ tag.base < other.base := by
  obtain ⟨_, layoutJoined, _, typeJoined⟩ := layout.coalesce segment
  obtain ⟨starts, ends⟩ := layout.coalesce_bounds segment
  have size := (layout.segment_bounds (by simp) segment).1
  rw [givenBack, settledSpan_isSome] at given
  rw [Arena.freedTags, Arena.settledTags, if_pos given]
  have mergedSegment : (Arena.coalesce front tag back).2.1.type ≠ .span := by
    rw [typeJoined]
    exact segment
  obtain ⟨_, behind, across⟩ := pairwise_append.mp layoutJoined.pairwise
  intro other member isSegment
  rcases mem_append.mp member with inFront | inBack
  · have ordered := (across other (List.dropLast_subset _ inFront) _
      mem_cons_self).2 isSegment
    exact Or.inl (by omega)
  · have ordered := ((pairwise_cons.mp behind).1 other
      (List.mem_of_mem_tail inBack)).2 mergedSegment
    exact Or.inr (by omega)

/-! ## Undoing an allocation -/

/-- A free segment that becomes free again is as before, unless its span
leaves. -/
theorem settledTags_free
    (free : tag.type = .free)
    (front back : List Bt) :
    settledTags front tag back =
      if BetweenMarkers front back then front.dropLast ++ back.tail
      else front ++ tag :: back := by
  rw [settledTags, ← free]

/-- Freeing the block that an attempt took settles the segment that it came
from. -/
theorem Attempted.undone
    {found : RaArena}
    {attemptAnswers : AttemptAnswers}
    {allocation : Allocation}
    (attempt : Attempted found after request attemptAnswers found.tags
      after.tags (some allocation))
    (invariant : Invariant found)
    (coalesced : Coalesced found.tags)
    (afterInvariant : Invariant after)
    (bFreeBackingStore : Bool) :
    ∃ front tag back, found.tags = front ++ tag :: back ∧ tag.type = .free ∧
      Fits request tag ∧ tag.base ≤ allocation.base ∧
        allocation.base + request.uSize.toNat ≤ tag.base + tag.uSize ∧
          allocation.psMapping = tag.psMapping ∧
            (after.raFree allocation.base bFreeBackingStore).tags =
                settledTags front tag back ∧
              (after.raFree allocation.base bFreeBackingStore).importFrees =
                  found.importFrees ++ ((settledSpan front tag back).map
                    fun extent => (extent.base, extent.psMapping)).toList ∧
                ((settledSpan front tag back).isSome ↔
                  LastLive after.tags allocation.base) := by
  obtain ⟨spans, sound⟩ := invariant
  have layout : Layout found.tags spans := sound.layout
  generalize foundTags : found.tags = tags at *
  generalize allocated : after.tags = tagsAfter at *
  cases attempt with
  | @taken front back _ contents _ free fits taken =>
    have segment : contents.type ≠ .span := by simp [free]
    obtain ⟨room, above⟩ := fits.block_inside layout segment
    have around := coalesced.neighbours free
    have tagsEq : after.tags = (front ++ frontPiece request contents) ++
        block request contents :: (backPiece request contents ++ back) := by
      rw [allocated, taken.tags_eq]
      simp
    have joined := coalesce_cut free (fun _ => around.1) (fun _ => around.2)
      above room
    have givenEq : givenBack (front ++ frontPiece request contents)
        (block request contents) (backPiece request contents ++ back) =
          settledSpan front contents back := by
      rw [givenBack, joined]
      rfl
    obtain ⟨_, freedTagsEq, frees⟩ :=
      raFree_live afterInvariant tagsEq rfl bFreeBackingStore
    obtain ⟨spansAfter, afterSound⟩ := afterInvariant
    have layoutAfter : Layout after.tags spansAfter := afterSound.layout
    have coalescedAfter : Coalesced after.tags := by
      rw [allocated, taken.tags_eq]
      exact coalesced.cut free
    rw [tagsEq] at layoutAfter coalescedAfter
    have given := givenBack_iff layoutAfter coalescedAfter rfl
    have atBase : (block request contents).base = allocation.base :=
      taken.base.symm
    rw [freedTags, joined] at freedTagsEq
    rw [givenEq] at given frees
    rw [atBase] at freedTagsEq given frees
    refine ⟨front, contents, back, rfl, free, fits, ?_, ?_, taken.psMapping,
      freedTagsEq, ?_, ?_⟩
    · rw [taken.base]
      exact above
    · rw [taken.base]
      exact room
    · rw [frees.importFrees]
      exact congrArg (· ++ _) (taken.frees.importFrees.trans (append_nil _))
    · rw [given, ← allocated, tagsEq]

/-- Where the segment of a span that has just been linked in stands. -/
theorem Linked.placed
    (isLinked : Linked arena linked span)
    (layout : Layout linked.tags spans)
    (tagsEq : linked.tags = front ++ span.segment :: back) :
    ∃ before behind, arena.tags = before ++ behind ∧
      front = before ++ [span.extent.startMarker] ∧
        back = span.extent.endMarker :: behind := by
  obtain ⟨before, behind, arenaEq, linkedEq⟩ := isLinked.tags
  have placed : linked.tags =
      (before ++ [span.extent.startMarker]) ++ span.segment ::
        (span.extent.endMarker :: behind) := by
    rw [linkedEq]
    simp [Span.tags, Span.opening, Span.closing, Extent.freshSpan,
      Import.segment, Import.extent]
  have segment : span.segment.type ≠ .span := by
    simp [Import.segment]
  rw [tagsEq] at layout placed
  have size := (layout.segment_bounds (by simp) segment).1
  obtain ⟨frontEq, _, backEq⟩ := layout.split_unique segment segment
    (by omega) (by omega) placed
  exact ⟨before, behind, arenaEq, frontEq.symm, backEq.symm⟩

theorem between_markers
    (extent : Extent)
    (before behind : List Bt) :
    BetweenMarkers (before ++ [extent.startMarker])
      (extent.endMarker :: behind) := by
  constructor
  · rw [getLast?_concat]
    rfl
  · rfl

/-- A block of a span that has just been linked in takes the span with it when
it is freed. -/
theorem Linked.freed_whole
    (isLinked : Linked arena linked span)
    (layout : Layout (front ++ span.segment :: back) spans)
    (tagsEq : linked.tags = front ++ span.segment :: back)
    (fits : Fits request span.segment) :
    freedTags (front ++ frontPiece request span.segment)
          (block request span.segment)
          (backPiece request span.segment ++ back) = arena.tags ∧
      givenBack (front ++ frontPiece request span.segment)
          (block request span.segment)
          (backPiece request span.segment ++ back) = some span.extent := by
  have linkedLayout : Layout linked.tags spans := by
    rw [tagsEq]
    exact layout
  obtain ⟨before, behind, arenaEq, rfl, rfl⟩ :=
    isLinked.placed linkedLayout tagsEq
  obtain ⟨room, above⟩ :=
    fits.block_inside layout (by simp [Import.segment])
  have startKept : ∀ last ∈ (before ++ [span.extent.startMarker]).getLast?,
      last.type ≠ .free := by
    intro last isLast
    rw [getLast?_concat] at isLast
    cases isLast
    simp [Extent.startMarker]
  have stopKept : ∀ first ∈ (span.extent.endMarker :: behind).head?,
      first.type ≠ .free := by
    intro first isFirst
    cases isFirst
    simp [Extent.endMarker]
  have joined := coalesce_cut rfl (fun _ => startKept) (fun _ => stopKept)
    above room
  have between := between_markers span.extent before behind
  constructor
  · rw [freedTags, joined, settledTags, if_pos between, List.dropLast_concat,
      List.tail_cons, arenaEq]
  · rw [givenBack, joined, settledSpan, if_pos between]
    rfl

/-- The base lies in an imported span that is free as a whole. -/
def LeftOver (tags : List Bt) (base : Nat) (front : List Bt) (tag : Bt)
    (back : List Bt) : Prop :=
  tags = front ++ tag :: back ∧ tag.type = .free ∧
    BetweenMarkers front back ∧ tag.base ≤ base ∧ base < tag.base + tag.uSize

/-- No allocation of the call fails. -/
structure Answers.Granted (answers : Answers) : Prop where
  first : answers.first = .granted
  tags : answers.tags = ⟨true, true, true⟩
  second : answers.second = .granted

/-- Freeing a block that a coalesced arena has just allocated restores the
tags, unless the block came from an imported span that was free as a whole,
which goes; a span goes back if it was imported for the block or the block was
its last live segment. -/
theorem raFree_raAlloc
    {allocation : Allocation}
    (invariant : Invariant arena)
    (coalesced : Coalesced arena.tags)
    (positive : 0 < request.uSize.toNat)
    (offers : OffersDisjoint arena request answers)
    (granted : answers.Granted)
    (returned : arena.raAlloc request answers = some (after, some allocation))
    (bFreeBackingStore : Bool) :
    ((∀ front tag back, ¬LeftOver arena.tags allocation.base front tag back) →
        (after.raFree allocation.base bFreeBackingStore).tags = arena.tags) ∧
      (∀ front tag back, LeftOver arena.tags allocation.base front tag back →
        (after.raFree allocation.base bFreeBackingStore).tags =
          front.dropLast ++ back.tail) ∧
        ∃ given : Option Extent,
          (after.raFree allocation.base bFreeBackingStore).importFrees =
              arena.importFrees ++ (given.map
                fun extent => (extent.base, extent.psMapping)).toList ∧
            (∀ extent ∈ given, extent.psMapping = allocation.psMapping ∧
              extent.base ≤ allocation.base ∧
                allocation.base + request.uSize.toNat ≤
                  extent.base + extent.uSize) ∧
              (given.isSome ↔
                (∃ middle, arena.attemptAllocAligned request answers.first =
                  some (middle, none)) ∨
                    LastLive after.tags allocation.base) := by
  have kept := invariant
  obtain ⟨spans, sound⟩ := invariant
  have layout : Layout arena.tags spans := sound.layout
  obtain ⟨last, result, allAfter, spansAfter, called, lastSound, allocated⟩ :=
    raAlloc_spec sound positive offers
  rw [returned] at called
  cases called
  cases allocated with
  | direct attempt attempted =>
    obtain ⟨front, tag, back, tagsEq, free, _, above, below, mapping,
      freedEq, importFrees, isLast⟩ :=
      attempt.undone kept coalesced lastSound.invariant bFreeBackingStore
    have segment : tag.type ≠ .span := by
      rw [free]
      simp
    rw [settledTags_free free] at freedEq
    refine ⟨?_, ?_, settledSpan front tag back, importFrees, ?_, ?_⟩
    · intro noLeftOver
      rw [freedEq, if_neg, tagsEq]
      intro between
      exact noLeftOver front tag back
        ⟨tagsEq, free, between, above, by omega⟩
    · rintro frontOver tagOver backOver
        ⟨overEq, overFree, between, overAbove, overBelow⟩
      rw [tagsEq] at layout overEq
      obtain ⟨rfl, rfl, rfl⟩ := layout.split_unique segment
        (by rw [overFree]; simp) (by omega) (by omega) overEq
      rw [freedEq, if_pos between]
    · intro extent given
      rw [eq_of_settledSpan given]
      exact ⟨mapping.symm, above, below⟩
    · rw [isLast]
      refine ⟨Or.inr, ?_⟩
      rintro (⟨middle, failed⟩ | lastLive)
      · rw [attempted] at failed
        cases failed
      · exact lastLive
  | @linked middle linked span _ attempt handed _ _ isLinked linkedInvariant
      second attempted =>
    obtain ⟨_, result, completeEq, refused, _⟩ := attempt_complete kept request
    rw [granted.first, completeEq] at attempted
    cases attempted
    obtain ⟨rfl, unfit⟩ := refused rfl
    have offered := offers middle
      (by rw [granted.first, completeEq]) span handed
    obtain ⟨linkedSpans, linkedSound⟩ := linkedInvariant
    have linkedLayout : Layout linked.tags linkedSpans := linkedSound.layout
    obtain ⟨front, tag, back, tagsEq, free, fits, above, below, mapping,
      freedEq, importFrees, isLast⟩ :=
      second.undone linkedSound.invariant (isLinked.coalesced coalesced)
        lastSound.invariant bFreeBackingStore
    have segment : tag.type ≠ .span := by
      rw [free]
      simp
    have isFresh : tag = span.segment := by
      have member : tag ∈ linked.tags := by
        rw [tagsEq]
        simp
      rcases (isLinked.mem tag).mp member with old | new
      · exact absurd fits (unfit tag old free)
      · exact span.free_of_fresh new free
    subst isFresh
    obtain ⟨before, behind, arenaEq, rfl, rfl⟩ :=
      isLinked.placed linkedLayout tagsEq
    have between := between_markers span.extent before behind
    have restored : (after.raFree allocation.base bFreeBackingStore).tags =
        middle.tags := by
      rw [freedEq, settledTags_free free, if_pos between, arenaEq,
        List.dropLast_concat, List.tail_cons]
    refine ⟨fun _ => restored, ?_, _,
      importFrees.trans (congrArg (· ++ _) isLinked.others.2.2.2.2.1), ?_, ?_⟩
    · rintro frontOver tagOver backOver
        ⟨overEq, overFree, _, overAbove, overBelow⟩
      have overMember : tagOver ∈ middle.tags := by
        rw [overEq]
        simp
      have apart := offered.disjoint tagOver overMember (by
        rw [overFree]
        simp)
      simp only [Import.segment] at above below
      omega
    · intro extent given
      rw [eq_of_settledSpan given]
      exact ⟨mapping.symm, above, below⟩
    · rw [isLast]
      refine ⟨Or.inr, fun _ => isLast.mp ?_⟩
      exact (settledSpan_isSome _ _ _).mpr between

/-- Freeing the first page of `importingArena` gives the imported span back. -/
theorem raFree_raAlloc_firstPage :
    (allocatedArena.raFree firstPage.base true).tags = importingArena.tags := by
  have returned : importingArena.raAlloc pageRequest twoPages =
      some (allocatedArena, some firstPage) := rfl
  apply (raFree_raAlloc importingArena_invariant List.isChain_nil (by decide)
    importingArena_offers ⟨rfl, rfl, rfl⟩ returned true).1
  rintro front tag back ⟨tagsEq, _⟩
  have none : importingArena.tags = [] := rfl
  rw [none] at tagsEq
  exact List.append_ne_nil_of_right_ne_nil front (by simp) tagsEq.symm

/-- The arena that an import which could not be used leaves behind. -/
def leftOverArena : RaArena :=
  ((importingArena.raAlloc unevenRequest (supplying importedPage)).map
    Prod.fst).getD importingArena

/-- Freeing a page of the span that was left over gives the span back. -/
theorem raFree_raAlloc_leftOver :
    Invariant leftOverArena ∧ Coalesced leftOverArena.tags ∧
      OffersDisjoint leftOverArena pageRequest twoPages ∧ twoPages.Granted ∧
        ∃ after allocation, leftOverArena.raAlloc pageRequest twoPages =
            some (after, some allocation) ∧
          (after.raFree allocation.base true).tags ≠ leftOverArena.tags := by
  have permitted : Call.Permitted importingArena
      (.alloc unevenRequest (supplying importedPage)) :=
    ⟨by decide, importedPage_offers⟩
  obtain ⟨after, called, invariant, _⟩ :=
    call_spec importingArena_invariant permitted
  have allocated : importingArena.call
      (.alloc unevenRequest (supplying importedPage)) =
        some leftOverArena := rfl
  rw [allocated] at called
  cases called
  refine ⟨invariant, by decide, ?_, ⟨rfl, rfl, rfl⟩, _, _, rfl, by decide⟩
  intro middle attempt
  have served : (leftOverArena.attemptAllocAligned pageRequest
      twoPages.first).map Prod.snd = some (some ⟨4096, some ⟨1, 0⟩⟩) := rfl
  rw [attempt] at served
  cases served

end PvrServices.Arena
