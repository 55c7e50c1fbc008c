import PvrServices.Arena.Invariant

/-!
# What an allocation returns

A successful allocation takes its block out of one free segment that fits, and
the live segments of the arena are those of before and the block.  An attempt
whose allocations all succeed is refused only if no free segment fits.
-/

namespace PvrServices.Arena

open RaArena

variable {arena after linked : RaArena} {request : Request} {answers : Answers}
  {front back tags tagsAfter : List Bt} {tag contents : Bt}
  {allocation : Allocation} {attemptAnswers : AttemptAnswers} {span : Import}

/-! ## Live segments -/

/-- The live segments among tags. -/
def liveTags (tags : List Bt) : List Bt :=
  tags.filter fun tag => tag.type == .live

theorem liveTags_append
    (front back : List Bt) :
    liveTags (front ++ back) = liveTags front ++ liveTags back :=
  List.filter_append front back

theorem mem_liveTags
    {tags : List Bt} :
    tag ∈ liveTags tags ↔ tag ∈ tags ∧ tag.type = .live := by
  rw [liveTags, List.mem_filter, beq_iff_eq]

theorem liveTags_live
    (isLive : tag.type = .live)
    (back : List Bt) :
    liveTags (tag :: back) = tag :: liveTags back := by
  rw [liveTags, List.filter_cons_of_pos (by simp [isLive])]
  rfl

theorem liveTags_other
    (notLive : tag.type ≠ .live)
    (back : List Bt) :
    liveTags (tag :: back) = liveTags back := by
  rw [liveTags, List.filter_cons_of_neg (by simp [notLive])]
  rfl

theorem liveTags_none
    (notLive : ∀ tag ∈ tags, tag.type ≠ .live) :
    liveTags tags = [] := by
  apply List.filter_eq_nil_iff.mpr
  intro tag member
  simp [notLive tag member]

/-- A segment that is not live does not count among the live ones. -/
theorem liveTags_middle
    (notLive : tag.type ≠ .live)
    (front back : List Bt) :
    liveTags (front ++ tag :: back) = liveTags front ++ liveTags back := by
  rw [liveTags_append, liveTags_other notLive]

private theorem not_live_of_free
    (free : tag.type = .free) :
    tag.type ≠ .live := by
  rw [free]
  simp

private theorem not_live_of_marker
    (marker : tag.type = .span) :
    tag.type ≠ .live := by
  rw [marker]
  simp

theorem liveTags_absorbPrev
    (front : List Bt)
    (tag : Bt) :
    liveTags (absorbPrev front tag).1 = liveTags front := by
  rcases absorbPrev_cases front tag with
    ⟨others, other, rfl, free, joined⟩ | ⟨_, kept⟩
  · rw [joined, liveTags_middle (not_live_of_free free)]
    exact (List.append_nil _).symm
  · rw [kept]

theorem liveTags_absorbNext
    (tag : Bt)
    (back : List Bt) :
    liveTags (absorbNext tag back).2 = liveTags back := by
  rcases absorbNext_cases tag back with
    ⟨other, others, rfl, free, joined⟩ | ⟨_, kept⟩
  · rw [joined, liveTags_other (not_live_of_free free)]
  · rw [kept]

theorem liveTags_settledTags
    (front : List Bt)
    (tag : Bt)
    (back : List Bt) :
    liveTags (settledTags front tag back) =
      liveTags front ++ liveTags back := by
  unfold settledTags
  by_cases between : BetweenMarkers front back
  · rw [if_pos between]
    obtain ⟨others, prev, next, rest, rfl, rfl, prevMarker, nextMarker⟩ :=
      between.split
    rw [List.dropLast_concat, List.tail_cons, liveTags_append,
      liveTags_middle (not_live_of_marker prevMarker),
      liveTags_other (not_live_of_marker nextMarker)]
    exact congrArg (· ++ _) (List.append_nil _).symm
  · rw [if_neg between, liveTags_middle (by simp)]

/-- Freeing a segment leaves the other live segments. -/
theorem liveTags_freedTags
    (front : List Bt)
    (tag : Bt)
    (back : List Bt) :
    liveTags (freedTags front tag back) = liveTags front ++ liveTags back := by
  rw [freedTags, liveTags_settledTags, coalesce, liveTags_absorbPrev,
    liveTags_absorbNext]

theorem liveTags_frontPiece
    (request : Request)
    (free : contents.type = .free) :
    liveTags (frontPiece request contents) = [] := by
  apply liveTags_none
  intro tag member
  unfold frontPiece at member
  split at member
  · rw [List.mem_singleton.mp member]
    exact not_live_of_free free
  · exact absurd member List.not_mem_nil

theorem liveTags_backPiece
    (request : Request)
    (free : contents.type = .free) :
    liveTags (backPiece request contents) = [] := by
  apply liveTags_none
  intro tag member
  unfold backPiece at member
  split at member
  · rw [List.mem_singleton.mp member]
    exact not_live_of_free free
  · exact absurd member List.not_mem_nil

/-- A segment that gives a block counts among the live ones with the block
only. -/
theorem Taken.live
    (taken : Taken arena after request front contents back tags allocation)
    (free : contents.type = .free) :
    (liveTags tags).Perm
      (block request contents :: liveTags (front ++ contents :: back)) := by
  rw [taken.tags_eq, liveTags_append, liveTags_append, liveTags_append,
    liveTags_frontPiece request free, List.nil_append, liveTags_live rfl,
    liveTags_backPiece request free, liveTags_middle (not_live_of_free free),
    List.append_assoc]
  exact List.perm_middle

/-- A failed attempt leaves the live segments. -/
theorem Attempted.live_of_failed
    (attempt : Attempted arena after request attemptAnswers tags tagsAfter
      none) :
    liveTags tagsAfter = liveTags tags := by
  cases attempt with
  | refused => rfl
  | @spoiled front back _ contents free _ spoiled =>
    rw [liveTags_middle (not_live_of_free free)]
    cases spoiled with
    | frontSplit _ _ tags_eq =>
      rw [tags_eq, liveTags_middle (not_live_of_free free)]
    | backSplit _ _ _ tags_eq =>
      have rear : (rearPiece request contents).type ≠ .live :=
        not_live_of_free free
      rw [tags_eq, liveTags_append, liveTags_append, liveTags_append,
        liveTags_frontPiece request free, liveTags_other rear]
      exact congrArg (· ++ _) (List.append_nil _)
    | hashInsert _ _ tags_eq =>
      rw [tags_eq, liveTags_freedTags, liveTags_append, liveTags_append,
        liveTags_frontPiece request free, liveTags_backPiece request free,
        List.append_nil, List.nil_append]

/-- A span that is linked in has no live segments. -/
theorem Linked.live
    (isLinked : Linked arena linked span) :
    liveTags linked.tags = liveTags arena.tags := by
  obtain ⟨front, back, tagsEq, linkedEq⟩ := isLinked.tags
  have fresh : liveTags span.extent.freshSpan.tags = [] := rfl
  rw [tagsEq, linkedEq, liveTags_append, liveTags_append, liveTags_append,
    fresh, List.append_nil]

/-! ## An imported span -/

/-- The tags of a span that has just been linked in. -/
theorem Linked.mem
    (isLinked : Linked arena linked span)
    (tag : Bt) :
    tag ∈ linked.tags ↔
      tag ∈ arena.tags ∨ tag ∈ span.extent.freshSpan.tags := by
  obtain ⟨front, back, tagsEq, linkedEq⟩ := isLinked.tags
  rw [tagsEq, linkedEq]
  simp only [List.mem_append]
  tauto

/-- The free segment of a span that has just been linked in. -/
def Import.segment (span : Import) : Bt where
  type := .free
  base := span.base.toNat
  uSize := span.uSize.toNat
  psMapping := span.psMapping

theorem Import.segment_mem
    (span : Import) :
    span.segment ∈ span.extent.freshSpan.tags := by
  simp [Span.tags, Span.opening, Span.closing, Extent.freshSpan, segment,
    extent]

theorem Import.free_of_fresh
    (span : Import)
    (member : tag ∈ span.extent.freshSpan.tags)
    (free : tag.type = .free) :
    tag = span.segment := by
  simp only [Span.tags, Span.opening, Span.closing, Extent.freshSpan, if_true,
    List.mem_append, List.mem_singleton] at member
  rcases member with (rfl | rfl) | rfl
  · cases free
  · rfl
  · cases free

/-! ## A served request -/

/-- The segment serves the request with the allocation. -/
structure Serves (request : Request) (allocation : Allocation) (tag : Bt) :
    Prop where
  free : tag.type = .free
  above : tag.base ≤ allocation.base
  below : allocation.base + request.uSize.toNat ≤ tag.base + tag.uSize
  aligned : Aligned request allocation.base
  flags : FlagsMatch request tag.psMapping
  psMapping : allocation.psMapping = tag.psMapping

/-- The arena in which the attempt succeeds: the arena itself, or if its first
attempt fails that with the imported span. -/
def Searched (arena found : RaArena) (request : Request) (answers : Answers) :
    Prop :=
  found = arena ∨ ∃ middle span,
    arena.attemptAllocAligned request answers.first = some (middle, none) ∧
      middle.importAlloc request answers = some span ∧
        Linked middle found span

/-- The live segment of an allocation. -/
def Allocation.segment (allocation : Allocation) (request : Request) : Bt where
  type := .live
  base := allocation.base
  uSize := request.uSize.toNat
  psMapping := allocation.psMapping

/-- A successful attempt takes its block out of a free segment that fits, apart
from the live ones, and only the block becomes live. -/
theorem Attempted.serves
    {spans : List Span}
    (attempt : Attempted arena after request attemptAnswers tags tagsAfter
      (some allocation))
    (layout : Layout tags spans) :
    (∃ tag ∈ tags, Serves request allocation tag) ∧
      (∀ tag ∈ liveTags tags, tag.base + tag.uSize ≤ allocation.base ∨
        allocation.base + request.uSize.toNat ≤ tag.base) ∧
        (liveTags tagsAfter).Perm (allocation.segment request :: liveTags tags) :=
    by
  cases attempt with
  | @taken front back _ contents _ free fits taken =>
    have segment : contents.type ≠ .span := by simp [free]
    have bounds := layout.segment_bounds (by simp) segment
    obtain ⟨room, _⟩ := fits.block_inside layout segment
    have spec := alignedBase_spec request
      (show contents.base ≤ addressLimit by omega)
    unfold blockEnd at room
    rw [← taken.base] at room spec
    refine ⟨⟨contents, by simp, free, spec.1, room, spec.2.2.1, fits.flags,
      taken.psMapping⟩, ?_, ?_⟩
    · intro tag isLive
      obtain ⟨member, live⟩ := List.mem_filter.mp isLive
      have tagLive : tag.type = .live := by simpa using live
      obtain ⟨_, behind, across⟩ := List.pairwise_append.mp layout.pairwise
      rcases List.mem_append.mp member with inFront | rest
      · have ordered := across tag inFront contents List.mem_cons_self
        have ends := ordered.2 (by rw [tagLive]; simp)
        exact Or.inl (by omega)
      · rcases List.mem_cons.mp rest with rfl | inBack
        · rw [tagLive] at free
          cases free
        · have ordered := (List.pairwise_cons.mp behind).1 tag inBack
          have ends := ordered.2 segment
          exact Or.inr (by omega)
    · have blockEq : block request contents = allocation.segment request := by
        rw [block, Allocation.segment, taken.base, taken.psMapping]
      rw [← blockEq]
      exact taken.live free

/-- When `RA_Alloc` returns a block, it was cut out of one free segment of the
arena, or of the arena with the imported span, where it is aligned and the
flags match; the block is disjoint from the live segments, and is the only one
to become live. -/
theorem raAlloc_postcondition
    {allocation : Allocation}
    (invariant : Invariant arena)
    (positive : 0 < request.uSize.toNat)
    (offers : OffersDisjoint arena request answers)
    (returned : arena.raAlloc request answers =
      some (after, some allocation)) :
    (∃ found, Searched arena found request answers ∧
        ∃ tag ∈ found.tags, Serves request allocation tag) ∧
      (∀ tag ∈ liveTags arena.tags, tag.base + tag.uSize ≤ allocation.base ∨
        allocation.base + request.uSize.toNat ≤ tag.base) ∧
        (liveTags after.tags).Perm
          (allocation.segment request :: liveTags arena.tags) := by
  obtain ⟨spans, sound⟩ := invariant
  obtain ⟨last, result, _, _, called, _, allocated⟩ :=
    raAlloc_spec sound positive offers
  rw [returned] at called
  cases called
  cases allocated with
  | direct attempt =>
    obtain ⟨served, apart, grown⟩ := attempt.serves sound.layout
    exact ⟨⟨arena, Or.inl rfl, served⟩, apart, grown⟩
  | @linked middle linked span _ attempt handed _ _ isLinked linkedInvariant
      second attempted =>
    obtain ⟨_, linkedSound⟩ := linkedInvariant
    obtain ⟨served, apart, grown⟩ := second.serves linkedSound.layout
    rw [isLinked.live, attempt.live_of_failed] at apart grown
    exact ⟨⟨linked, Or.inr ⟨middle, span, attempted, handed, isLinked⟩,
      served⟩, apart, grown⟩

/-- The page of the first allocation of `importingArena`. -/
def firstPage : Allocation where
  base := 0x10000
  psMapping := some ⟨1, 0⟩

theorem importingArena_invariant :
    Invariant importingArena :=
  (newArena_sound (by decide) true false).invariant

/-- The first page comes from the imported span. -/
theorem raAlloc_postcondition_firstPage :
    (∃ found, Searched importingArena found pageRequest twoPages ∧
        ∃ tag ∈ found.tags, Serves pageRequest firstPage tag) ∧
      (∀ tag ∈ liveTags importingArena.tags,
        tag.base + tag.uSize ≤ firstPage.base ∨
          firstPage.base + pageRequest.uSize.toNat ≤ tag.base) ∧
        (liveTags allocatedArena.tags).Perm
          (firstPage.segment pageRequest :: liveTags importingArena.tags) := by
  have returned : importingArena.raAlloc pageRequest twoPages =
      some (allocatedArena, some firstPage) := rfl
  exact raAlloc_postcondition importingArena_invariant (by decide)
    importingArena_offers returned

/-! ## Completeness of the search -/

/-- No allocation of an attempt fails. -/
def AttemptAnswers.granted : AttemptAnswers where
  frontSplit := true
  backSplit := true
  hashInsert := true

/-- A segment that is chosen gives the block if no allocation fails, without
the import callback. -/
theorem allocFrom_granted
    (arena : RaArena)
    (pBT : Address)
    (request : Request) :
    ∃ after allocation,
      arena.allocFrom pBT request .granted = (after, some allocation) ∧
        after.resources = arena.resources ∧
          after.importFrees = arena.importFrees := by
  have front : ∃ segments pFront, cutFront arena.segments pBT request true =
      (segments, some pFront) := by
    simp only [cutFront]
    split
    · exact ⟨_, _, rfl⟩
    · exact ⟨_, _, rfl⟩
  obtain ⟨segments, pFront, frontEq⟩ := front
  have back : ∃ cut, cutBack segments pFront request true = (cut, true) := by
    simp only [cutBack]
    split
    · exact ⟨_, rfl⟩
    · exact ⟨_, rfl⟩
  obtain ⟨cut, backEq⟩ := back
  unfold allocFrom
  simp only [AttemptAnswers.granted, frontEq, backEq]
  exact ⟨_, _, rfl, rfl, rfl⟩

/-- An attempt is refused if no free segment fits. -/
theorem Invariant.refused
    (invariant : Invariant arena)
    (unfit : ∀ tag ∈ arena.tags, tag.type = .free → ¬Fits request tag)
    (attemptAnswers : AttemptAnswers) :
    arena.attemptAllocAligned request attemptAnswers = some (arena, none) := by
  obtain ⟨spans, sound⟩ := invariant
  obtain ⟨chosen, searched, outcome⟩ := sound.search request
  cases chosen with
  | none =>
    rw [attemptAllocAligned, searched]
    rfl
  | some pBT =>
    obtain ⟨listed, free, fits, _⟩ := outcome
    exact absurd fits (unfit _ (List.mem_map_of_mem listed) free)

/-- An attempt ends, and unless an allocation fails it is refused only if no
free segment fits; while a free segment fits, `RA_Alloc` succeeds and does not
import. -/
theorem attempt_complete
    (invariant : Invariant arena)
    (request : Request) :
    ∃ after result,
      arena.attemptAllocAligned request .granted = some (after, result) ∧
        (result = none → after = arena ∧
          ∀ tag ∈ arena.tags, tag.type = .free → ¬Fits request tag) ∧
          ((∃ tag ∈ arena.tags, tag.type = .free ∧ Fits request tag) →
            result ≠ none ∧ after.resources = arena.resources ∧
              after.importFrees = arena.importFrees ∧
                ∀ answers, answers.first = .granted →
                  arena.raAlloc request answers = some (after, result)) := by
  obtain ⟨spans, sound⟩ := invariant
  obtain ⟨chosen, searched, outcome⟩ := sound.search request
  cases chosen with
  | none =>
    refine ⟨arena, none, ?_, fun _ => ⟨rfl, outcome⟩, ?_⟩
    · rw [attemptAllocAligned, searched]
      rfl
    · rintro ⟨tag, member, free, fits⟩
      exact absurd fits (outcome tag member free)
  | some pBT =>
    obtain ⟨after, allocation, allocEq, resources, importFrees⟩ :=
      allocFrom_granted arena pBT request
    have attempted : arena.attemptAllocAligned request .granted =
        some (after, some allocation) := by
      rw [attemptAllocAligned, searched]
      exact congrArg some allocEq
    refine ⟨after, some allocation, attempted, by simp, fun _ =>
      ⟨by simp, resources, importFrees, ?_⟩⟩
    intro answers granted
    rw [raAlloc, granted, attempted]

theorem allocatedArena_invariant :
    Invariant allocatedArena := by
  have permitted : Call.Permitted importingArena
      (.alloc pageRequest twoPages) :=
    ⟨by decide, importingArena_offers⟩
  obtain ⟨after, called, invariant, _⟩ :=
    call_spec importingArena_invariant permitted
  have allocated : importingArena.call (.alloc pageRequest twoPages) =
      some allocatedArena := rfl
  rw [allocated] at called
  cases called
  exact invariant

/-- The second page of the imported span serves the next request. -/
theorem attempt_complete_secondPage :
    ∃ after result,
      allocatedArena.attemptAllocAligned pageRequest .granted =
        some (after, result) ∧
          result ≠ none ∧ after.resources = allocatedArena.resources := by
  obtain ⟨after, result, attempted, _, complete⟩ :=
    attempt_complete allocatedArena_invariant pageRequest
  have isFree : (⟨.free, 0x11000, 4096, some ⟨1, 0⟩⟩ : Bt) ∈
      allocatedArena.tags := by
    decide
  have fits : Fits pageRequest ⟨.free, 0x11000, 4096, some ⟨1, 0⟩⟩ := by
    refine ⟨⟨0x11000, by decide, by decide, fun large => ?_⟩, ?_⟩
    · exact absurd large (by decide)
    · intro mapping isMapping
      cases isMapping
      rfl
  obtain ⟨served, resources, _⟩ := complete ⟨_, isFree, rfl, fits⟩
  exact ⟨after, result, attempted, served, resources⟩

end PvrServices.Arena
