import PvrServices.Arena.Undoing

/-!
# Destroying a context

Before a context goes, each of its heaps is tested for leaks by a look at the
first tag of its import arena.  The arenas import all they have, so that the
first tag is a marker, and the test says whether the arena is empty.  That is
the same as having no live segment as long as every imported span is used.
-/

namespace PvrServices.Arena

open RaArena

variable {arena after start : RaArena} {request : Request} {answers : Answers}
  {span : Import} {attemptAnswers : AttemptAnswers} {call : Call}
  {tags tagsAfter : List Bt} {result : Option Allocation}

/-! ## The test -/

/-- An arena that imports is tested in one round, which finds out whether it
is empty. -/
theorem raTestDelete_importing
    (invariant : Invariant arena)
    (importing : arena.pImportAlloc = true)
    (fuel : Nat) :
    arena.raTestDelete (fuel + 1) = some (decide (arena.tags = [])) := by
  obtain ⟨spans, sound⟩ := invariant
  have layout : Layout arena.tags spans := sound.layout
  have head : arena.segments.pHeadSegment = arena.segments.list.head? :=
    sound.filed.links.head_eq
  have tagsEq : arena.tags = arena.segments.list.map arena.segments.bt := rfl
  rw [raTestDelete, head]
  cases spans with
  | nil =>
    have empty : arena.tags = [] := layout.tags_eq
    have listEmpty : arena.segments.list = [] := by
      rw [tagsEq] at empty
      exact List.map_eq_nil_iff.mp empty
    rw [listEmpty, empty]
    rfl
  | cons first rest =>
    have marked := sound.kind importing first List.mem_cons_self
    have opens : arena.tags.head? = some first.extent.startMarker := by
      rw [layout.tags_eq, List.flatMap_cons, Span.tags, Span.opening,
        if_pos marked]
      rfl
    rw [tagsEq, List.head?_map] at opens
    obtain ⟨pBT, isHead, isMarker⟩ := Option.map_eq_some_iff.mp opens
    have nonempty : arena.tags ≠ [] := by
      rw [tagsEq]
      intro empty
      rw [List.map_eq_nil_iff.mp empty] at isHead
      cases isHead
    rw [isHead]
    simp [isMarker, Extent.startMarker, nonempty]

/-! ## Used spans -/

/-- Every span of the arena holds a live segment. -/
def Used (arena : RaArena) : Prop :=
  ∀ span ∈ arena.resources, ∃ tag ∈ liveTags arena.tags,
    span.base.toNat ≤ tag.base ∧ tag.base < span.base.toNat + span.uSize.toNat

/-- An arena with used spans is empty if it has no live segment. -/
theorem Used.empty_iff
    (used : Used arena)
    (invariant : Invariant arena) :
    arena.tags = [] ↔ liveTags arena.tags = [] := by
  constructor
  · intro empty
    rw [empty]
    rfl
  · intro noLive
    obtain ⟨spans, sound⟩ := invariant
    have layout : Layout arena.tags spans := sound.layout
    cases spans with
    | nil => exact layout.tags_eq
    | cons first rest =>
      have listed : first.extent ∈ arena.resources.map Import.extent := by
        rw [← sound.resources.mem_iff]
        simp
      obtain ⟨resource, isResource, _⟩ := List.mem_map.mp listed
      obtain ⟨tag, isLive, _⟩ := used resource isResource
      rw [noLive] at isLive
      exact absurd isLive List.not_mem_nil

/-- Spans stay used if none comes and no live segment goes. -/
theorem Used.mono
    (used : Used arena)
    (resources : ∀ span ∈ after.resources, span ∈ arena.resources)
    (live : ∀ tag ∈ liveTags arena.tags, tag ∈ liveTags after.tags) :
    Used after := by
  intro resource isResource
  obtain ⟨tag, isLive, inside⟩ := used resource (resources resource isResource)
  exact ⟨tag, live tag isLive, inside⟩

/-- Giving spans back brings none. -/
theorem Frees.resources_subset
    {extent : Option Extent}
    {range : Option (Nat × Nat)}
    (frees : Frees arena after extent range) :
    ∀ span ∈ after.resources, span ∈ arena.resources := by
  intro resource isResource
  rw [frees.resources] at isResource
  cases extent with
  | none => exact isResource
  | some extent => exact List.mem_of_mem_eraseP isResource

/-- A failed attempt brings no span, and asks for the same as before. -/
theorem Attempted.resources_of_failed
    (attempt : Attempted arena after request attemptAnswers tags tagsAfter
      none) :
    (∀ span ∈ after.resources, span ∈ arena.resources) ∧
      after.pImportAlloc = arena.pImportAlloc ∧
        after.uQuantum = arena.uQuantum := by
  cases attempt with
  | refused same =>
    rw [same]
    exact ⟨fun _ isResource => isResource, rfl, rfl⟩
  | spoiled _ _ spoiled =>
    cases spoiled with
    | frontSplit _ _ _ frees | backSplit _ _ _ _ frees
    | hashInsert _ _ _ frees =>
      exact ⟨frees.resources_subset, frees.pImportAlloc, frees.uQuantum⟩

/-- A successful attempt keeps the spans and callbacks. -/
theorem Attempted.resources_of_served
    {allocation : Allocation}
    (attempt : Attempted arena after request attemptAnswers tags tagsAfter
      (some allocation)) :
    after.resources = arena.resources ∧
      after.pImportAlloc = arena.pImportAlloc := by
  cases attempt with
  | taken _ _ taken => exact ⟨taken.frees.resources, taken.frees.pImportAlloc⟩

/-- The call uses the span that it would import: a segment fits and its block
is registered, or the span fits the request.  The splits find memory. -/
def Call.UsesImport (arena : RaArena) : Call → Prop
  | .alloc request answers =>
    answers.Splits ∧
      ∀ span ∈ arena.importAlloc request answers,
        (∃ tag ∈ arena.tags, tag.type = .free ∧ Fits request tag) ∧
            answers.first.hashInsert = true ∨
          (∀ tag ∈ arena.tags, tag.type = .free → ¬Fits request tag) ∧
            Fits request span.segment
  | .free _ _ => True

/-- An attempt whose allocations succeed serves a request that fits. -/
theorem Invariant.serves
    {middle : RaArena}
    (invariant : Invariant arena)
    (fits : ∃ tag ∈ arena.tags, tag.type = .free ∧ Fits request tag) :
    arena.attemptAllocAligned request .granted ≠ some (middle, none) := by
  obtain ⟨last, result, attempted, _, complete⟩ :=
    attempt_complete invariant request
  rw [attempted]
  intro failed
  cases failed
  exact (complete fits).1 rfl

/-- The second attempt of a call that uses its import takes the block from the
imported span, or gives the span back. -/
theorem Linked.used
    {linked : RaArena}
    (isLinked : Linked arena linked span)
    (linkedInvariant : Invariant linked)
    (unfit : ∀ tag ∈ arena.tags, tag.type = .free → ¬Fits request tag)
    (fits : Fits request span.segment)
    (split : attemptAnswers.Split)
    (positive : 0 < request.uSize.toNat)
    (second : Attempted linked after request attemptAnswers linked.tags
      after.tags result)
    (used : Used arena) :
    Used after := by
  obtain ⟨spans, sound⟩ := linkedInvariant
  have layout : Layout linked.tags spans := sound.layout
  have chosen : ∀ tag ∈ linked.tags, tag.type = .free → Fits request tag →
      tag = span.segment := by
    intro tag member free tagFits
    rcases (isLinked.mem tag).mp member with old | new
    · exact absurd tagFits (unfit tag old free)
    · exact span.free_of_fresh new free
  have member : span.segment ∈ linked.tags :=
    (isLinked.mem span.segment).mpr (Or.inr span.segment_mem)
  cases result with
  | some allocation =>
    obtain ⟨⟨tag, tagMember, serves⟩, _, grown⟩ := second.serves layout
    have isFresh := chosen tag tagMember serves.free
      ⟨⟨allocation.base, serves.above, serves.below, serves.aligned⟩,
        serves.flags⟩
    have above := serves.above
    have below := serves.below
    rw [isFresh] at above below
    simp only [Import.segment] at above below
    rw [isLinked.live] at grown
    intro resource isResource
    rw [second.resources_of_served.1, isLinked.resources] at isResource
    rcases List.mem_cons.mp isResource with rfl | old
    · refine ⟨allocation.segment request,
        grown.mem_iff.mpr List.mem_cons_self, above, ?_⟩
      simp only [Allocation.segment]
      omega
    · obtain ⟨other, isLive, inside⟩ := used resource old
      exact ⟨other, grown.mem_iff.mpr (List.mem_cons_of_mem _ isLive), inside⟩
  | none =>
    have live := second.live_of_failed
    rw [isLinked.live] at live
    refine used.mono ?_ fun tag isLive => live ▸ isLive
    generalize linkedTags : linked.tags = tags at *
    generalize after.tags = tagsAfter at *
    cases second with
    | refused _ unfitLinked =>
      exact absurd fits (unfitLinked span.segment member rfl)
    | @spoiled front back _ contents free contentsFits spoiled =>
      have isFresh := chosen contents (by simp) free contentsFits
      subst isFresh
      cases spoiled with
      | frontSplit failed =>
        rw [split.1] at failed
        cases failed
      | backSplit failed =>
        rw [split.2] at failed
        cases failed
      | hashInsert _ _ _ frees =>
        have gone := frees.resources
        rw [(isLinked.freed_whole layout linkedTags fits).2,
          isLinked.resources] at gone
        intro resource isResource
        rw [gone] at isResource
        simpa [Import.extent] using isResource

/-- A call that uses its import keeps the spans used. -/
theorem Allocated.used
    (allocated : Allocated arena after request answers result)
    (invariant : Invariant arena)
    (positive : 0 < request.uSize.toNat)
    (uses : Call.UsesImport arena (.alloc request answers))
    (used : Used arena) :
    Used after := by
  obtain ⟨splits, ifHanded⟩ := uses
  cases allocated with
  | direct attempt =>
    obtain ⟨spans, sound⟩ := invariant
    have layout : Layout arena.tags spans := sound.layout
    obtain ⟨_, _, grown⟩ := attempt.serves layout
    apply used.mono
    · intro resource isResource
      rw [attempt.resources_of_served.1] at isResource
      exact isResource
    · exact fun tag isLive => grown.mem_iff.mpr (List.mem_cons_of_mem _ isLive)
  | notImported attempt =>
    exact used.mono attempt.resources_of_failed.1
      fun tag isLive => attempt.live_of_failed ▸ isLive
  | @notLinked middle _ attempt _ _ after_eq =>
    subst after_eq
    exact used.mono attempt.resources_of_failed.1
      fun tag isLive => attempt.live_of_failed ▸ isLive
  | @linked middle linked span result attempt handed _ _ isLinked
      linkedInvariant second attempted =>
    have first : middle.importAlloc request answers = some span →
        arena.importAlloc request answers = some span := by
      obtain ⟨_, importing, quantum⟩ := attempt.resources_of_failed
      unfold importAlloc
      rw [importing, quantum]
      exact id
    rcases ifHanded span (first handed) with
      ⟨fits, inserted⟩ | ⟨unfit, fits⟩
    · have granted : answers.first = .granted := by
        obtain ⟨frontSplit, backSplit⟩ := splits.1
        cases firstEq : answers.first with
        | mk one two three =>
          rw [firstEq] at frontSplit backSplit inserted
          simp_all [AttemptAnswers.granted]
      rw [granted] at attempted
      exact absurd attempted (invariant.serves fits)
    · rw [invariant.refused unfit] at attempted
      cases attempted
      exact isLinked.used linkedInvariant unfit fits splits.2 positive second
        used

/-- A live segment that is not the last one of its span has another one
there. -/
theorem Layout.other_live
    {front back : List Bt}
    {tag : Bt}
    {spans : List Span}
    (layout : Layout (front ++ tag :: back) spans)
    (isLive : tag.type = .live)
    (marked : ∀ span ∈ spans, span.marked = true)
    (notLast : ¬LastLive (front ++ tag :: back) tag.base) :
    ∃ earlier span later, spans = earlier ++ span :: later ∧
      (span.extent.base ≤ tag.base ∧
        tag.base < span.extent.base + span.extent.uSize) ∧
          ∃ other ∈ liveTags front ++ liveTags back,
            span.extent.base ≤ other.base ∧
              other.base < span.extent.base + span.extent.uSize := by
  have segment : tag.type ≠ .span := by
    rw [isLive]
    simp
  obtain ⟨earlier, span, later, left, right, rfl, bodyEq, frontEq, backEq⟩ :=
    layout.locate segment
  have sound := layout.sound span (by simp)
  have isMarked := marked span (by simp)
  have within : ∀ other ∈ span.body, span.extent.base ≤ other.base ∧
      other.base < span.extent.base + span.extent.uSize := by
    intro other member
    have bounds := sound.tiles.bounds member
    omega
  refine ⟨earlier, span, later, rfl, within tag (by rw [bodyEq]; simp), ?_⟩
  by_contra alone
  apply notLast
  refine ⟨earlier.flatMap Span.tags, span.extent.startMarker, span.body,
    span.extent.endMarker, later.flatMap Span.tags, ?_, rfl, rfl,
    fun other member => (sound.segments other member).1,
    ⟨tag, by rw [bodyEq]; simp, isLive, rfl⟩, ?_⟩
  · rw [frontEq, backEq, bodyEq]
    simp [Span.opening, Span.closing, isMarked]
  · intro other member otherLive
    rw [bodyEq, List.mem_append, List.mem_cons] at member
    rcases member with inLeft | rfl | inRight
    · refine absurd ⟨other, ?_, within other (by rw [bodyEq]; simp [inLeft])⟩
        alone
      apply List.mem_append_left
      rw [mem_liveTags, frontEq]
      exact ⟨List.mem_append_right _ inLeft, otherLive⟩
    · rfl
    · refine absurd ⟨other, ?_, within other (by rw [bodyEq]; simp [inRight])⟩
        alone
      apply List.mem_append_right
      rw [mem_liveTags, backEq, List.append_assoc]
      exact ⟨List.mem_append_left _ inRight, otherLive⟩

/-- Freeing a segment of a coalesced arena gives its span back or leaves
another live segment in it. -/
theorem raFree_used
    (invariant : Invariant arena)
    (importing : arena.pImportAlloc = true)
    (coalesced : Coalesced arena.tags)
    (base : Nat)
    (bFreeBackingStore : Bool)
    (used : Used arena) :
    Used (arena.raFree base bFreeBackingStore) := by
  cases found : arena.pSegmentHash base with
  | none =>
    rw [raFree, found]
    exact used
  | some pBT =>
    obtain ⟨front, back, tagsEq, isLive, _, freedInvariant, freedEq,
      frees⟩ := raFree_spec invariant found bFreeBackingStore
    obtain ⟨spans, sound⟩ := invariant
    have layout : Layout arena.tags spans := sound.layout
    generalize arena.segments.bt pBT = tag at *
    have segment : tag.type ≠ .span := by
      rw [isLive]
      simp
    have liveEq : liveTags arena.tags =
        liveTags front ++ tag :: liveTags back := by
      rw [tagsEq, liveTags_append, liveTags_live isLive]
    have liveFreed : liveTags (arena.raFree base bFreeBackingStore).tags =
        liveTags front ++ liveTags back := by
      rw [freedEq, liveTags_freedTags]
    rw [tagsEq] at layout coalesced
    intro resource isResource
    have wasResource := frees.resources_subset resource isResource
    obtain ⟨witness, witnessLive, inside⟩ := used resource wasResource
    rw [liveEq] at witnessLive
    rw [liveFreed]
    by_cases remains : witness ∈ liveTags front ++ liveTags back
    · exact ⟨witness, remains, inside⟩
    · have isTag : witness = tag := by
        simp only [List.mem_append, List.mem_cons] at witnessLive remains
        tauto
      subst isTag
      have notGiven : ¬(givenBack front witness back).isSome := by
        intro given
        obtain ⟨other, member, isSegment, above, below⟩ :=
          (freedInvariant.consistent.covers witness.base).mpr
            ⟨resource, isResource, inside⟩
        rw [freedEq] at member
        have apart := layout.uncovered segment given other member isSegment
        omega
      rw [givenBack_iff layout coalesced isLive] at notGiven
      obtain ⟨earlier, span, later, rfl, tagInside, other, otherLive,
        otherInside⟩ :=
        layout.other_live isLive (sound.kind importing) notGiven
      refine ⟨other, otherLive, ?_⟩
      -- The resource and the span share the base, so they are one.
      have listed : resource.extent ∈
          (earlier ++ span :: later).map Span.extent := by
        rw [sound.resources.mem_iff]
        exact List.mem_map_of_mem wasResource
      obtain ⟨owner, isOwner, ownerEq⟩ := List.mem_map.mp listed
      have sameBase : owner.extent.base = resource.base.toNat ∧
          owner.extent.uSize = resource.uSize.toNat := by
        rw [ownerEq]
        exact ⟨rfl, rfl⟩
      obtain ⟨_, behind, across⟩ := List.pairwise_append.mp layout.ordered
      rcases List.mem_append.mp isOwner with inEarlier | rest
      · have ordered := across owner inEarlier span List.mem_cons_self
        omega
      · rcases List.mem_cons.mp rest with rfl | inLater
        · omega
        · have ordered := (List.pairwise_cons.mp behind).1 owner inLater
          omega

/-! ## Runs -/

/-- An import arena as `BM_CreateHeap` creates it. -/
def CreatedForHeap (start : RaArena) : Prop :=
  ∃ uQuantum : BitVec 32, 0 < uQuantum.toNat ∧
    raCreate 0 0 none uQuantum true false true true true = some (some start)

/-- The states that permitted calls lead to that use what they import. -/
inductive ReachesUsing (start : RaArena) : RaArena → Prop where
  | refl : ReachesUsing start start
  | step {arena after : RaArena} {call : Call}
      (reached : ReachesUsing start arena)
      (permitted : call.Permitted arena)
      (uses : call.UsesImport arena)
      (called : arena.call call = some after) :
      ReachesUsing start after

theorem CreatedForHeap.eq_newArena
    (created : CreatedForHeap start) :
    ∃ uQuantum : BitVec 32, 0 < uQuantum.toNat ∧
      start = newArena uQuantum true false := by
  obtain ⟨uQuantum, positive, createdEq⟩ := created
  exact ⟨uQuantum, positive, (Option.some.inj (Option.some.inj createdEq)).symm⟩

/-- A call keeps the callbacks. -/
theorem call_importing
    (invariant : Invariant arena)
    (permitted : call.Permitted arena)
    (called : arena.call call = some after) :
    after.pImportAlloc = arena.pImportAlloc := by
  cases call with
  | alloc request answers =>
    obtain ⟨spans, sound⟩ := invariant
    obtain ⟨last, result, _, _, calledAlloc, _, allocated⟩ :=
      raAlloc_spec sound permitted.1 permitted.2
    rw [RaArena.call, calledAlloc] at called
    cases called
    cases allocated with
    | direct attempt => exact attempt.resources_of_served.2
    | notImported attempt => exact attempt.resources_of_failed.2.1
    | notLinked attempt _ _ after_eq =>
      rw [after_eq]
      exact attempt.resources_of_failed.2.1
    | linked attempt _ _ _ isLinked _ second =>
      have linkedEq := isLinked.others.2.2.1
      rw [attempt.resources_of_failed.2.1] at linkedEq
      cases result with
      | none => exact second.resources_of_failed.2.1.trans linkedEq
      | some allocation => exact second.resources_of_served.2.trans linkedEq
  | free base bFreeBackingStore =>
    cases called
    cases found : arena.pSegmentHash base with
    | none => rw [raFree, found]
    | some pBT =>
      obtain ⟨_, _, _, _, _, _, _, frees⟩ :=
        raFree_spec invariant found bFreeBackingStore
      exact frees.pImportAlloc

/-- A call that uses what it imports keeps the spans used. -/
theorem call_used
    (invariant : Invariant arena)
    (importing : arena.pImportAlloc = true)
    (coalesced : Coalesced arena.tags)
    (permitted : call.Permitted arena)
    (uses : call.UsesImport arena)
    (called : arena.call call = some after)
    (used : Used arena) :
    Used after := by
  cases call with
  | alloc request answers =>
    have kept := invariant
    obtain ⟨spans, sound⟩ := invariant
    obtain ⟨last, result, _, _, calledAlloc, _, allocated⟩ :=
      raAlloc_spec sound permitted.1 permitted.2
    rw [RaArena.call, calledAlloc] at called
    cases called
    exact allocated.used kept permitted.1 uses used
  | free base bFreeBackingStore =>
    cases called
    exact raFree_used invariant importing coalesced base bFreeBackingStore
      used

/-- The splits of a call that uses its import find memory. -/
theorem Call.UsesImport.splits
    (uses : call.UsesImport arena) :
    call.Splits := by
  cases call with
  | alloc => exact uses.1
  | free => trivial

/-- In a run that uses what it imports, the spans are used in every state. -/
theorem ReachesUsing.invariant
    (reached : ReachesUsing start arena)
    (created : CreatedForHeap start) :
    Invariant arena ∧ arena.pImportAlloc = true ∧ Coalesced arena.tags ∧
      Used arena := by
  induction reached with
  | refl =>
    obtain ⟨uQuantum, positive, rfl⟩ := created.eq_newArena
    exact ⟨(newArena_sound positive true false).invariant, rfl,
      List.isChain_nil, fun _ impossible => absurd impossible
        List.not_mem_nil⟩
  | @step arena after call _ permitted uses called ih =>
    obtain ⟨invariant, importing, coalesced, used⟩ := ih
    obtain ⟨last, calledLast, lastInvariant, lastCoalesced⟩ :=
      call_spec invariant permitted
    rw [called] at calledLast
    cases calledLast
    refine ⟨lastInvariant, ?_, lastCoalesced uses.splits coalesced, ?_⟩
    · rw [call_importing invariant permitted called]
      exact importing
    · exact call_used invariant importing coalesced permitted uses called used

/-- Every reachable import arena satisfies the invariant and imports. -/
theorem Reaches.importing
    {calls : List Call}
    (reached : Reaches start calls arena)
    (created : CreatedForHeap start) :
    Invariant arena ∧ arena.pImportAlloc = true := by
  obtain ⟨uQuantum, positive, rfl⟩ := created.eq_newArena
  have invariant := (newArena_sound positive true false).invariant
  induction reached with
  | refl => exact ⟨invariant, rfl⟩
  | @step calls arena after call reached permitted called
      ih =>
    obtain ⟨before, importing⟩ := ih
    obtain ⟨last, calledLast, lastInvariant, _⟩ := call_spec before permitted
    rw [called] at calledLast
    cases calledLast
    refine ⟨lastInvariant, ?_⟩
    rw [call_importing before permitted called]
    exact importing

end PvrServices.Arena
