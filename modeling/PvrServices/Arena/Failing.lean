import PvrServices.Arena.BackingStore

/-!
# Failed allocations

A failed allocation can leave the arena changed: a back split that fails after
a front split leaves two segments, a hash insertion that fails joins the
segment with its free neighbours or gives its span back, and a second attempt
that fails leaves the imported span behind.
-/

namespace PvrServices.Arena

open RaArena

variable {arena after linked last : RaArena} {request : Request}
  {answers : Answers} {front back tags : List Bt} {tag contents : Bt}
  {spans : List Span} {attemptAnswers : AttemptAnswers} {span : Import}

/-! ## A failed attempt -/

/-- The block does not start with the segment. -/
def CutsFront (request : Request) (contents : Bt) : Prop :=
  contents.base < alignedBase request contents.base

/-- The block does not end with the segment. -/
def CutsBack (request : Request) (contents : Bt) : Prop :=
  blockEnd request contents < contents.base + contents.uSize

/-- The splits that the block needs find memory. -/
def AttemptAnswers.Reaches (answers : AttemptAnswers) (request : Request)
    (contents : Bt) : Prop :=
  (CutsFront request contents → answers.frontSplit = true) ∧
    (CutsBack request contents → answers.backSplit = true)

/-- An attempt at the segment leaves the tags if it fails: the back split does
not fail after a front split, and where the hash insertion fails the block
touches no free neighbour and the segment is not a whole imported span. -/
def KeepsTags (answers : AttemptAnswers) (request : Request) (front : List Bt)
    (contents : Bt) (back : List Bt) : Prop :=
  (CutsFront request contents → CutsBack request contents →
      answers.frontSplit = true → answers.backSplit = true) ∧
    (answers.Reaches request contents → answers.hashInsert = false →
      (CutsFront request contents ∨
          ∀ other ∈ front.getLast?, other.type ≠ .free) ∧
        (CutsBack request contents ∨
            ∀ other ∈ back.head?, other.type ≠ .free) ∧
          ¬BetweenMarkers front back)

/-- Joining a block with what is in front of it. -/
theorem absorbPrev_frontPiece
    (free : contents.type = .free)
    (request : Request)
    (front : List Bt)
    (tag : Bt) :
    (CutsFront request contents ∨
        ∀ other ∈ front.getLast?, other.type ≠ .free) ∧
        (absorbPrev (front ++ frontPiece request contents) tag).1 = front ∨
      ¬(CutsFront request contents ∨
          ∀ other ∈ front.getLast?, other.type ≠ .free) ∧
        (absorbPrev (front ++ frontPiece request contents) tag).1.length <
          front.length := by
  unfold frontPiece
  by_cases cuts : CutsFront request contents
  · left
    refine ⟨Or.inl cuts, ?_⟩
    unfold CutsFront at cuts
    rw [if_pos cuts, absorbPrev_free (by exact free)]
  · have none := cuts
    unfold CutsFront at none
    rw [if_neg none, List.append_nil]
    rcases absorbPrev_cases front tag with
      ⟨others, other, rfl, isFree, joined⟩ | ⟨notFree, kept⟩
    · right
      rw [joined]
      refine ⟨?_, by simp⟩
      rintro (impossible | notFree)
      · exact cuts impossible
      · exact notFree other List.getLast?_concat isFree
    · left
      rw [kept]
      exact ⟨Or.inr notFree, rfl⟩

/-- Joining a block with what is behind it. -/
theorem absorbNext_backPiece
    (free : contents.type = .free)
    (request : Request)
    (tag : Bt)
    (back : List Bt) :
    (CutsBack request contents ∨
        ∀ other ∈ back.head?, other.type ≠ .free) ∧
        (absorbNext tag (backPiece request contents ++ back)).2 = back ∨
      ¬(CutsBack request contents ∨
          ∀ other ∈ back.head?, other.type ≠ .free) ∧
        (absorbNext tag (backPiece request contents ++ back)).2.length <
          back.length := by
  unfold backPiece
  by_cases cuts : CutsBack request contents
  · left
    refine ⟨Or.inl cuts, ?_⟩
    unfold CutsBack at cuts
    rw [if_pos cuts, List.singleton_append, absorbNext_free (by exact free)]
  · have none := cuts
    unfold CutsBack at none
    rw [if_neg none, List.nil_append]
    rcases absorbNext_cases tag back with
      ⟨other, others, rfl, isFree, joined⟩ | ⟨notFree, kept⟩
    · right
      rw [joined]
      refine ⟨?_, by simp⟩
      rintro (impossible | notFree)
      · exact cuts impossible
      · exact notFree other rfl isFree
    · left
      rw [kept]
      exact ⟨Or.inr notFree, rfl⟩

theorem length_settledTags
    (front : List Bt)
    (tag : Bt)
    (back : List Bt) :
    (settledTags front tag back).length ≤ front.length + 1 + back.length ∧
      (BetweenMarkers front back →
        (settledTags front tag back).length <
          front.length + 1 + back.length) := by
  unfold settledTags
  by_cases between : BetweenMarkers front back
  · rw [if_pos between, List.length_append, List.length_dropLast,
      List.length_tail]
    constructor
    · omega
    · intro _
      omega
  · rw [if_neg between, List.length_append, List.length_cons]
    exact ⟨by omega, fun impossible => absurd impossible between⟩

section

variable
  (spoiled : Spoiled arena after request attemptAnswers front contents back
    tags)
  (layout : Layout (front ++ contents :: back) spans)
  (free : contents.type = .free) (fits : Fits request contents)
include spoiled layout free fits

/-- A failed attempt leaves the tags just when the condition says so. -/
theorem Spoiled.tags_iff :
    tags = front ++ contents :: back ↔
      KeepsTags attemptAnswers request front contents back := by
  obtain ⟨room, above⟩ := fits.block_inside layout (by simp [free])
  cases spoiled with
  | frontSplit failed needed tags_eq =>
    refine iff_of_true tags_eq ⟨?_, ?_⟩
    · intro _ _ split
      rw [failed] at split
      cases split
    · intro reaches _
      have split := reaches.1 needed
      rw [failed] at split
      cases split
  | backSplit failed needed reached tags_eq =>
    rw [tags_eq]
    by_cases cuts : CutsFront request contents
    · refine iff_of_false ?_ ?_
      · intro same
        have lengths := congrArg List.length same
        unfold CutsFront at cuts
        rw [frontPiece, if_pos cuts] at lengths
        simp at lengths
      · intro keeps
        have split := keeps.1 cuts needed (reached cuts)
        rw [failed] at split
        cases split
    · refine iff_of_true ?_ ⟨fun impossible => absurd impossible cuts, ?_⟩
      · unfold CutsFront at cuts
        have atBase : alignedBase request contents.base = contents.base := by
          omega
        rw [frontPiece, if_neg cuts, rearPiece, atBase,
          Nat.add_sub_cancel_left]
        simp
      · intro reaches _
        have split := reaches.2 needed
        rw [failed] at split
        cases split
  | hashInsert failed reached tags_eq =>
    have keepsIff : KeepsTags attemptAnswers request front contents back ↔
        (CutsFront request contents ∨
            ∀ other ∈ front.getLast?, other.type ≠ .free) ∧
          (CutsBack request contents ∨
              ∀ other ∈ back.head?, other.type ≠ .free) ∧
            ¬BetweenMarkers front back := by
      constructor
      · exact fun keeps => keeps.2 reached failed
      · exact fun kept => ⟨fun _ cuts _ => reached.2 cuts, fun _ _ => kept⟩
    rw [keepsIff, tags_eq]
    have lengths := length_settledTags
      (coalesce (front ++ frontPiece request contents)
        (block request contents) (backPiece request contents ++ back)).1
      (coalesce (front ++ frontPiece request contents)
        (block request contents) (backPiece request contents ++ back)).2.1
      (coalesce (front ++ frontPiece request contents)
        (block request contents) (backPiece request contents ++ back)).2.2
    have frontCases := absorbPrev_frontPiece free request front
      (block request contents)
    have backCases := absorbNext_backPiece free request
      (absorbPrev (front ++ frontPiece request contents)
        (block request contents)).2 back
    constructor
    · intro same
      have total := congrArg List.length same
      rw [List.length_append, List.length_cons, freedTags] at total
      simp only [coalesce] at lengths total
      rcases frontCases with ⟨keptFront, frontEq⟩ | ⟨_, shorter⟩
      · rcases backCases with ⟨keptBack, backEq⟩ | ⟨_, shorter⟩
        · refine ⟨keptFront, keptBack, fun between => ?_⟩
          rw [frontEq, backEq] at lengths total
          have less := lengths.2 between
          omega
        · rw [frontEq] at lengths total
          omega
      · rcases backCases with ⟨_, backEq⟩ | ⟨_, shorterBack⟩
        · rw [backEq] at lengths total
          omega
        · omega
    · rintro ⟨keptFront, keptBack, apart⟩
      have joined := coalesce_cut free
        (fun notCut => keptFront.resolve_left notCut)
        (fun notCut => keptBack.resolve_left notCut) above room
      rw [freedTags, joined, settledTags, if_neg apart, ← free]

/-- An attempt that leaves the tags gives no span back. -/
theorem Spoiled.resources
    (keeps : KeepsTags attemptAnswers request front contents back) :
    after.resources = arena.resources := by
  obtain ⟨room, above⟩ := fits.block_inside layout (by simp [free])
  cases spoiled with
  | frontSplit _ _ _ frees => exact frees.resources
  | backSplit _ _ _ _ frees => exact frees.resources
  | hashInsert failed reached _ frees =>
    obtain ⟨keptFront, keptBack, apart⟩ := keeps.2 reached failed
    have joined := coalesce_cut free
      (fun notCut => keptFront.resolve_left notCut)
      (fun notCut => keptBack.resolve_left notCut) above room
    have resources := frees.resources
    rw [givenBack, joined, settledSpan, if_neg apart] at resources
    exact resources

end

theorem Chosen.unique
    {other : Bt}
    (chosen : Chosen arena request contents)
    (chosenOther : Chosen arena request other) :
    contents = other := by
  obtain ⟨pBT, searched, rfl⟩ := chosen
  obtain ⟨pOther, searchedOther, rfl⟩ := chosenOther
  rw [searched] at searchedOther
  cases searchedOther
  rfl

/-- The chosen segment is free and fits. -/
theorem Chosen.fits
    (chosen : Chosen arena request contents)
    (invariant : Invariant arena) :
    contents ∈ arena.tags ∧ contents.type = .free ∧ Fits request contents := by
  obtain ⟨pBT, searched, rfl⟩ := chosen
  obtain ⟨spans, sound⟩ := invariant
  obtain ⟨result, resultEq, outcome⟩ := sound.search request
  rw [searched] at resultEq
  cases resultEq
  exact ⟨List.mem_map_of_mem outcome.1, outcome.2.1, outcome.2.2.1⟩

/-- An attempt leaves the tags if it fails at the segment that the search
chooses. -/
def AttemptKeeps (arena : RaArena) (request : Request)
    (answers : AttemptAnswers) : Prop :=
  ∀ front contents back, arena.tags = front ++ contents :: back →
    Chosen arena request contents →
      KeepsTags answers request front contents back

/-- A failed attempt leaves the tags just when the condition says so, and then
it leaves the spans. -/
theorem Attempted.tags_iff
    {tagsAfter : List Bt}
    (attempt : Attempted arena after request attemptAnswers arena.tags
      tagsAfter none)
    (invariant : Invariant arena) :
    (tagsAfter = arena.tags ↔ AttemptKeeps arena request attemptAnswers) ∧
      (AttemptKeeps arena request attemptAnswers →
        after.resources = arena.resources) := by
  have kept := invariant
  obtain ⟨spans, sound⟩ := invariant
  have layout : Layout arena.tags spans := sound.layout
  unfold AttemptKeeps
  generalize tagsEq : arena.tags = tags at *
  cases attempt with
  | refused same unfit =>
    refine ⟨iff_of_true rfl ?_, fun _ => by rw [same]⟩
    intro front contents back _ chosen
    obtain ⟨member, free, fits⟩ := chosen.fits kept
    rw [tagsEq] at member
    exact absurd fits (unfit contents member free)
  | @spoiled front back _ contents free fits spoiled chosen =>
    have segment : contents.type ≠ .span := by simp [free]
    have size := (layout.segment_bounds (by simp) segment).1
    have keepsIff : (∀ frontOther other backOther,
        front ++ contents :: back = frontOther ++ other :: backOther →
          Chosen arena request other →
            KeepsTags attemptAnswers request frontOther other backOther) ↔
        KeepsTags attemptAnswers request front contents back := by
      constructor
      · exact fun keeps => keeps front contents back rfl chosen
      · intro keeps frontOther other backOther same chosenOther
        obtain rfl := chosenOther.unique chosen
        obtain ⟨rfl, _, rfl⟩ := layout.split_unique segment segment
          (by omega) (by omega) same
        exact keeps
    rw [keepsIff]
    exact ⟨spoiled.tags_iff layout free fits,
      spoiled.resources layout free fits⟩

/-! ## A failed call -/

/-- The tags are as before, and so are the spans of the arena. -/
def Unchanged (arena after : RaArena) : Prop :=
  after.tags = arena.tags ∧
    (after.resources.map Import.extent).Perm
      (arena.resources.map Import.extent)

/-- A call that returns nothing leaves the arena unchanged. -/
def FailureUnchanged (arena : RaArena) (request : Request)
    (answers : Answers) : Prop :=
  ∀ after, arena.raAlloc request answers = some (after, none) →
    Unchanged arena after

/-- The second attempt fails at the hash insertion of a block of the imported
span, which goes back. -/
def SpanReturns (linked : RaArena) (span : Import) (request : Request)
    (answers : AttemptAnswers) : Prop :=
  Chosen linked request span.segment ∧ answers.Reaches request span.segment

/-- A call that returns nothing fails where nothing is left behind: its first
attempt leaves the tags, and if a span has been linked in it goes back. -/
def FailsCleanly (arena : RaArena) (request : Request) (answers : Answers) :
    Prop :=
  ∀ middle, arena.attemptAllocAligned request answers.first =
      some (middle, none) →
    (middle.importAlloc request answers = none ∨
        answers.tags ≠ ⟨true, true, true⟩ →
      AttemptKeeps arena request answers.first) ∧
    ∀ span linked last, middle.importAlloc request answers = some span →
      middle.linkImported span answers.tags = some (some linked) →
        linked.attemptAllocAligned request answers.second =
            some (last, none) →
          AttemptKeeps arena request answers.first ∧
            SpanReturns linked span request answers.second

/-- The import callback does not hand over a span that the arena holds or that
the first attempt has just given back. -/
def FreshSpan (arena : RaArena) (request : Request) (answers : Answers) :
    Prop :=
  ∀ middle, arena.attemptAllocAligned request answers.first =
      some (middle, none) →
    ∀ span ∈ middle.importAlloc request answers,
      span.extent ∉ arena.resources.map Import.extent

/-- Only a block of the imported span takes the span with it. -/
theorem Linked.given_fresh
    {extent : Extent}
    {allocated : Bt}
    (isLinked : Linked arena linked span)
    (invariant : Invariant arena)
    (lastInvariant : Invariant last)
    (member : contents ∈ linked.tags)
    (free : contents.type = .free)
    (layout : Layout (front ++ allocated :: back) spans)
    (isLive : allocated.type = .live)
    (above : contents.base ≤ allocated.base)
    (below : allocated.base < contents.base + contents.uSize)
    (given : givenBack front allocated back = some extent)
    (lastTags : last.tags = freedTags front allocated back)
    (resources : last.resources = linked.resources.eraseP
      fun span => span.base.toNat == extent.base)
    (sameBase : extent.base = span.base.toNat) :
    contents = span.segment := by
  rcases (isLinked.mem contents).mp member with old | new
  · have segment : contents.type ≠ .span := by simp [free]
    have arenaResources : last.resources = arena.resources := by
      rw [resources, isLinked.resources, sameBase]
      exact List.eraseP_cons_of_pos (by simp)
    have covered := (invariant.consistent.covers allocated.base).mp
      ⟨contents, old, segment, above, below⟩
    rw [← arenaResources] at covered
    obtain ⟨other, otherMember, otherSegment, otherAbove, otherBelow⟩ :=
      (lastInvariant.consistent.covers allocated.base).mpr covered
    rw [lastTags] at otherMember
    have apart := layout.uncovered (by rw [isLive]; simp)
      (by rw [given]; rfl) other otherMember otherSegment
    omega
  · exact span.free_of_fresh new free

/-- The second attempt leaves the span behind or gives it back. -/
theorem Linked.second_failed
    (isLinked : Linked arena linked span)
    (invariant : Invariant arena)
    (linkedInvariant : Invariant linked)
    (positive : 0 < request.uSize.toNat)
    (lastInvariant : Invariant last)
    (second : Attempted linked last request attemptAnswers linked.tags
      last.tags none) :
    (SpanReturns linked span request attemptAnswers ∧
        last.tags = arena.tags ∧ last.resources = arena.resources) ∨
      ¬SpanReturns linked span request attemptAnswers ∧
        span ∈ last.resources := by
  have kept := linkedInvariant
  obtain ⟨spans, sound⟩ := linkedInvariant
  have layout : Layout linked.tags spans := sound.layout
  have held : span ∈ linked.resources := by
    rw [isLinked.resources]
    exact List.mem_cons_self
  generalize linkedTags : linked.tags = tags at *
  generalize lastTags : last.tags = tagsLast at *
  cases second with
  | refused same unfit =>
    refine Or.inr ⟨?_, by rw [same]; exact held⟩
    rintro ⟨chosen, _⟩
    obtain ⟨member, free, fits⟩ := chosen.fits kept
    rw [linkedTags] at member
    exact unfit _ member free fits
  | @spoiled front back _ contents free fits spoiled chosen =>
    cases spoiled with
    | frontSplit failed needed _ frees =>
      refine Or.inr ⟨?_, by rw [frees.resources]; exact held⟩
      rintro ⟨chosenFresh, reaches⟩
      obtain rfl := chosen.unique chosenFresh
      have split := reaches.1 needed
      rw [failed] at split
      cases split
    | backSplit failed needed _ _ frees =>
      refine Or.inr ⟨?_, by rw [frees.resources]; exact held⟩
      rintro ⟨chosenFresh, reaches⟩
      obtain rfl := chosen.unique chosenFresh
      have split := reaches.2 needed
      rw [failed] at split
      cases split
    | hashInsert _ reached tags_eq frees =>
      by_cases isFresh : contents = span.segment
      · subst isFresh
        obtain ⟨restored, gone⟩ := isLinked.freed_whole layout linkedTags fits
        have resources := frees.resources
        rw [gone, isLinked.resources] at resources
        refine Or.inl ⟨⟨chosen, reached⟩, tags_eq.trans restored, ?_⟩
        simp [resources, Import.extent]
      · refine Or.inr ⟨fun returns => isFresh (chosen.unique returns.1), ?_⟩
        rw [frees.resources]
        cases given : givenBack (front ++ frontPiece request contents)
            (block request contents)
            (backPiece request contents ++ back) with
        | none => exact held
        | some extent =>
          have segment : contents.type ≠ .span := by simp [free]
          obtain ⟨room, above⟩ := fits.block_inside layout segment
          obtain ⟨_, cutLayout, _⟩ := layout.cut segment positive room
          rw [List.append_assoc, List.append_assoc, ← List.append_assoc]
            at cutLayout
          have resources := frees.resources
          rw [given] at resources
          have member : contents ∈ linked.tags := by
            rw [linkedTags]
            simp
          have different : ¬(span.base.toNat == extent.base) := by
            intro same
            apply isFresh
            apply isLinked.given_fresh invariant lastInvariant member
              free cutLayout rfl above ?_ given
                (lastTags.trans tags_eq) resources
                  (beq_iff_eq.mp same).symm
            unfold blockEnd at room
            change alignedBase request contents.base <
              contents.base + contents.uSize
            omega
          exact (List.mem_eraseP_of_neg (a := span)
            (p := fun span => span.base.toNat == extent.base)
              different).mpr held

/-- A call that returns nothing leaves the arena unchanged if it fails cleanly,
and only then unless the callback hands over again what it has just got
back. -/
theorem failureUnchanged_iff
    (invariant : Invariant arena)
    (positive : 0 < request.uSize.toNat)
    (offers : OffersDisjoint arena request answers) :
    (FailsCleanly arena request answers →
        FailureUnchanged arena request answers) ∧
      (FreshSpan arena request answers →
        FailureUnchanged arena request answers →
          FailsCleanly arena request answers) := by
  have kept := invariant
  obtain ⟨spans, sound⟩ := invariant
  obtain ⟨middle, result, allMiddle, spansMiddle, attemptEq, middleSound,
    attempt⟩ := attempt_spec sound positive answers.first
  cases result with
  | some allocation =>
    constructor
    · intro _ after returned
      rw [raAlloc, attemptEq] at returned
      cases returned
    · intro _ _ other failed
      rw [attemptEq] at failed
      cases failed
  | none =>
    obtain ⟨tagsIff, resources⟩ := attempt.tags_iff kept
    have unchanged : AttemptKeeps arena request answers.first →
        Unchanged arena middle := by
      intro keeps
      refine ⟨tagsIff.mpr keeps, ?_⟩
      rw [resources keeps]
    cases handed : middle.importAlloc request answers with
    | none =>
      have returned : arena.raAlloc request answers =
          some (middle, none) := by
        rw [raAlloc, attemptEq]
        simp only [handed]
      constructor
      · intro cleanly after afterEq
        rw [returned] at afterEq
        cases afterEq
        exact unchanged ((cleanly middle attemptEq).1 (Or.inl handed))
      · intro _ leaves other failed
        rw [attemptEq] at failed
        cases failed
        refine ⟨fun _ => tagsIff.mp (leaves middle returned).1, ?_⟩
        intro span linked last isHanded
        rw [handed] at isHanded
        cases isHanded
    | some span =>
      have returned : arena.raAlloc request answers =
          middle.allocImported span request answers := by
        rw [raAlloc, attemptEq]
        simp only [handed]
      have offered := offers middle attemptEq span handed
      rcases allocImported_spec middleSound
          (importAlloc_importing handed).1 offered request answers with
        ⟨unbuilt, notLinked, stepEq⟩ | ⟨built, linked, allLinked,
          spansLinked, linkedEq, linkedSound, isLinked, stepEq⟩
      · rw [stepEq] at returned
        constructor
        · intro cleanly after afterEq
          rw [returned] at afterEq
          cases afterEq
          exact unchanged ((cleanly middle attemptEq).1 (Or.inr unbuilt))
        · intro _ leaves other failed
          rw [attemptEq] at failed
          cases failed
          refine ⟨fun _ => tagsIff.mp (leaves _ returned).1, ?_⟩
          intro other linked last isHanded isLinked
          rw [handed] at isHanded
          cases isHanded
          rw [notLinked] at isLinked
          cases isLinked
      · rw [stepEq] at returned
        obtain ⟨last, secondResult, _, _, secondEq, lastSound, second⟩ :=
          attempt_spec linkedSound positive answers.second
        rw [secondEq] at returned
        constructor
        · intro cleanly after afterEq
          rw [returned] at afterEq
          cases afterEq
          obtain ⟨keeps, returns⟩ := (cleanly middle attemptEq).2 span
            linked last handed linkedEq secondEq
          rcases isLinked.second_failed middleSound.invariant
              linkedSound.invariant positive lastSound.invariant
                second with
            ⟨_, tagsEq, resourcesEq⟩ | ⟨stays, _⟩
          · obtain ⟨tagsMiddle, permMiddle⟩ := unchanged keeps
            rw [← resourcesEq] at permMiddle
            exact ⟨tagsEq.trans tagsMiddle, permMiddle⟩
          · exact absurd returns stays
        · intro fresh leaves other failed
          rw [attemptEq] at failed
          cases failed
          constructor
          · rintro (notHanded | unbuilt)
            · rw [handed] at notHanded
              cases notHanded
            · exact absurd built unbuilt
          · intro other linkedOther lastOther isHanded isLinkedOther lastEq
            rw [handed] at isHanded
            cases isHanded
            rw [linkedEq] at isLinkedOther
            cases isLinkedOther
            rw [secondEq] at lastEq
            cases lastEq
            have after := leaves last returned
            rcases isLinked.second_failed middleSound.invariant
                linkedSound.invariant positive lastSound.invariant
                  second with
              ⟨returns, tagsEq, _⟩ | ⟨_, stays⟩
            · exact ⟨tagsIff.mp (tagsEq.symm.trans after.1), returns⟩
            · have held : span.extent ∈
                  last.resources.map Import.extent :=
                List.mem_map_of_mem stays
              rw [after.2.mem_iff] at held
              exact absurd held (fresh middle attemptEq span handed)

/-- A request whose block lies in the middle of three pages. -/
def middlePage : Request where
  uSize := 4096
  uFlags := 0
  uAlignment := 8192
  uAlignmentOffset := 4096

/-- Memory for the front split only, and nothing is imported. -/
def frontSplitOnly : Answers where
  first := ⟨true, false, true⟩
  imports := fun _ _ => none
  tags := ⟨true, true, true⟩
  second := .granted

/-- The three pages after the back split has failed. -/
def cutPages : RaArena :=
  ((pagedArena.raAlloc middlePage frontSplitOnly).map Prod.fst).getD pagedArena

/-- A failed back split leaves the front split behind. -/
theorem failureUnchanged_middlePage :
    Invariant pagedArena ∧
      ¬FailureUnchanged pagedArena middlePage frontSplitOnly := by
  refine ⟨pagedArena_invariant, fun unchanged => ?_⟩
  have returned : pagedArena.raAlloc middlePage frontSplitOnly =
      some (cutPages, none) := rfl
  have before : pagedArena.tags.length = 1 := rfl
  have behind : cutPages.tags.length = 2 := rfl
  rw [(unchanged cutPages returned).1, before] at behind
  cases behind

/-- A refused import leaves the arena as it is. -/
theorem failureUnchanged_refused :
    FailureUnchanged importingArena pageRequest frontSplitOnly := by
  have unfit : importingArena.attemptAllocAligned pageRequest
      frontSplitOnly.first = some (importingArena, none) := rfl
  have offers : OffersDisjoint importingArena pageRequest frontSplitOnly := by
    intro middle attempt span handed
    rw [unfit] at attempt
    cases attempt
    cases handed
  apply (failureUnchanged_iff importingArena_invariant (by decide) offers).1
  intro middle attempt
  rw [unfit] at attempt
  cases attempt
  constructor
  · rintro _ front contents back tagsEq
    have none : importingArena.tags = [] := rfl
    rw [none] at tagsEq
    exact absurd tagsEq.symm (List.append_ne_nil_of_right_ne_nil front
      (by simp))
  · intro span linked last handed
    cases handed

end PvrServices.Arena
