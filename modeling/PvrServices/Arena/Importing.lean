import PvrServices.Arena.Allocating

/-!
# Importing spans

When no free segment fits, the import callback is asked for a span.  The span
and its markers are linked in by its base, and the allocation is tried again.
-/

namespace PvrServices.Arena

open Function (update update_of_ne update_self)
open RaArena
open Segments (bt_segmentListInsertAfter bt_setBt buildBT)
open List (map_append map_cons mem_append mem_cons not_mem_nil)

variable {segments : Segments} {all pending before after : List Address}
  {pBT : Address} {spans : List Span} {span : Import} {arena : RaArena}
  {request : Request} {answers : Answers}

/-- A span that an import callback may hand over: it is not empty, lies below
the address limit and is disjoint from the segments of the arena. -/
structure Offered (tags : List Bt) (span : Import) : Prop where
  positive : 0 < span.uSize.toNat
  within : span.base.toNat + span.uSize.toNat ≤ addressLimit
  disjoint : ∀ tag ∈ tags, tag.type ≠ .span →
    tag.base + tag.uSize ≤ span.base.toNat ∨
      span.base.toNat + span.uSize.toNat ≤ tag.base

/-- The span is disjoint from those of the arena. -/
theorem Offered.disjoint_spans
    {tags : List Bt}
    (offered : Offered tags span)
    (layout : Layout tags spans) :
    ∀ other ∈ spans,
      other.extent.base + other.extent.uSize ≤ span.base.toNat ∨
        span.base.toNat + span.uSize.toNat ≤ other.extent.base := by
  intro other member
  have otherPositive := (layout.sound other member).positive
  have positive := offered.positive
  by_contra overlap
  obtain ⟨address, inOther, inSpan⟩ : ∃ address,
      (other.extent.base ≤ address ∧
        address < other.extent.base + other.extent.uSize) ∧
          span.base.toNat ≤ address ∧
            address < span.base.toNat + span.uSize.toNat :=
    ⟨max other.extent.base span.base.toNat, by omega, by omega⟩
  obtain ⟨tag, isTag, segment, above, below⟩ :=
    (layout.covers address).mpr ⟨other, member, inOther⟩
  rcases offered.disjoint tag isTag segment with ends | starts
  · omega
  · omega

/-- Contents that keep the type and the size of a tag keep its list. -/
theorem Filed.setBt_congr
    (filed : Filed segments all pending)
    (contents : Bt)
    (type : contents.type = (segments.bt pBT).type)
    (uSize : contents.uSize = (segments.bt pBT).uSize) :
    Filed (segments.setBt pBT contents) all pending where
  links := filed.links
  distinct := filed.distinct
  bounded := filed.bounded
  files := by
    have same : ∀ entry,
        ((segments.setBt pBT contents).bt entry).type =
            (segments.bt entry).type ∧
          ((segments.setBt pBT contents).bt entry).uSize =
            (segments.bt entry).uSize := by
      intro entry
      rw [bt_setBt]
      by_cases isTag : entry = pBT
      · subst isTag
        rw [update_self]
        exact ⟨type, uSize⟩
      · rw [update_of_ne isTag]
        exact ⟨rfl, rfl⟩
    refine filed.files_congr rfl (fun _ _ => rfl) (fun _ _ => rfl) ?_
    intro uIndex entry
    constructor
    · intro onList
      exact ⟨onList.listed, onList.settled, (same entry).1 ▸ onList.free,
        (same entry).2 ▸ onList.sized⟩
    · intro onList
      exact ⟨onList.listed, onList.settled,
        (same entry).1.trans onList.free,
        (congrArg pvrLog2 (same entry).2).trans onList.sized⟩

/-- A new tag is built and not yet listed. -/
theorem Filed.built
    (filed : Filed segments all pending)
    (contents : Bt) :
    Filed (segments.buildTag contents).1 all pending ∧
      (segments.buildTag contents).1.bt =
          update segments.bt segments.fresh contents ∧
        (segments.buildTag contents).1.fresh = segments.fresh + 1 ∧
          (segments.buildTag contents).2 = segments.fresh :=
  ⟨filed.buildTag contents, rfl, rfl, rfl⟩

/-- The three tags of a span stand together where its base puts them. -/
structure SpanInserted (segments inserted : Segments)
    (before after : List Address) (start whole stop : Address)
    (base uSize : Nat) : Prop where
  filed : Filed inserted (before ++ start :: whole :: stop :: after) []
  old : ∀ entry ∈ before ++ after, inserted.bt entry = segments.bt entry
  fresh : start ∉ before ++ after ∧ whole ∉ before ++ after ∧
    stop ∉ before ++ after
  startBt : inserted.bt start = ⟨.span, base, uSize, none⟩
  wholeBt : inserted.bt whole = ⟨.free, base, uSize, none⟩
  stopBt : inserted.bt stop = ⟨.span, base + uSize, 0, none⟩
  below : ∀ entry ∈ before, (segments.bt entry).base ≤ base
  above : ∀ first ∈ after.head?, base < (segments.bt first).base

/-- `_InsertResourceSpan` inserts the tags of the span if it can allocate
them. -/
theorem insertResourceSpan_spec
    {base uSize : Nat}
    (filed : Filed segments all [])
    (noWrap : base + uSize < 2 ^ 64)
    (answers : SpanAnswers) :
    (segments.insertResourceSpan base uSize answers = some none ∧
        answers ≠ ⟨true, true, true⟩) ∨
      ∃ inserted before after start whole stop,
        segments.insertResourceSpan base uSize answers =
            some (some (inserted, whole)) ∧
          answers = ⟨true, true, true⟩ ∧ all = before ++ after ∧
            SpanInserted segments inserted before after start whole stop base
              uSize := by
  obtain ⟨spanStart, spanEnd, bt⟩ := answers
  unfold Segments.insertResourceSpan Segments.buildSpanMarker buildBT
  cases spanStart with
  | false => exact Or.inl ⟨rfl, by simp⟩
  | true =>
  cases spanEnd with
  | false => exact Or.inl ⟨rfl, by simp⟩
  | true =>
  cases bt with
  | false => exact Or.inl ⟨rfl, by simp⟩
  | true =>
  refine Or.inr ?_
  simp only [if_true, wrap64, Nat.mod_eq_of_lt noWrap]
  obtain ⟨filedOne, btOne, freshOne, tagOne⟩ :=
    filed.built ⟨.span, base, uSize, none⟩
  generalize segments.buildTag ⟨.span, base, uSize, none⟩ = one at *
  obtain ⟨one, start⟩ := one
  simp only at filedOne btOne freshOne tagOne ⊢
  obtain ⟨filedTwo, btTwo, freshTwo, tagTwo⟩ :=
    filedOne.built ⟨.span, base + uSize, 0, none⟩
  generalize one.buildTag ⟨.span, base + uSize, 0, none⟩ = two at *
  obtain ⟨two, stop⟩ := two
  simp only at filedTwo btTwo freshTwo tagTwo ⊢
  obtain ⟨filedThree, btThree, freshThree, tagThree⟩ :=
    filedTwo.built ⟨.free, base, uSize, none⟩
  generalize two.buildTag ⟨.free, base, uSize, none⟩ = three at *
  obtain ⟨three, whole⟩ := three
  simp only at filedThree btThree freshThree tagThree ⊢
  have bt : three.bt = update (update (update
      segments.bt start ⟨.span, base, uSize, none⟩) stop
        ⟨.span, base + uSize, 0, none⟩) whole ⟨.free, base, uSize, none⟩ := by
    rw [btThree, btTwo, btOne, tagOne, tagTwo, tagThree]
  have startBelow : start < stop := by
    rw [tagOne, tagTwo, freshOne]
    exact Nat.lt_succ_self _
  have stopBelow : stop < whole := by
    rw [tagTwo, tagThree, freshTwo]
    exact Nat.lt_succ_self _
  have wholeBelow : whole < three.fresh := by
    rw [tagThree, freshThree]
    exact Nat.lt_succ_self _
  have startStop : start ≠ stop := Nat.ne_of_lt startBelow
  have stopWhole : stop ≠ whole := Nat.ne_of_lt stopBelow
  have startWhole : start ≠ whole :=
    Nat.ne_of_lt (Nat.lt_trans startBelow stopBelow)
  have startBt : three.bt start = ⟨.span, base, uSize, none⟩ := by
    rw [bt, update_of_ne startWhole, update_of_ne startStop, update_self]
  have stopBt : three.bt stop = ⟨.span, base + uSize, 0, none⟩ := by
    rw [bt, update_of_ne stopWhole, update_self]
  have wholeBt : three.bt whole = ⟨.free, base, uSize, none⟩ := by
    rw [bt, update_self]
  have old : ∀ entry ∈ all, three.bt entry = segments.bt entry := by
    intro entry listed
    have belowStart : entry < start := by
      rw [tagOne]
      exact filed.bounded entry listed
    have belowStop := Nat.lt_trans belowStart startBelow
    rw [bt, update_of_ne (Nat.ne_of_lt
        (Nat.lt_trans belowStop stopBelow)),
      update_of_ne (Nat.ne_of_lt belowStop),
      update_of_ne (Nat.ne_of_lt belowStart)]
  have unlisted : ∀ entry, start ≤ entry → entry ∉ all := by
    intro entry above listed
    rw [tagOne] at above
    exact Nat.lt_irrefl _ (Nat.lt_of_lt_of_le (filed.bounded entry listed)
      above)
  have unlistedStart := unlisted start (Nat.le_refl _)
  have unlistedStop := unlisted stop (Nat.le_of_lt startBelow)
  have unlistedWhole := unlisted whole
    (Nat.le_of_lt (Nat.lt_trans startBelow stopBelow))
  obtain ⟨before, after, inserted, allEq, insertedEq, filedStart, insertedBt,
    insertedFresh, below, above⟩ :=
    filedThree.segmentListInsert unlistedStart
      (Nat.lt_trans startBelow (Nat.lt_trans stopBelow wholeBelow))
      (by rw [startBt]; simp)
  subst allEq
  rw [insertedEq]
  have wholeUnlisted : whole ∉ before ++ start :: after := by
    simp only [mem_append, mem_cons, not_or] at unlistedWhole ⊢
    exact ⟨unlistedWhole.1, startWhole.symm, unlistedWhole.2⟩
  have filedPending : Filed inserted (before ++ start :: after) [whole] := by
    apply filedStart.pending_congr
    intro entry listed _
    rw [List.mem_singleton]
    constructor
    · rintro rfl
      exact absurd listed wholeUnlisted
    · intro impossible
      exact absurd impossible not_mem_nil
  have filedWhole := filedPending.segmentListInsertAfter wholeUnlisted
    (by rw [insertedFresh]; exact wholeBelow) fun _ => List.mem_cons_self
  have filedFree := filedWhole.freeListInsert (by simp) not_mem_nil
  have stopUnlisted : stop ∉ (before ++ [start]) ++ whole :: after := by
    simp only [mem_append, mem_cons, not_mem_nil, or_false,
      not_or] at unlistedStop ⊢
    exact ⟨⟨unlistedStop.1, startStop.symm⟩, stopWhole, unlistedStop.2⟩
  have filedSplit : Filed
      ((inserted.segmentListInsertAfter start whole).freeListInsert whole)
        ((before ++ [start]) ++ whole :: after) [] := by
    simpa using filedFree
  have finalBt : ((inserted.segmentListInsertAfter start whole).freeListInsert
      whole).bt = three.bt := by
    have isFree : { three.bt whole with type := .free } = three.bt whole := by
      rw [wholeBt]
    rw [Segments.bt_freeListInsert, bt_segmentListInsertAfter,
      insertedBt, isFree, Function.update_eq_self]
  have filedStop := filedSplit.segmentListInsertAfter stopUnlisted
    (by
      rw [Segments.fresh_freeListInsert, Segments.fresh_segmentListInsertAfter,
        insertedFresh]
      exact Nat.lt_trans stopBelow wholeBelow)
    (by rw [finalBt, stopBt]; simp)
  refine ⟨_, before, after, start, whole, stop, rfl, trivial, rfl, ?_⟩
  refine ⟨by simpa using filedStop, ?_,
    ⟨unlistedStart, unlistedWhole, unlistedStop⟩, ?_, ?_, ?_, ?_, ?_⟩
  · intro entry listed
    rw [bt_segmentListInsertAfter, finalBt, old entry listed]
  · rw [bt_segmentListInsertAfter, finalBt, startBt]
  · rw [bt_segmentListInsertAfter, finalBt, wholeBt]
  · rw [bt_segmentListInsertAfter, finalBt, stopBt]
  · intro entry listed
    have ordered := below entry listed
    rw [startBt, old entry (List.mem_append_left _ listed)] at ordered
    exact ordered
  · intro first isFirst
    have ordered := above first isFirst
    rw [startBt, old first (List.mem_append_right _
      (List.mem_of_mem_head? isFirst))] at ordered
    exact ordered

/-- The arena with the span linked in. -/
structure Linked (arena linked : RaArena) (span : Import) : Prop where
  tags : ∃ front back, arena.tags = front ++ back ∧
    linked.tags = front ++ span.extent.freshSpan.tags ++ back
  resources : linked.resources = span :: arena.resources
  others : linked.pSegmentHash = arena.pSegmentHash ∧
    linked.uQuantum = arena.uQuantum ∧
      linked.pImportAlloc = arena.pImportAlloc ∧
        linked.pBackingStoreFree = arena.pBackingStoreFree ∧
          linked.importFrees = arena.importFrees ∧
            linked.backingStoreFrees = arena.backingStoreFrees

/-- Linking in the span that the import callback offers keeps the
invariant. -/
theorem SpanInserted.sound
    {inserted : Segments}
    {start whole stop : Address}
    (sound : Sound arena (before ++ after) [] spans)
    (importing : arena.pImportAlloc = true)
    (offered : Offered arena.tags span)
    (isInserted : SpanInserted arena.segments inserted before after start whole
      stop span.base.toNat span.uSize.toNat) :
    ∃ linked spansAfter,
      linked = { arena with
        resources := span :: arena.resources
        segments := inserted.setBt whole
          { inserted.bt whole with psMapping := span.psMapping } } ∧
        Sound linked (before ++ start :: whole :: stop :: after) []
            spansAfter ∧
          Linked arena linked span := by
  have tagsEq := sound.tags_eq
  rw [map_append] at tagsEq
  have layout := sound.layout
  rw [map_append] at layout
  have wholeAbsent : whole ∉ before ∧ whole ∉ after := by
    simpa [not_or] using isInserted.fresh.2.1
  have distinct := isInserted.filed.distinct
  have wholeStart : start ≠ whole := by
    rintro rfl
    simp [List.nodup_append] at distinct
  have wholeStop : stop ≠ whole := by
    rintro rfl
    simp [List.nodup_append] at distinct
  have oldMap : ∀ entries : List Address, (∀ entry ∈ entries,
      entry ∈ before ++ after) →
        entries.map inserted.bt = entries.map arena.segments.bt :=
    fun entries within => List.map_congr_left fun entry member =>
      isInserted.old entry (within entry member)
  have mapped : (before ++ start :: whole :: stop :: after).map
      (inserted.setBt whole
        { inserted.bt whole with psMapping := span.psMapping }).bt =
      before.map arena.segments.bt ++ span.extent.freshSpan.tags ++
        after.map arena.segments.bt := by
    simp only [bt_setBt, map_append, map_cons]
    rw [map_update _ _ wholeAbsent.1, map_update _ _ wholeAbsent.2,
      update_self, update_of_ne wholeStart,
      update_of_ne wholeStop, isInserted.startBt,
      isInserted.stopBt, isInserted.wholeBt,
      oldMap before (fun _ member => List.mem_append_left _ member),
      oldMap after (fun _ member => List.mem_append_right _ member)]
    simp [Span.tags, Span.opening, Span.closing, Extent.freshSpan,
      Extent.startMarker, Extent.endMarker, Import.extent]
  obtain ⟨earlier, later, rfl, layoutAfter⟩ :=
    layout.addSpan (sound.kind importing)
      (show 0 < span.extent.uSize from offered.positive) span.uSize.isLt
      offered.within
      (offered.disjoint_spans (by rw [sound.tags_eq]; exact sound.layout))
      (by
        intro tag member
        obtain ⟨entry, listed, rfl⟩ := List.mem_map.mp member
        exact isInserted.below entry listed)
      (by
        intro tag isFirst
        rw [List.head?_map] at isFirst
        obtain ⟨entry, first, rfl⟩ := Option.map_eq_some_iff.mp isFirst
        exact isInserted.above entry first)
  refine ⟨_, earlier ++ span.extent.freshSpan :: later, rfl, ?_, ?_⟩
  · refine ⟨isInserted.filed.setBt_congr _ rfl rfl, ?_, ?_, ?_, ?_,
      sound.quantum⟩
    · apply sound.hashed.sameLive _ fun _ _ _ => Iff.rfl
      constructor
      · intro entry listed _
        refine ⟨?_, ?_⟩
        · simp only [mem_append, mem_cons] at listed ⊢
          tauto
        · have different : entry ≠ whole := by
            rintro rfl
            exact isInserted.fresh.2.1 listed
          rw [bt_setBt, update_of_ne different]
          exact isInserted.old entry listed
      · intro entry listed isLive
        by_cases isWhole : entry = whole
        · subst isWhole
          rw [bt_setBt, update_self, isInserted.wholeBt]
            at isLive
          cases isLive
        · rw [bt_setBt, update_of_ne isWhole] at isLive ⊢
          have inOld : entry ∈ before ++ after := by
            simp only [mem_append, mem_cons] at listed ⊢
            rcases listed with inBefore | rfl | rfl | rfl | inAfter
            · exact Or.inl inBefore
            · rw [isInserted.startBt] at isLive
              cases isLive
            · exact absurd rfl isWhole
            · rw [isInserted.stopBt] at isLive
              cases isLive
            · exact Or.inr inAfter
          exact ⟨inOld, isInserted.old entry inOld⟩
    · rw [mapped]
      exact layoutAfter
    · rw [map_append, map_cons]
      have resources := sound.resources
      rw [map_append] at resources
      exact (List.perm_middle.trans (resources.cons _))
    · intro importing other member
      simp only [mem_append, mem_cons] at member
      rcases member with inEarlier | rfl | inLater
      · exact sound.kind importing other (List.mem_append_left _ inEarlier)
      · rfl
      · exact sound.kind importing other (List.mem_append_right _ inLater)
  · refine ⟨⟨_, _, tagsEq, ?_⟩, rfl, rfl, rfl, rfl, rfl, rfl, rfl⟩
    have linkedFiled : Filed (inserted.setBt whole
        { inserted.bt whole with psMapping := span.psMapping })
          (before ++ start :: whole :: stop :: after) [] :=
      isInserted.filed.setBt_congr _ rfl rfl
    rw [RaArena.tags, linkedFiled.list_eq, mapped]

/-! ## `RA_Alloc` -/

/-- The import callback keeps to its contract when `RA_Alloc` calls it. -/
def OffersDisjoint (arena : RaArena) (request : Request) (answers : Answers) :
    Prop :=
  ∀ middle, arena.attemptAllocAligned request answers.first =
      some (middle, none) →
    ∀ span ∈ middle.importAlloc request answers, Offered middle.tags span

/-- What `RA_Alloc` does: an attempt, and if that fails and a span can be
imported and linked in, another one. -/
inductive Allocated (arena after : RaArena) (request : Request)
    (answers : Answers) : Option Allocation → Prop where
  | direct {allocation : Allocation}
      (attempt : Attempted arena after request answers.first arena.tags
        after.tags (some allocation))
      (attempted : arena.attemptAllocAligned request answers.first =
        some (after, some allocation)) :
      Allocated arena after request answers (some allocation)
  | notImported
      (attempt : Attempted arena after request answers.first arena.tags
        after.tags none)
      (refused : after.importAlloc request answers = none) :
      Allocated arena after request answers none
  | notLinked {middle : RaArena} {span : Import}
      (attempt : Attempted arena middle request answers.first arena.tags
        middle.tags none)
      (handed : middle.importAlloc request answers = some span)
      (failed : answers.tags ≠ ⟨true, true, true⟩)
      (after_eq : after = { middle with
        importFrees := middle.importFrees ++
          [(span.base.toNat, span.psMapping)] }) :
      Allocated arena after request answers none
  | linked {middle linked : RaArena} {span : Import}
      {result : Option Allocation}
      (attempt : Attempted arena middle request answers.first arena.tags
        middle.tags none)
      (handed : middle.importAlloc request answers = some span)
      (built : answers.tags = ⟨true, true, true⟩)
      (middleInvariant : Invariant middle)
      (isLinked : Linked middle linked span)
      (linkedInvariant : Invariant linked)
      (second : Attempted linked after request answers.second linked.tags
        after.tags result)
      (attempted : arena.attemptAllocAligned request answers.first =
        some (middle, none))
      (linkedEq : middle.linkImported span answers.tags = some (some linked)) :
      Allocated arena after request answers result

/-- An arena that imports has an import callback. -/
theorem importAlloc_importing
    (handed : arena.importAlloc request answers = some span) :
    arena.pImportAlloc = true ∧
      answers.imports (importSize arena.uQuantum request) request.uFlags =
        some span := by
  unfold importAlloc at handed
  split at handed
  · exact ⟨‹_›, handed⟩
  · cases handed

/-- `RA_Alloc`, from the import callback's answer on: without memory for the
tags the span goes back, and otherwise it is linked in for the second
attempt. -/
theorem allocImported_spec
    (sound : Sound arena all [] spans)
    (importing : arena.pImportAlloc = true)
    (offered : Offered arena.tags span)
    (request : Request)
    (answers : Answers) :
    (answers.tags ≠ ⟨true, true, true⟩ ∧
        arena.linkImported span answers.tags = some none ∧
        arena.allocImported span request answers = some
          ({ arena with
            importFrees := arena.importFrees ++
              [(span.base.toNat, span.psMapping)] }, none)) ∨
      answers.tags = ⟨true, true, true⟩ ∧
        ∃ linked allLinked spansLinked,
          arena.linkImported span answers.tags = some (some linked) ∧
            Sound linked allLinked [] spansLinked ∧
              Linked arena linked span ∧
                arena.allocImported span request answers =
                  linked.attemptAllocAligned request answers.second := by
  have within := offered.within
  unfold allocImported linkImported
  rcases insertResourceSpan_spec sound.filed
      (show span.base.toNat + span.uSize.toNat < 2 ^ 64 by
        unfold addressLimit at within
        omega) answers.tags with
    ⟨insertEq, failed⟩ | ⟨inserted, before, after, start, whole, stop,
      insertEq, built, rfl, isInserted⟩
  · refine Or.inl ⟨failed, ?_, ?_⟩
    · simp only [insertEq]
    · simp [insertEq, importFree]
  · obtain ⟨linked, spansLinked, linkedEq, linkedSound, isLinked⟩ :=
      isInserted.sound sound importing offered
    refine Or.inr ⟨built, linked, _, spansLinked, ?_, linkedSound, isLinked, ?_⟩
    · simp only [insertEq]
      rw [linkedEq]
    · simp only [insertEq]
      rw [linkedEq]

/-- `RA_Alloc` ends, keeps the invariant and does what it may. -/
theorem raAlloc_spec
    (sound : Sound arena all [] spans)
    (positive : 0 < request.uSize.toNat)
    (offers : OffersDisjoint arena request answers) :
    ∃ after result allAfter spansAfter,
      arena.raAlloc request answers = some (after, result) ∧
        Sound after allAfter [] spansAfter ∧
          Allocated arena after request answers result := by
  obtain ⟨middle, first, allMiddle, spansMiddle, firstEq, middleSound,
    attempt⟩ := attempt_spec sound positive answers.first
  unfold raAlloc
  rw [firstEq]
  cases first with
  | some allocation =>
    exact ⟨middle, some allocation, allMiddle, spansMiddle, rfl, middleSound,
      Allocated.direct attempt firstEq⟩
  | none =>
    simp only
    cases handed : middle.importAlloc request answers with
    | none =>
      exact ⟨middle, none, allMiddle, spansMiddle, rfl, middleSound,
        Allocated.notImported attempt handed⟩
    | some span =>
      have importing := (importAlloc_importing handed).1
      have offered := offers middle firstEq span handed
      rcases allocImported_spec middleSound importing offered request
          answers with
        ⟨failed, _, stepEq⟩ | ⟨built, linked, allLinked, spansLinked,
          linkedEq, linkedSound, isLinked, stepEq⟩
      · refine ⟨_, none, allMiddle, spansMiddle, stepEq, ?_,
          Allocated.notLinked attempt handed failed rfl⟩
        exact ⟨middleSound.filed, middleSound.hashed, middleSound.layout,
          middleSound.resources, middleSound.kind, middleSound.quantum⟩
      · obtain ⟨last, result, allLast, spansLast, secondEq, lastSound,
          second⟩ := attempt_spec linkedSound positive answers.second
        refine ⟨last, result, allLast, spansLast, ?_, lastSound,
          Allocated.linked attempt handed built middleSound.invariant
            isLinked linkedSound.invariant second firstEq linkedEq⟩
        simp only
        rw [stepEq, secondEq]

end PvrServices.Arena
