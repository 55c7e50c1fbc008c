import PvrServices.Arena.Filed
import PvrServices.Arena.Partition

/-!
# The arena as a sequence of tags

The list functions are shown to change the sequence of tags as the cuts and
joins of its segments say, to keep each free tag on its free list and each
live one in the segment hash.
-/

namespace PvrServices.Arena

open Function (update update_of_ne update_self)
open RaArena
open List (append_cons append_nil map_append map_cons map_singleton mem_append
  mem_cons mem_cons_self not_mem_nil)

variable {segments : Segments} {all pending before after : List Address}
  {pBT : Address} {spans : List Span}

/-- A tag leaves the mapped contents of the others alone. -/
theorem map_update
    {entries : List Address}
    (bt : Address → Bt)
    (contents : Bt)
    (absent : pBT ∉ entries) :
    entries.map (update bt pBT contents) = entries.map bt := by
  apply List.map_congr_left
  intro entry member
  apply update_of_ne
  rintro rfl
  exact absent member

/-- A listed tag is listed once. -/
theorem Filed.absent
    (filed : Filed segments (before ++ pBT :: after) pending) :
    pBT ∉ before ∧ pBT ∉ after := by
  have distinct := (List.nodup_cons.mp (List.nodup_middle.mp filed.distinct)).1
  rw [mem_append, not_or] at distinct
  exact distinct

/-! ## Joining a tag with its neighbours -/

/-- What `_FreeBT` has done when it has dealt with one neighbour. -/
structure Joined (segments joined : Segments) (all allAfter : List Address)
    (pBT : Address) : Prop where
  filed : Filed joined allAfter [pBT]
  bt : joined.bt = Function.update segments.bt pBT (joined.bt pBT)
  kept : ∀ entry ∈ allAfter, entry ∈ all
  gone : ∀ entry ∈ all, entry ∉ allAfter →
    (segments.bt entry).type = .free

/-- Neighbouring segments meet, and their sizes add up without a wrap. -/
theorem Layout.join_fits
    {front back : List Bt}
    {tag other : Bt}
    (layout : Layout (front ++ tag :: other :: back) spans)
    (segment : tag.type ≠ .span)
    (otherSegment : other.type ≠ .span) :
    wrap64 (tag.base + tag.uSize) = other.base ∧
      wrap32 (tag.uSize + other.uSize) = tag.uSize + other.uSize := by
  have touching := layout.touch segment otherSegment
  have bounds := layout.segment_bounds (by simp) segment
  unfold addressLimit at bounds
  constructor
  · rw [wrap64, Nat.mod_eq_of_lt (by omega)]
    exact touching.1
  · exact Nat.mod_eq_of_lt (by omega)

/-- Nothing is done where the neighbour is in use or missing. -/
theorem Joined.refl
    (filed : Filed segments all [pBT]) :
    Joined segments segments all all pBT where
  filed := filed
  bt := (Function.update_eq_self ..).symm
  kept := fun _ member => member
  gone := fun _ member absent => absurd member absent

/-- A free neighbour is taken off both lists and added to the tag. -/
theorem Filed.absorb
    {neighbour : Address}
    (filed : Filed segments (before ++ neighbour :: after) [pBT])
    (listed : pBT ∈ before ++ after)
    (free : (segments.bt neighbour).type = .free)
    (contents : Bt) :
    Joined segments
      (((segments.freeListRemove neighbour).segmentListRemove
        neighbour).setBt pBT contents)
      (before ++ neighbour :: after) (before ++ after) pBT := by
  have outside : neighbour ∉ before ++ after :=
    (List.nodup_cons.mp (List.nodup_middle.mp filed.distinct)).1
  have different : neighbour ≠ pBT := by
    rintro rfl
    exact outside listed
  have unfiled := filed.freeListRemove (by simp) (by simpa using different)
    free
  have unlinked := unfiled.segmentListRemove fun _ => mem_cons_self
  refine ⟨(unlinked.setBt (by simp) _).forget outside, ?_, ?_, ?_⟩
  · rw [Segments.bt_setBt, Segments.bt_segmentListRemove,
      Segments.bt_freeListRemove, update_self]
  · intro entry member
    simp only [mem_append, mem_cons] at member ⊢
    tauto
  · intro entry member absent
    simp only [mem_append, mem_cons] at member absent
    have isNeighbour : entry = neighbour := by tauto
    rw [isNeighbour]
    exact free

section

variable (filed : Filed segments (before ++ pBT :: after) [pBT])
  (layout : Layout ((before ++ pBT :: after).map segments.bt) spans)
include filed layout

/-- `_FreeBT` joins the tag with the one in front. -/
theorem mergePrev_spec
    (segment : (segments.bt pBT).type ≠ .span) :
    ∃ front, Joined segments (mergePrev segments pBT)
        (before ++ pBT :: after) (front ++ pBT :: after) pBT ∧
      absorbPrev (before.map segments.bt) (segments.bt pBT) =
        (front.map segments.bt, (mergePrev segments pBT).bt pBT) := by
  rcases List.eq_nil_or_concat' before with rfl | ⟨others, neighbour, rfl⟩
  · have same : mergePrev segments pBT = segments := by
      rw [mergePrev, filed.pPrevSegment]
      rfl
    rw [same]
    exact ⟨[], .refl filed, absorbPrev_kept (by simp)⟩
  · have link : segments.pPrevSegment pBT = some neighbour := by
      rw [filed.pPrevSegment, List.getLast?_concat]
    by_cases free : (segments.bt neighbour).type = .free
    · have layoutPair : Layout (others.map segments.bt ++
          segments.bt neighbour :: segments.bt pBT :: after.map segments.bt)
            spans := by simpa using layout
      have neighbourSegment : (segments.bt neighbour).type ≠ .span := by
        rw [free]
        simp
      obtain ⟨noWrap, small⟩ := layoutPair.join_fits neighbourSegment segment
      rw [Nat.add_comm] at small
      have step : mergePrev segments pBT =
          ((segments.freeListRemove neighbour).segmentListRemove
            neighbour).setBt pBT { segments.bt pBT with
              base := (segments.bt neighbour).base
              uSize := (segments.bt pBT).uSize +
                (segments.bt neighbour).uSize } := by
        rw [mergePrev, link]
        simp only [if_pos (And.intro free noWrap), small]
      rw [append_cons] at filed
      simp only [List.append_assoc, List.singleton_append] at filed
      refine ⟨others, ?_, ?_⟩
      · rw [step]
        simpa using filed.absorb (by simp) free _
      · rw [step, Segments.bt_setBt, update_self, map_append,
          map_singleton, absorbPrev_free free]
    · have same : mergePrev segments pBT = segments := by
        rw [mergePrev, link]
        simp only [free, false_and, if_false]
      rw [same]
      refine ⟨_, .refl filed, absorbPrev_kept fun other isLast => ?_⟩
      rw [map_append, map_singleton, List.getLast?_concat] at isLast
      cases isLast
      exact free

/-- `_FreeBT` joins the tag with the one behind. -/
theorem mergeNext_spec
    (segment : (segments.bt pBT).type ≠ .span) :
    ∃ back, Joined segments (mergeNext segments pBT)
        (before ++ pBT :: after) (before ++ pBT :: back) pBT ∧
      absorbNext (segments.bt pBT) (after.map segments.bt) =
        ((mergeNext segments pBT).bt pBT, back.map segments.bt) := by
  cases after with
  | nil =>
    have same : mergeNext segments pBT = segments := by
      rw [mergeNext, filed.pNextSegment]
      rfl
    rw [same]
    exact ⟨[], .refl filed, absorbNext_kept (by simp)⟩
  | cons neighbour others =>
    have link : segments.pNextSegment pBT = some neighbour := by
      rw [filed.pNextSegment, List.head?_cons]
    by_cases free : (segments.bt neighbour).type = .free
    · have layoutPair : Layout (before.map segments.bt ++
          segments.bt pBT :: segments.bt neighbour :: others.map segments.bt)
            spans := by simpa using layout
      have neighbourSegment : (segments.bt neighbour).type ≠ .span := by
        rw [free]
        simp
      obtain ⟨noWrap, small⟩ := layoutPair.join_fits segment neighbourSegment
      have step : mergeNext segments pBT =
          ((segments.freeListRemove neighbour).segmentListRemove
            neighbour).setBt pBT { segments.bt pBT with
              uSize := (segments.bt pBT).uSize +
                (segments.bt neighbour).uSize } := by
        rw [mergeNext, link]
        simp only [if_pos (And.intro free noWrap), small]
      rw [append_cons] at filed ⊢
      refine ⟨others, ?_, ?_⟩
      · rw [step, append_cons before pBT others]
        exact filed.absorb (by simp) free _
      · rw [step, Segments.bt_setBt, update_self, map_cons,
          absorbNext_free free]
    · have same : mergeNext segments pBT = segments := by
        rw [mergeNext, link]
        simp only [free, false_and, if_false]
      rw [same]
      refine ⟨_, .refl filed, absorbNext_kept fun other isFirst => ?_⟩
      cases isFirst
      exact free

end

/-- The joins one after the other. -/
theorem Joined.trans
    {first second : Segments}
    {allFirst allSecond : List Address}
    (joined : Joined segments first all allFirst pBT)
    (next : Joined first second allFirst allSecond pBT)
    (listed : pBT ∈ allSecond) :
    Joined segments second all allSecond pBT where
  filed := next.filed
  bt := by
    rw [next.bt, joined.bt, Function.update_idem, update_self]
  kept := fun entry member => joined.kept entry (next.kept entry member)
  gone := by
    intro entry member absent
    by_cases inFirst : entry ∈ allFirst
    · have free := next.gone entry inFirst absent
      rw [joined.bt, update_of_ne] at free
      · exact free
      · rintro rfl
        exact absent listed
    · exact joined.gone entry member inFirst

/-- `_FreeBT` joins the tag with its free neighbours. -/
theorem merge_spec
    (filed : Filed segments (before ++ pBT :: after) [pBT])
    (layout : Layout ((before ++ pBT :: after).map segments.bt) spans)
    (segment : (segments.bt pBT).type ≠ .span) :
    ∃ front back, Joined segments (mergeNext (mergePrev segments pBT) pBT)
        (before ++ pBT :: after) (front ++ pBT :: back) pBT ∧
      coalesce (before.map segments.bt) (segments.bt pBT)
          (after.map segments.bt) =
        (front.map segments.bt,
          (mergeNext (mergePrev segments pBT) pBT).bt pBT,
            back.map segments.bt) := by
  obtain ⟨front, joined, absorbed⟩ := mergePrev_spec filed layout segment
  have absent := joined.filed.absent
  rw [map_append, map_cons] at layout
  obtain ⟨middle, layoutAfter, _, type, _⟩ := layout.absorbPrev segment
  rw [absorbed] at layoutAfter type
  have frontMap : front.map (mergePrev segments pBT).bt =
      front.map segments.bt := by
    rw [joined.bt]
    exact map_update _ _ absent.1
  have afterMap : after.map (mergePrev segments pBT).bt =
      after.map segments.bt := by
    rw [joined.bt]
    exact map_update _ _ absent.2
  have layoutJoined : Layout ((front ++ pBT :: after).map
      (mergePrev segments pBT).bt) middle := by
    rw [map_append, map_cons, frontMap, afterMap]
    exact layoutAfter
  obtain ⟨back, next, absorbedNext⟩ := mergeNext_spec joined.filed layoutJoined
    (by rw [type]; exact segment)
  refine ⟨front, back, joined.trans next (by simp), ?_⟩
  have backMap : back.map (mergePrev segments pBT).bt =
      back.map segments.bt := by
    rw [joined.bt]
    exact map_update _ _ next.filed.absent.2
  rw [coalesce, absorbed]
  rw [afterMap, backMap] at absorbedNext
  rw [absorbedNext]

/-! ## The invariant -/

/-- The segment hash leads from the base of each live segment to its tag. -/
def Hashed (pSegmentHash : Nat → Option Address) (bt : Address → Bt)
    (all pending : List Address) : Prop :=
  ∀ base entry, pSegmentHash base = some entry ↔
    entry ∈ all ∧ entry ∉ pending ∧ (bt entry).type = .live ∧
      (bt entry).base = base

/-- The span as the import callback described it. -/
def Import.extent (span : Import) : Extent where
  base := span.base.toNat
  uSize := span.uSize.toNat
  psMapping := span.psMapping

/-- The arena is a sequence of tags that its lists and its hash know, and its
spans are those it was created with or imported. -/
structure Sound (arena : RaArena) (all pending : List Address)
    (spans : List Span) : Prop where
  filed : Filed arena.segments all pending
  hashed : Hashed arena.pSegmentHash arena.segments.bt all pending
  layout : Layout (all.map arena.segments.bt) spans
  resources : (spans.map Span.extent).Perm (arena.resources.map Import.extent)
  kind : arena.pImportAlloc = true → ∀ span ∈ spans, span.marked = true
  quantum : 0 < arena.uQuantum ∧ arena.uQuantum < 2 ^ 32

/-- The contents of the tags in the order of the segment list. -/
def RaArena.tags (arena : RaArena) : List Bt :=
  arena.segments.list.map arena.segments.bt

variable {arena : RaArena}

theorem Sound.tags_eq
    (sound : Sound arena all pending spans) :
    arena.tags = all.map arena.segments.bt := by
  rw [RaArena.tags, sound.filed.list_eq]

/-- The invariant of an arena between calls. -/
def Invariant (arena : RaArena) : Prop :=
  ∃ spans, Sound arena arena.segments.list [] spans

theorem Sound.invariant
    (sound : Sound arena all [] spans) :
    Invariant arena := by
  refine ⟨spans, ?_⟩
  rw [sound.filed.list_eq]
  exact sound

variable {others : List Span}

theorem SameExtents.extents
    (same : SameExtents spans others) :
    spans.map Span.extent = others.map Span.extent := by
  have firsts := congrArg (List.map Prod.fst) same
  simpa [Function.comp_def] using firsts

theorem SameExtents.allMarked
    (same : SameExtents spans others)
    (allMarked : ∀ span ∈ others, span.marked = true) :
    ∀ span ∈ spans, span.marked = true := by
  intro span member
  have mapped : (span.extent, span.marked) ∈
      spans.map fun span => (span.extent, span.marked) :=
    List.mem_map_of_mem member
  rw [same] at mapped
  obtain ⟨other, otherMember, otherEq⟩ := List.mem_map.mp mapped
  rw [← (Prod.mk.inj otherEq).2]
  exact allMarked other otherMember

variable {tags : List Bt}

/-- Spans that begin at one base are one span. -/
theorem Layout.distinct_bases
    (layout : Layout tags spans) :
    spans.Pairwise fun first second =>
      first.extent.base < second.extent.base := by
  apply List.Pairwise.imp_of_mem _ layout.ordered
  intro first second isFirst _ ordered
  have positive := (layout.sound first isFirst).positive
  omega

/-- Giving a span back takes it from the resources. -/
theorem Returned.resources
    {extent : Extent}
    {spansAfter : List Span}
    {resources : List Import}
    (layout : Layout tags spans)
    (returned : Returned extent spans spansAfter)
    (perm : (spans.map Span.extent).Perm (resources.map Import.extent)) :
    (spansAfter.map Span.extent).Perm
      ((resources.eraseP fun span => span.base.toNat == extent.base).map
        Import.extent) := by
  obtain ⟨earlier, span, later, same, _, extentEq, rfl⟩ := returned
  have distinct : (spans.map Span.extent).Pairwise fun first second =>
      first.base < second.base :=
    List.pairwise_map.mpr layout.distinct_bases
  have listed : spans.map Span.extent =
      earlier.map Span.extent ++ extent :: later.map Span.extent := by
    rw [← same.extents, map_append, map_cons, extentEq]
  have erased : (resources.eraseP fun span =>
      span.base.toNat == extent.base).map Import.extent =
        (resources.map Import.extent).eraseP
          fun other => other.base == extent.base := by
    rw [List.eraseP_map]
    rfl
  have kept : (spans.map Span.extent).eraseP
      (fun other => other.base == extent.base) =
        (earlier ++ later).map Span.extent := by
    rw [listed] at distinct ⊢
    have before := (List.pairwise_append.mp distinct).2.2
    rw [List.eraseP_append_right, List.eraseP_cons_of_pos (by simp),
      map_append]
    intro other member
    have smaller := before other member extent mem_cons_self
    simp only [beq_iff_eq]
    omega
  rw [erased, ← kept]
  apply List.Perm.eraseP _ _ perm
  apply distinct.imp
  intro first second smaller isFirst isSecond
  simp only [beq_iff_eq] at isFirst isSecond
  omega

/-! ## Freeing a tag -/

/-- What freeing a tag does to the arena around its tags. -/
structure Frees (arena after : RaArena) (extent : Option Extent)
    (range : Option (Nat × Nat)) : Prop where
  pSegmentHash : after.pSegmentHash = arena.pSegmentHash
  uQuantum : after.uQuantum = arena.uQuantum
  pImportAlloc : after.pImportAlloc = arena.pImportAlloc
  pBackingStoreFree : after.pBackingStoreFree = arena.pBackingStoreFree
  resources : after.resources = extent.elim arena.resources fun extent =>
    arena.resources.eraseP fun span => span.base.toNat == extent.base
  importFrees : after.importFrees = arena.importFrees ++
    (extent.map fun extent => (extent.base, extent.psMapping)).toList
  backingStoreFrees : after.backingStoreFrees =
    arena.backingStoreFrees ++ range.toList

/-- What freeing a tag does to the tags. -/
structure Released (segments after : Segments) (all allAfter : List Address)
    (pBT : Address) : Prop where
  filed : Filed after allAfter []
  others : ∀ entry, entry ≠ pBT → after.bt entry = segments.bt entry
  freed : pBT ∈ allAfter → (after.bt pBT).type = .free
  kept : ∀ entry ∈ allAfter, entry ∈ all
  gone : ∀ entry ∈ all, entry ∉ allAfter → entry ≠ pBT →
    (segments.bt entry).type ≠ .live

/-- `_FreeBT` ends by giving a span back or with a free tag. -/
theorem releaseTag_spec
    (filed : Filed arena.segments (before ++ pBT :: after) [pBT]) :
    ∃ allAfter, Released arena.segments (arena.releaseTag pBT).segments
        (before ++ pBT :: after) allAfter pBT ∧
      allAfter.map (arena.releaseTag pBT).segments.bt =
        settledTags (before.map arena.segments.bt) (arena.segments.bt pBT)
          (after.map arena.segments.bt) ∧
        Frees arena (arena.releaseTag pBT)
          (settledSpan (before.map arena.segments.bt) (arena.segments.bt pBT)
            (after.map arena.segments.bt)) none := by
  have absent := filed.absent
  have prevLink := filed.pPrevSegment
  have nextLink := filed.pNextSegment
  by_cases between : BetweenMarkers (before.map arena.segments.bt)
      (after.map arena.segments.bt)
  · obtain ⟨_, _, _, _, beforeMap, afterMap, prevMarker, nextMarker⟩ :=
      between.split
    obtain ⟨others, last, rfl, rfl, lastMap⟩ :=
      List.map_eq_append_iff.mp beforeMap
    obtain ⟨next, rest, rfl, rfl, rfl⟩ := List.map_eq_cons_iff.mp afterMap
    obtain ⟨prev, rfl, rfl⟩ := List.map_eq_singleton_iff.mp lastMap
    rw [List.getLast?_concat] at prevLink
    rw [List.head?_cons] at nextLink
    have step : arena.releaseTag pBT =
        { arena with segments :=
          ((arena.segments.segmentListRemove next).segmentListRemove
            prev).segmentListRemove pBT }.importFree
              (arena.segments.bt pBT).base
              (arena.segments.bt pBT).psMapping := by
      rw [releaseTag, prevLink, nextLink]
      simp only [nextMarker, prevMarker, and_self, if_true,
        Segments.bt_segmentListRemove]
    have marker : ∀ entry, (arena.segments.bt entry).type = .span →
        (arena.segments.bt entry).type = .free → entry ∈ [pBT] := by
      intro entry isSpan isFree
      rw [isSpan] at isFree
      cases isFree
    have first : Filed arena.segments
        (((others ++ [prev]) ++ [pBT]) ++ next :: rest) [pBT] := by
      simpa using filed
    have second := first.segmentListRemove (marker next nextMarker)
    have third : Filed (arena.segments.segmentListRemove next)
        (others ++ prev :: (pBT :: rest)) [pBT] := by simpa using second
    have fourth := third.segmentListRemove (by
      rw [Segments.bt_segmentListRemove]
      exact marker prev prevMarker)
    have fifth := fourth.segmentListRemove fun _ => mem_cons_self
    have bt : (arena.releaseTag pBT).segments.bt = arena.segments.bt := by
      rw [step]
      simp [importFree]
    refine ⟨others ++ rest, ⟨?_, ?_, ?_, ?_, ?_⟩, ?_, ?_⟩
    · rw [step]
      exact fifth.forget (by
        simp only [mem_append, mem_cons, not_or] at absent ⊢
        exact ⟨absent.1.1, absent.2.2⟩)
    · intro entry _
      rw [bt]
    · intro listed
      simp only [mem_append, mem_cons, not_or] at absent listed
      tauto
    · intro entry member
      simp only [mem_append, mem_cons] at member ⊢
      tauto
    · intro entry member gone different isLive
      simp only [mem_append, mem_cons, not_mem_nil, or_false,
        not_or] at member gone
      rcases member with (_ | rfl) | rfl | rfl | _
      · tauto
      · rw [prevMarker] at isLive
        cases isLive
      · exact different rfl
      · rw [nextMarker] at isLive
        cases isLive
      · tauto
    · rw [bt, settledTags, if_pos between, map_append, map_append,
        map_singleton, List.dropLast_concat, map_cons,
        List.tail_cons]
    · rw [step, settledSpan, if_pos between]
      exact ⟨rfl, rfl, rfl, rfl, rfl, rfl, (append_nil _).symm⟩
  · have step : arena.releaseTag pBT =
        { arena with segments := arena.segments.freeListInsert pBT } := by
      rw [releaseTag, prevLink, nextLink]
      unfold BetweenMarkers at between
      rw [List.getLast?_map, List.head?_map] at between
      cases last : before.getLast? with
      | none => cases after.head? <;> rfl
      | some prev =>
        cases first : after.head? with
        | none => rfl
        | some next =>
          rw [last, first] at between
          simp only [Option.map_some, Option.some.injEq] at between
          have notBoth : ¬((arena.segments.bt next).type = .span ∧
              (arena.segments.bt prev).type = .span) := by tauto
          simp only [if_neg notBoth]
    have bt : (arena.releaseTag pBT).segments.bt =
        update arena.segments.bt pBT
          { arena.segments.bt pBT with type := .free } := by
      rw [step, Segments.bt_freeListInsert]
    refine ⟨before ++ pBT :: after, ⟨?_, ?_, ?_, fun _ member => member, ?_⟩,
      ?_, ?_⟩
    · rw [step]
      exact filed.freeListInsert (by simp) not_mem_nil
    · intro entry different
      rw [bt, update_of_ne different]
    · intro _
      rw [bt, update_self]
    · exact fun _ member gone _ => absurd member gone
    · rw [bt, settledTags, if_neg between, map_append, map_cons,
        map_update _ _ absent.1, map_update _ _ absent.2,
        update_self]
    · rw [step, settledSpan, if_neg between]
      exact ⟨rfl, rfl, rfl, rfl, rfl, (append_nil _).symm, (append_nil _).symm⟩

/-- The range of backing store that freeing a tag gives up. -/
def freedRange (arena : RaArena) (bFreeBackingStore : Bool) (orig merged : Bt) :
    Option (Nat × Nat) :=
  if arena.pBackingStoreFree && bFreeBackingStore then
    backingStoreRange arena.uQuantum orig.base orig.uSize merged.base
      merged.uSize
  else none

/-- What `_FreeBT` does to the tags and around them. -/
structure FreesBT
    (arena after : RaArena)
    (before : List Address) (pBT : Address) (behind all : List Address)
    (bFreeBackingStore : Bool) : Prop where
  mapped : all.map after.segments.bt =
    freedTags (before.map arena.segments.bt) (arena.segments.bt pBT)
      (behind.map arena.segments.bt)
  frees : Frees arena after
    (givenBack (before.map arena.segments.bt) (arena.segments.bt pBT)
      (behind.map arena.segments.bt))
    (freedRange arena bFreeBackingStore (arena.segments.bt pBT)
      (coalesce (before.map arena.segments.bt) (arena.segments.bt pBT)
        (behind.map arena.segments.bt)).2.1)

/-- `_FreeBT` on the tags and around them. -/
theorem freeBT_effect
    (filed : Filed arena.segments (before ++ pBT :: after) [pBT])
    (layout : Layout ((before ++ pBT :: after).map arena.segments.bt) spans)
    (segment : (arena.segments.bt pBT).type ≠ .span)
    (bFreeBackingStore : Bool) :
    ∃ allAfter,
      Released arena.segments (arena.freeBT pBT bFreeBackingStore).segments
          (before ++ pBT :: after) allAfter pBT ∧
        FreesBT arena (arena.freeBT pBT bFreeBackingStore) before pBT after
          allAfter bFreeBackingStore := by
  obtain ⟨front, back, joined, coalesced⟩ := merge_spec filed layout segment
  have absent := joined.filed.absent
  have frontMap : front.map (mergeNext (mergePrev arena.segments pBT) pBT).bt =
      front.map arena.segments.bt := by
    rw [joined.bt]
    exact map_update _ _ absent.1
  have backMap : back.map (mergeNext (mergePrev arena.segments pBT) pBT).bt =
      back.map arena.segments.bt := by
    rw [joined.bt]
    exact map_update _ _ absent.2
  let settling : RaArena := { arena with
    segments := mergeNext (mergePrev arena.segments pBT) pBT
    backingStoreFrees := arena.backingStoreFrees ++
      (freedRange arena bFreeBackingStore (arena.segments.bt pBT)
        ((mergeNext (mergePrev arena.segments pBT) pBT).bt pBT)).toList }
  have step : arena.freeBT pBT bFreeBackingStore =
      settling.releaseTag pBT := by
    simp only [freeBT, freedRange, settling, freeBackingStore]
    congr 1
    split <;> simp
  have settlingFiled : Filed settling.segments (front ++ pBT :: back) [pBT] :=
    joined.filed
  obtain ⟨allAfter, released, mapped, frees⟩ := releaseTag_spec settlingFiled
  rw [← step] at released mapped frees
  have settlingBt : settling.segments.bt =
      (mergeNext (mergePrev arena.segments pBT) pBT).bt := rfl
  rw [settlingBt, frontMap, backMap] at mapped frees
  refine ⟨allAfter, ⟨released.filed, ?_, released.freed, ?_, ?_⟩, ?_, ?_⟩
  · intro entry different
    rw [released.others entry different, settlingBt, joined.bt,
      update_of_ne different]
  · exact fun entry member => joined.kept entry (released.kept entry member)
  · intro entry member gone different
    by_cases inJoined : entry ∈ front ++ pBT :: back
    · have notLive := released.gone entry inJoined gone different
      rw [settlingBt, joined.bt, update_of_ne different] at notLive
      exact notLive
    · rw [joined.gone entry member inJoined]
      simp
  · rw [mapped, freedTags, coalesced]
  · rw [givenBack, coalesced]
    refine ⟨frees.pSegmentHash, frees.uQuantum, frees.pImportAlloc,
      frees.pBackingStoreFree, frees.resources, frees.importFrees, ?_⟩
    rw [frees.backingStoreFrees]
    simp [settling]

/-- `_FreeBT` keeps the invariant. -/
theorem freeBT_sound
    (sound : Sound arena (before ++ pBT :: after) [pBT] spans)
    (segment : (arena.segments.bt pBT).type ≠ .span)
    (bFreeBackingStore : Bool) :
    ∃ allAfter spansAfter,
      Sound (arena.freeBT pBT bFreeBackingStore) allAfter [] spansAfter ∧
        FreesBT arena (arena.freeBT pBT bFreeBackingStore) before pBT after
          allAfter bFreeBackingStore := by
  obtain ⟨allAfter, released, mapped, frees⟩ :=
    freeBT_effect sound.filed sound.layout segment bFreeBackingStore
  have layout := sound.layout
  rw [map_append, map_cons] at layout
  obtain ⟨spansAfter, layoutAfter, outcome⟩ := layout.freedTags segment
  refine ⟨allAfter, spansAfter, ⟨released.filed, ?_, ?_, ?_, ?_, ?_⟩, mapped,
    frees⟩
  · intro base entry
    rw [frees.pSegmentHash, sound.hashed base entry]
    constructor
    · rintro ⟨listed, settled, isLive, atBase⟩
      rw [List.mem_singleton] at settled
      have same := released.others entry settled
      refine ⟨?_, not_mem_nil, same ▸ isLive, same ▸ atBase⟩
      by_contra gone
      exact released.gone entry listed gone settled isLive
    · rintro ⟨listed, _, isLive, atBase⟩
      have different : entry ≠ pBT := by
        rintro rfl
        rw [released.freed listed] at isLive
        cases isLive
      have same := released.others entry different
      rw [same] at isLive atBase
      exact ⟨released.kept entry listed, by simpa using different, isLive,
        atBase⟩
  · rw [mapped]
    exact layoutAfter
  · rw [frees.resources]
    rcases outcome with ⟨none, same⟩ | ⟨extent, some, returned⟩
    · rw [none, same.extents]
      exact sound.resources
    · rw [some]
      exact returned.resources layout sound.resources
  · rw [frees.pImportAlloc]
    intro importing
    rcases outcome with ⟨_, same⟩ | ⟨_, _, returned⟩
    · exact same.allMarked (sound.kind importing)
    · obtain ⟨earlier, span, later, same, _, _, rfl⟩ := returned
      have allMarked := same.allMarked (sound.kind importing)
      intro other member
      apply allMarked
      simp only [mem_append, mem_cons] at member ⊢
      tauto
  · rw [frees.uQuantum]
    exact sound.quantum

/-- The live segment of a base is taken out of the segment hash. -/
theorem Sound.unhash
    {base : Nat}
    (sound : Sound arena all [] spans)
    (found : arena.pSegmentHash base = some pBT) :
    pBT ∈ all ∧ (arena.segments.bt pBT).type = .live ∧
      (arena.segments.bt pBT).base = base ∧
        Sound { arena with
          pSegmentHash := update arena.pSegmentHash base none }
            all [pBT] spans := by
  obtain ⟨listed, _, isLive, atBase⟩ := (sound.hashed base pBT).mp found
  refine ⟨listed, isLive, atBase, ?_, ?_, sound.layout, sound.resources,
    sound.kind, sound.quantum⟩
  · apply sound.filed.unsettle
    rw [isLive]
    simp
  · intro other entry
    change update arena.pSegmentHash base none other = some entry ↔
      entry ∈ all ∧ entry ∉ [pBT] ∧ (arena.segments.bt entry).type = .live ∧
        (arena.segments.bt entry).base = other
    by_cases isBase : other = base
    · subst isBase
      rw [update_self]
      constructor
      · intro impossible
        cases impossible
      · rintro ⟨entryListed, settled, entryLive, entryBase⟩
        have entryFound := (sound.hashed other entry).mpr
          ⟨entryListed, not_mem_nil, entryLive, entryBase⟩
        rw [found] at entryFound
        cases entryFound
        exact absurd mem_cons_self settled
    · rw [update_of_ne isBase, sound.hashed other entry]
      constructor
      · rintro ⟨entryListed, _, entryLive, entryBase⟩
        refine ⟨entryListed, ?_, entryLive, entryBase⟩
        rw [List.mem_singleton]
        rintro rfl
        exact isBase (entryBase.symm.trans atBase)
      · rintro ⟨entryListed, _, entryLive, entryBase⟩
        exact ⟨entryListed, not_mem_nil, entryLive, entryBase⟩

/-- `RA_Free` keeps the invariant. -/
theorem raFree_sound
    (sound : Sound arena all [] spans)
    (base : Nat)
    (bFreeBackingStore : Bool) :
    ∃ allAfter spansAfter,
      Sound (arena.raFree base bFreeBackingStore) allAfter [] spansAfter := by
  unfold raFree
  cases found : arena.pSegmentHash base with
  | none => exact ⟨all, spans, sound⟩
  | some pBT =>
    obtain ⟨listed, isLive, _, unhashed⟩ := sound.unhash found
    obtain ⟨before, after, rfl⟩ := List.append_of_mem listed
    have segment : (arena.segments.bt pBT).type ≠ .span := by
      rw [isLive]
      simp
    obtain ⟨allAfter, spansAfter, freed, _⟩ :=
      freeBT_sound unhashed segment bFreeBackingStore
    exact ⟨allAfter, spansAfter, freed⟩

end PvrServices.Arena
