import PvrServices.Arena.Importing

/-!
# The invariant of an arena

In every state that calls can reach, the list of tags, the free lists and the
segment hash of an arena agree with each other and with the spans it was
handed.  As long as the splits find memory, no two neighbouring segments are
free.
-/

namespace PvrServices.Arena

open Tiling
open RaArena
open List (append_assoc mem_map mem_map_of_mem mem_singleton not_mem_nil)

variable {all : List Address} {spans : List Span} {arena after : RaArena}
  {request : Request} {answers : Answers} {result : Option Allocation}
  {segments : Segments} {uQuantum : BitVec 32}

/-- The three structures of an arena agree. -/
structure Consistent (arena : RaArena) : Prop where
  /-- The segment list is linked both ways. -/
  links : DoublyLinked.Holds (segmentLinks arena.segments) arena.segments.list
  distinct : arena.segments.list.Nodup
  /-- The tags are in the order of their bases. -/
  sorted : arena.tags.Pairwise fun first second => first.base ≤ second.base
  /-- No two segments overlap. -/
  disjoint : arena.tags.Pairwise fun first second => first.type ≠ .span →
    second.type ≠ .span → first.base + first.uSize ≤ second.base
  /-- The segments cover the spans that the arena was handed. -/
  covers : ∀ address,
    (∃ tag ∈ arena.tags, tag.type ≠ .span ∧ tag.base ≤ address ∧
        address < tag.base + tag.uSize) ↔
      ∃ span ∈ arena.resources, span.base.toNat ≤ address ∧
        address < span.base.toNat + span.uSize.toNat
  /-- Markers stand around the segments of each imported span. -/
  bracketed : arena.pImportAlloc = true → ∀ span ∈ arena.resources,
    ∃ front body back, arena.tags = front ++
        (span.extent.startMarker :: body ++ [span.extent.endMarker]) ++ back ∧
      (∀ tag ∈ body, tag.type ≠ .span) ∧
        Tiles Bt.base Bt.uSize span.extent.base body
          (span.extent.base + span.extent.uSize)
  /-- Each free list holds the free segments of its size class. -/
  freeLists : ∀ uIndex, ∃ tail entries,
    DoublyLinked.Holds (freeLinks arena.segments uIndex tail) entries ∧
      entries.Nodup ∧ ∀ pBT, pBT ∈ entries ↔ pBT ∈ arena.segments.list ∧
        (arena.segments.bt pBT).type = .free ∧
          Nat.log 2 (arena.segments.bt pBT).uSize = uIndex
  /-- The segment hash leads from the bases of live segments to their tags. -/
  hashed : ∀ base pBT, arena.pSegmentHash base = some pBT ↔
    pBT ∈ arena.segments.list ∧ (arena.segments.bt pBT).type = .live ∧
      (arena.segments.bt pBT).base = base

/-- A sequence of spans with lists and hash is consistent. -/
theorem Invariant.consistent
    (invariant : Invariant arena) :
    Consistent arena := by
  obtain ⟨spans, sound⟩ := invariant
  have layout := sound.layout
  have tags : arena.tags = arena.segments.list.map arena.segments.bt := rfl
  rw [← tags] at layout
  refine ⟨sound.filed.links, sound.filed.distinct, ?_, ?_, ?_, ?_, ?_, ?_⟩
  · exact layout.pairwise.imp And.left
  · exact layout.pairwise.imp fun ordered segment _ => ordered.2 segment
  · intro address
    rw [layout.covers address]
    constructor
    · rintro ⟨span, member, within⟩
      have listed : span.extent ∈ spans.map Span.extent :=
        mem_map_of_mem member
      rw [sound.resources.mem_iff] at listed
      obtain ⟨resource, isResource, same⟩ := mem_map.mp listed
      rw [← same] at within
      exact ⟨resource, isResource, within⟩
    · rintro ⟨resource, isResource, within⟩
      have listed : resource.extent ∈ arena.resources.map Import.extent :=
        mem_map_of_mem isResource
      rw [← sound.resources.mem_iff] at listed
      obtain ⟨span, member, same⟩ := mem_map.mp listed
      refine ⟨span, member, ?_⟩
      rw [same]
      exact within
  · intro importing resource isResource
    have listed : resource.extent ∈ arena.resources.map Import.extent :=
      mem_map_of_mem isResource
    rw [← sound.resources.mem_iff] at listed
    obtain ⟨span, member, same⟩ := mem_map.mp listed
    obtain ⟨earlier, later, rfl⟩ := List.append_of_mem member
    have spanSound := layout.sound span member
    have isMarked := sound.kind importing span member
    refine ⟨earlier.flatMap Span.tags, span.body, later.flatMap Span.tags, ?_,
      fun tag inBody => (spanSound.segments tag inBody).1, ?_⟩
    · rw [layout.tags_eq, List.flatMap_append, List.flatMap_cons]
      simp only [Span.tags, Span.opening, Span.closing, isMarked, if_true,
        same, append_assoc, List.cons_append, List.nil_append]
    · rw [← same]
      exact spanSound.tiles
  · intro uIndex
    obtain ⟨tail, entries, holds, distinct, members⟩ :=
      sound.filed.files uIndex
    refine ⟨tail, entries, holds, distinct, ?_⟩
    intro pBT
    rw [members pBT]
    have sized : pBT ∈ arena.segments.list →
        (arena.segments.bt pBT).type = .free →
          pvrLog2 (arena.segments.bt pBT).uSize =
            Nat.log 2 (arena.segments.bt pBT).uSize := by
      intro listed free
      have bounds := layout.segment_bounds (mem_map_of_mem listed)
        (by rw [free]; simp)
      exact pvrLog2_eq bounds.2.1
    constructor
    · rintro ⟨listed, _, free, size⟩
      exact ⟨listed, free, (sized listed free).symm.trans size⟩
    · rintro ⟨listed, free, size⟩
      exact ⟨listed, not_mem_nil, free, (sized listed free).trans size⟩
  · intro base pBT
    rw [sound.hashed base pBT]
    constructor
    · rintro ⟨listed, _, isLive, atBase⟩
      exact ⟨listed, isLive, atBase⟩
    · rintro ⟨listed, isLive, atBase⟩
      exact ⟨listed, not_mem_nil, isLive, atBase⟩

/-! ## Coalesced segments -/

/-- The splits of an attempt find memory. -/
def AttemptAnswers.Split (answers : AttemptAnswers) : Prop :=
  answers.frontSplit = true ∧ answers.backSplit = true

/-- An attempt whose splits find memory leaves no free neighbours. -/
theorem Attempted.coalesced
    {answers : AttemptAnswers}
    {tagsAfter : List Bt}
    (attempt : Attempted arena after request answers arena.tags tagsAfter
      result)
    (invariant : Invariant arena)
    (positive : 0 < request.uSize.toNat)
    (split : answers.Split)
    (coalesced : Coalesced arena.tags) :
    Coalesced tagsAfter := by
  obtain ⟨spans, sound⟩ := invariant
  have layout : Layout arena.tags spans := sound.layout
  generalize arena.tags = tags at *
  cases attempt with
  | refused => exact coalesced
  | taken free fits taken =>
    rw [taken.tags_eq]
    exact coalesced.cut free
  | @spoiled front back _ contents free fits spoiled =>
    cases spoiled with
    | frontSplit failed =>
      rw [split.1] at failed
      cases failed
    | backSplit failed =>
      rw [split.2] at failed
      cases failed
    | hashInsert _ _ tags_eq =>
      have segment : contents.type ≠ .span := by simp [free]
      obtain ⟨room, _⟩ := fits.block_inside layout segment
      obtain ⟨_, cutLayout, _⟩ := layout.cut segment positive room
      have cutCoalesced : Coalesced (front ++
          (frontPiece request contents ++ block request contents ::
            backPiece request contents) ++ back) :=
        coalesced.cut free
      rw [append_assoc, append_assoc, ← append_assoc]
        at cutLayout cutCoalesced
      rw [tags_eq]
      apply cutLayout.freedTags_coalesced (by simp [block])
      · exact (coalesced_append.mp cutCoalesced).1
      · exact (List.isChain_cons.mp
          (coalesced_append.mp cutCoalesced).2.1).2

/-- A span that is linked in has no free neighbours. -/
theorem Linked.coalesced
    {linked : RaArena}
    {span : Import}
    (isLinked : Linked arena linked span)
    (coalesced : Coalesced arena.tags) :
    Coalesced linked.tags := by
  obtain ⟨front, back, tagsEq, linkedEq⟩ := isLinked.tags
  rw [tagsEq] at coalesced
  have parts := coalesced_append.mp coalesced
  rw [linkedEq]
  simp only [Span.tags, Span.opening, Span.closing, Extent.freshSpan, if_true,
    append_assoc, List.cons_append, List.nil_append]
  refine coalesced_append.mpr ⟨parts.1, ?_, ?_⟩
  · refine List.IsChain.cons_cons ?_ (List.IsChain.cons_cons ?_
      (List.IsChain.cons parts.2.1 ?_))
    · rintro ⟨impossible, _⟩
      cases impossible
    · rintro ⟨_, impossible⟩
      cases impossible
    · rintro _ _ ⟨impossible, _⟩
      cases impossible
  · rintro _ _ first isFirst ⟨_, isFree⟩
    cases isFirst
    cases isFree

/-- The allocations of tags find memory. -/
def Answers.Splits (answers : Answers) : Prop :=
  answers.first.Split ∧ answers.second.Split

/-- `RA_Alloc` leaves no free neighbours if its splits find memory. -/
theorem Allocated.coalesced
    (allocated : Allocated arena after request answers result)
    (invariant : Invariant arena)
    (positive : 0 < request.uSize.toNat)
    (splits : answers.Splits)
    (coalesced : Coalesced arena.tags) :
    Coalesced after.tags := by
  cases allocated with
  | direct attempt | notImported attempt =>
    exact attempt.coalesced invariant positive splits.1 coalesced
  | @notLinked middle span attempt _ _ after_eq =>
    have same : after.tags = middle.tags := by
      rw [after_eq]
      rfl
    rw [same]
    exact attempt.coalesced invariant positive splits.1 coalesced
  | linked attempt _ _ _ isLinked linkedInvariant second =>
    have middle := attempt.coalesced invariant positive splits.1 coalesced
    exact second.coalesced linkedInvariant positive splits.2
      (isLinked.coalesced middle)

/-- `RA_Free` of a live segment, on the tags and around them. -/
theorem raFree_spec
    {base : Nat}
    {pBT : Address}
    (invariant : Invariant arena)
    (found : arena.pSegmentHash base = some pBT)
    (bFreeBackingStore : Bool) :
    ∃ front back, arena.tags = front ++ arena.segments.bt pBT :: back ∧
      (arena.segments.bt pBT).type = .live ∧
        (arena.segments.bt pBT).base = base ∧
          Invariant (arena.raFree base bFreeBackingStore) ∧
            (arena.raFree base bFreeBackingStore).tags =
                freedTags front (arena.segments.bt pBT) back ∧
              Frees
                { arena with
                  pSegmentHash :=
                    Function.update arena.pSegmentHash base none }
                (arena.raFree base bFreeBackingStore)
                (givenBack front (arena.segments.bt pBT) back)
                (freedRange arena bFreeBackingStore (arena.segments.bt pBT)
                  (coalesce front (arena.segments.bt pBT) back).2.1) := by
  obtain ⟨spans, sound⟩ := invariant
  obtain ⟨listed, isLive, atBase, unhashed⟩ := sound.unhash found
  obtain ⟨before, behind, listEq⟩ := List.append_of_mem listed
  rw [listEq] at unhashed
  have segment : (arena.segments.bt pBT).type ≠ .span := by
    rw [isLive]
    simp
  obtain ⟨allAfter, spansAfter, freed, freedMap, frees⟩ :=
    freeBT_sound unhashed segment bFreeBackingStore
  have step : arena.raFree base bFreeBackingStore =
      { arena with
        pSegmentHash := Function.update arena.pSegmentHash base none }.freeBT
          pBT bFreeBackingStore := by
    rw [raFree, found]
  refine ⟨before.map arena.segments.bt, behind.map arena.segments.bt, ?_,
    isLive, atBase, ?_, ?_, ?_⟩
  · rw [RaArena.tags, listEq, List.map_append, List.map_cons]
  · rw [step]
    exact freed.invariant
  · rw [step, freed.tags_eq]
    exact freedMap
  · rw [step]
    exact frees

/-- `RA_Free` leaves no free neighbours. -/
theorem raFree_coalesced
    (invariant : Invariant arena)
    (base : Nat)
    (bFreeBackingStore : Bool)
    (coalesced : Coalesced arena.tags) :
    Coalesced (arena.raFree base bFreeBackingStore).tags := by
  cases found : arena.pSegmentHash base with
  | none =>
    rw [raFree, found]
    exact coalesced
  | some pBT =>
    obtain ⟨front, back, tagsEq, isLive, _, _, freedEq, _⟩ :=
      raFree_spec invariant found bFreeBackingStore
    obtain ⟨spans, sound⟩ := invariant
    have layout : Layout arena.tags spans := sound.layout
    rw [tagsEq] at layout coalesced
    rw [freedEq]
    have parts := coalesced_append.mp coalesced
    exact layout.freedTags_coalesced (by rw [isLive]; simp) parts.1
      (List.isChain_cons.mp parts.2.1).2

/-! ## Creating an arena -/

/-- How the callers create an arena: with one resource and no import callback,
or empty with one.  The resource ends below the address limit, and rounding
it up to the quantum does not wrap. -/
structure CreatedByCallers (base : BitVec 64) (uSize uQuantum : BitVec 32)
    (pImportAlloc : Bool) : Prop where
  quantum : 0 < uQuantum.toNat
  noWrap : uSize.toNat + uQuantum.toNat - 1 < 2 ^ 32
  within : base.toNat + uSize.toNat + uQuantum.toNat ≤ addressLimit
  kind : pImportAlloc = true → uSize.toNat = 0

/-- An arena without tags. -/
theorem Filed.empty
    (noHead : segments.pHeadSegment = none)
    (noTail : segments.pTailSegment = none)
    (noFree : ∀ uIndex, segments.aHeadFree uIndex = none) :
    Filed segments [] [] where
  links := ⟨noHead, noTail⟩
  distinct := List.nodup_nil
  bounded := fun _ impossible => absurd impossible not_mem_nil
  files := by
    intro uIndex
    refine ⟨none, [], ⟨noFree uIndex, rfl⟩, List.nodup_nil, ?_⟩
    intro pBT
    constructor
    · exact fun impossible => absurd impossible not_mem_nil
    · exact fun onList => absurd onList.listed not_mem_nil

/-- `_InsertResource` into an arena without tags. -/
theorem Filed.insertResource
    (filed : Filed segments [] [])
    (base uSize : Nat) :
    ∃ inserted pBT,
      segments.insertResource base uSize true = some (some (inserted, pBT)) ∧
        Filed inserted [pBT] [] ∧ inserted.bt pBT = ⟨.free, base, uSize, none⟩ :=
    by
  unfold Segments.insertResource Segments.buildBT
  simp only [if_true]
  obtain ⟨filedOne, btOne, freshOne, tagOne⟩ :=
    filed.built ⟨.free, base, uSize, none⟩
  generalize segments.buildTag ⟨.free, base, uSize, none⟩ = one at *
  obtain ⟨one, pBT⟩ := one
  simp only at filedOne btOne freshOne tagOne ⊢
  have pending : Filed one [] [pBT] :=
    filedOne.pending_congr fun _ impossible => absurd impossible not_mem_nil
  obtain ⟨before, after, inserted, allEq, insertedEq, filedIn, insertedBt, _⟩ :=
    pending.segmentListInsert not_mem_nil
      (by rw [freshOne, tagOne]; exact Nat.lt_succ_self _)
      fun _ => List.mem_cons_self
  obtain ⟨rfl, rfl⟩ := List.append_eq_nil_iff.mp allEq.symm
  rw [insertedEq]
  have filedFree := filedIn.freeListInsert List.mem_cons_self not_mem_nil
  refine ⟨_, pBT, rfl, filedFree, ?_⟩
  rw [Segments.bt_freeListInsert, Function.update_self, insertedBt, btOne,
    tagOne, Function.update_self]

/-- Rounding a size up to a quantum. -/
theorem rounded_size
    {uSize uQuantum : Nat}
    (quantum : 0 < uQuantum)
    (noWrap : uSize + uQuantum - 1 < 2 ^ 32) :
    wrap32 (wrap32 (uSize + uQuantum - 1) / uQuantum * uQuantum) =
        (uSize + uQuantum - 1) / uQuantum * uQuantum ∧
      uSize ≤ (uSize + uQuantum - 1) / uQuantum * uQuantum ∧
        (uSize + uQuantum - 1) / uQuantum * uQuantum ≤
          uSize + uQuantum - 1 := by
  have quotient := Nat.div_add_mod (uSize + uQuantum - 1) uQuantum
  have remainder := Nat.mod_lt (uSize + uQuantum - 1) quantum
  rw [Nat.mul_comm] at quotient
  refine ⟨?_, by omega, by omega⟩
  rw [wrap32, wrap32, Nat.mod_eq_of_lt noWrap, Nat.mod_eq_of_lt (by omega)]

/-- Without a segment the segment hash is empty. -/
private theorem hashed_none
    {bt : Address → Bt}
    (noLive : ∀ pBT ∈ all, (bt pBT).type ≠ .live) :
    Hashed (fun _ => none) bt all [] := by
  intro base pBT
  constructor
  · intro impossible
    cases impossible
  · rintro ⟨listed, _, isLive, _⟩
    exact absurd isLive (noLive pBT listed)

/-- An arena before its first resource. -/
theorem newArena_sound
    (quantum : 0 < uQuantum.toNat)
    (pImportAlloc pBackingStoreFree : Bool) :
    Sound (newArena uQuantum pImportAlloc pBackingStoreFree) [] [] [] where
  filed := Filed.empty rfl rfl fun _ => rfl
  hashed := hashed_none fun _ impossible => absurd impossible not_mem_nil
  layout :=
    { tags_eq := rfl
      sound := fun _ impossible => absurd impossible not_mem_nil
      ordered := List.Pairwise.nil
      marked := Or.inl fun _ impossible => absurd impossible not_mem_nil }
  resources := List.Perm.nil
  kind := fun _ _ impossible => absurd impossible not_mem_nil
  quantum := ⟨quantum, uQuantum.isLt⟩

/-- A new arena satisfies the invariant, and no two segments are neighbours. -/
theorem raCreate_invariant
    {base : BitVec 64}
    {uSize : BitVec 32}
    {psMapping : Option BmMapping}
    {pImportAlloc pBackingStoreFree : Bool}
    {arenaAllocated hashCreated tagAllocated : Bool}
    (byCallers : CreatedByCallers base uSize uQuantum pImportAlloc)
    (created : raCreate base uSize psMapping uQuantum pImportAlloc
      pBackingStoreFree arenaAllocated hashCreated tagAllocated =
        some (some arena)) :
    Invariant arena ∧ Coalesced arena.tags := by
  have newSound := newArena_sound byCallers.quantum pImportAlloc
    pBackingStoreFree
  unfold raCreate at created
  split at created
  swap
  · cases created
  simp only at created
  by_cases nonempty : 0 < uSize.toNat
  · obtain ⟨roundedEq, above, below⟩ :=
      rounded_size byCallers.quantum byCallers.noWrap
    rw [if_pos nonempty, roundedEq] at created
    generalize (uSize.toNat + uQuantum.toNat - 1) / uQuantum.toNat *
      uQuantum.toNat = size at *
    have noWrap := byCallers.noWrap
    have within := byCallers.within
    have sizeEq : (BitVec.ofNat 32 size).toNat = size := by
      rw [BitVec.toNat_ofNat]
      exact Nat.mod_eq_of_lt (by omega)
    cases tagAllocated with
    | false => cases created
    | true =>
      obtain ⟨inserted, pBT, insertEq, filed, bt⟩ :=
        newSound.filed.insertResource base.toNat size
      rw [insertEq] at created
      simp only [Option.some.injEq] at created
      have finalBt : (inserted.setBt pBT
          { inserted.bt pBT with psMapping := psMapping }).bt pBT =
            ⟨.free, base.toNat, size, psMapping⟩ := by
        rw [Segments.bt_setBt, Function.update_self, bt]
      have sound : Sound arena [pBT] []
          [⟨⟨base.toNat, size, psMapping⟩, false,
            [⟨.free, base.toNat, size, psMapping⟩]⟩] := by
        subst created
        refine ⟨filed.setBt_congr _ rfl rfl, hashed_none ?_, ?_, ?_, ?_,
          ⟨byCallers.quantum, uQuantum.isLt⟩⟩
        · intro entry listed
          rw [mem_singleton.mp listed, finalBt]
          simp
        · rw [List.map_singleton, finalBt]
          refine ⟨rfl, ?_, List.pairwise_singleton .., Or.inr ⟨_, rfl, rfl⟩⟩
          intro span isSpan
          rw [mem_singleton.mp isSpan]
          refine ⟨by simp only; omega, by simp only; omega,
            by simp only; omega, ⟨rfl, by simp only; omega, rfl⟩, ?_⟩
          intro tag isTag
          rw [mem_singleton.mp isTag]
          exact ⟨by simp, rfl⟩
        · simp [Import.extent, sizeEq]
        · intro importing
          have empty := byCallers.kind importing
          omega
      refine ⟨sound.invariant, ?_⟩
      rw [sound.tags_eq]
      exact List.isChain_singleton _
  · rw [if_neg nonempty] at created
    simp only [Option.some.injEq] at created
    subst created
    refine ⟨newSound.invariant, ?_⟩
    rw [newSound.tags_eq]
    exact List.isChain_nil

/-! ## Runs -/

/-- A call on an arena. -/
inductive Call where
  | alloc (request : Request) (answers : Answers)
  | free (base : Nat) (bFreeBackingStore : Bool)

/-- Carry out a call; `none` stands for a loop that does not end. -/
def RaArena.call (arena : RaArena) : Call → Option RaArena
  | .alloc request answers => (arena.raAlloc request answers).map Prod.fst
  | .free base bFreeBackingStore => some (arena.raFree base bFreeBackingStore)

/-- The caller asks for something, and the import callback keeps to its
contract. -/
def Call.Permitted (arena : RaArena) : Call → Prop
  | .alloc request answers =>
    0 < request.uSize.toNat ∧ OffersDisjoint arena request answers
  | .free _ _ => True

/-- The splits of the call find memory. -/
def Call.Splits : Call → Prop
  | .alloc _ answers => answers.Splits
  | .free _ _ => True

/-- The states that permitted calls lead to. -/
inductive Reaches (start : RaArena) : List Call → RaArena → Prop where
  | refl : Reaches start [] start
  | step {calls : List Call} {arena after : RaArena} {call : Call}
      (reached : Reaches start calls arena)
      (permitted : call.Permitted arena)
      (called : arena.call call = some after) :
      Reaches start (calls ++ [call]) after

/-- A permitted call ends and keeps the invariant; it leaves no free
neighbours if its splits find memory. -/
theorem call_spec
    {call : Call}
    (invariant : Invariant arena)
    (permitted : call.Permitted arena) :
    ∃ after, arena.call call = some after ∧ Invariant after ∧
      (call.Splits → Coalesced arena.tags → Coalesced after.tags) := by
  cases call with
  | alloc request answers =>
    obtain ⟨positive, offers⟩ := permitted
    have kept := invariant
    obtain ⟨spans, sound⟩ := invariant
    obtain ⟨after, result, _, _, called, afterSound, allocated⟩ :=
      raAlloc_spec sound positive offers
    refine ⟨after, ?_, afterSound.invariant, ?_⟩
    · rw [RaArena.call, called]
      rfl
    · exact fun splits coalesced =>
        allocated.coalesced kept positive splits coalesced
  | free base bFreeBackingStore =>
    refine ⟨_, rfl, ?_, fun _ coalesced =>
      raFree_coalesced invariant base bFreeBackingStore coalesced⟩
    obtain ⟨spans, sound⟩ := invariant
    obtain ⟨_, _, freed⟩ := raFree_sound sound base bFreeBackingStore
    exact freed.invariant

/-- Every reachable arena satisfies the invariant, and has no free neighbours
if the splits have found memory. -/
theorem Reaches.invariant
    {start : RaArena}
    {calls : List Call}
    (reached : Reaches start calls arena)
    (invariant : Invariant start)
    (coalesced : Coalesced start.tags) :
    Invariant arena ∧
      ((∀ call ∈ calls, call.Splits) → Coalesced arena.tags) := by
  induction reached with
  | refl => exact ⟨invariant, fun _ => coalesced⟩
  | step _ permitted called ih =>
    obtain ⟨before, kept⟩ := ih
    obtain ⟨after, calledAfter, afterInvariant, afterCoalesced⟩ :=
      call_spec before permitted
    rw [called] at calledAfter
    cases calledAfter
    refine ⟨afterInvariant, fun splits => ?_⟩
    apply afterCoalesced
    · exact splits _ (by simp)
    · exact kept fun call member => splits call (List.mem_append_left _ member)

/-- Every state that the calls of an arena reach is consistent, the next call
ends, and no free segments are neighbours if the splits have found memory. -/
theorem reachable_consistent
    {base : BitVec 64}
    {uSize uQuantum : BitVec 32}
    {psMapping : Option BmMapping}
    {pImportAlloc pBackingStoreFree : Bool}
    {start : RaArena}
    {calls : List Call}
    (byCallers : CreatedByCallers base uSize uQuantum pImportAlloc)
    (created : raCreate base uSize psMapping uQuantum pImportAlloc
      pBackingStoreFree true true true = some (some start))
    (reached : Reaches start calls arena) :
    Consistent arena ∧
      (∀ call, call.Permitted arena → ∃ after, arena.call call = some after) ∧
        ((∀ call ∈ calls, call.Splits) → Coalesced arena.tags) := by
  obtain ⟨invariant, coalesced⟩ := raCreate_invariant byCallers created
  obtain ⟨arenaInvariant, kept⟩ := reached.invariant invariant coalesced
  refine ⟨arenaInvariant.consistent, ?_, kept⟩
  intro call permitted
  obtain ⟨after, called, _⟩ := call_spec arenaInvariant permitted
  exact ⟨after, called⟩

/-! ## A run -/

/-- An arena with an import callback, as it is created. -/
def importingArena : RaArena :=
  newArena 4096 true false

/-- A request for a page. -/
def pageRequest : Request where
  uSize := 4096
  uFlags := 0
  uAlignment := 0
  uAlignmentOffset := 0

/-- An import callback that hands over two pages, and no allocation fails. -/
def twoPages : Answers where
  first := ⟨true, true, true⟩
  imports := fun _ uFlags => some ⟨0x10000, 8192, some ⟨1, uFlags⟩⟩
  tags := ⟨true, true, true⟩
  second := ⟨true, true, true⟩

/-- The arena after the first page has been allocated. -/
def allocatedArena : RaArena :=
  ((importingArena.raAlloc pageRequest twoPages).map Prod.fst).getD
    importingArena

theorem importingArena_offers :
    OffersDisjoint importingArena pageRequest twoPages := by
  intro middle attempt span handed
  have unfit : importingArena.attemptAllocAligned pageRequest twoPages.first =
      some (importingArena, none) := rfl
  rw [unfit] at attempt
  cases attempt
  cases handed
  refine ⟨by decide, by decide, ?_⟩
  intro tag impossible
  exact absurd impossible not_mem_nil

/-- The invariant after a page has been imported and allocated. -/
theorem reachable_consistent_allocated :
    Consistent allocatedArena ∧
      (∀ call, call.Permitted allocatedArena →
        ∃ after, allocatedArena.call call = some after) ∧
        ((∀ call ∈ [Call.alloc pageRequest twoPages], call.Splits) →
          Coalesced allocatedArena.tags) := by
  have byCallers : CreatedByCallers 0 0 4096 true :=
    ⟨by decide, by decide, by decide, fun _ => by decide⟩
  have created : raCreate 0 0 none 4096 true false true true true =
      some (some importingArena) := rfl
  have called : importingArena.call (.alloc pageRequest twoPages) =
      some allocatedArena := rfl
  exact reachable_consistent byCallers created (Reaches.step Reaches.refl
    ⟨by decide, importingArena_offers⟩ called)

end PvrServices.Arena
