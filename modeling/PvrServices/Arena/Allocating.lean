import PvrServices.Arena.Refinement

/-!
# Allocating from an arena

The search takes the first free segment that fits.  The block is cut out of
it, entered into the segment hash, and freed again if that fails.
-/

namespace PvrServices.Arena

open Function (update update_of_ne update_self)
open RaArena
open List (append_assoc append_nil map_append map_cons mem_append mem_cons
  mem_cons_self mem_map_of_mem not_mem_nil)
open Segments (bt_freeListRemove bt_setBt segmentSplit)

variable {segments other cut : Segments}
  {all pending before after allAfter pendingAfter : List Address}
  {pBT : Address} {spans : List Span} {request : Request} {contents : Bt}
  {arena : RaArena} {pSegmentHash : Nat → Option Address} {uIndex fuel : Nat}

/-! ## Cutting a block out of a segment -/

/-- The live tags and their contents are the same. -/
structure SameLive (segments other : Segments) (all allAfter : List Address) :
    Prop where
  kept : ∀ entry ∈ all, (segments.bt entry).type = .live →
    entry ∈ allAfter ∧ other.bt entry = segments.bt entry
  old : ∀ entry ∈ allAfter, (other.bt entry).type = .live →
    entry ∈ all ∧ other.bt entry = segments.bt entry

theorem SameLive.refl
    (segments : Segments)
    (all : List Address) :
    SameLive segments segments all all :=
  ⟨fun _ listed _ => ⟨listed, rfl⟩, fun _ listed _ => ⟨listed, rfl⟩⟩

theorem SameLive.trans
    {first second : Segments}
    {allFirst allSecond : List Address}
    (one : SameLive segments first all allFirst)
    (two : SameLive first second allFirst allSecond) :
    SameLive segments second all allSecond where
  kept := by
    intro entry listed isLive
    obtain ⟨listedFirst, same⟩ := one.kept entry listed isLive
    obtain ⟨listedSecond, sameSecond⟩ :=
      two.kept entry listedFirst (by rw [same]; exact isLive)
    exact ⟨listedSecond, sameSecond.trans same⟩
  old := by
    intro entry listed isLive
    obtain ⟨listedFirst, same⟩ := two.old entry listed isLive
    obtain ⟨listedAll, sameFirst⟩ :=
      one.old entry listedFirst (by rw [← same]; exact isLive)
    exact ⟨listedAll, same.trans sameFirst⟩

theorem SameLive.of_bt
    (same : other.bt = segments.bt)
    (all : List Address) :
    SameLive segments other all all := by
  constructor
  · exact fun entry listed _ => ⟨listed, by rw [same]⟩
  · exact fun entry listed _ => ⟨listed, by rw [same]⟩

/-- The segment hash knows live tags only. -/
theorem Hashed.sameLive
    (hashed : Hashed pSegmentHash segments.bt all pending)
    (same : SameLive segments other all allAfter)
    (settled : ∀ entry ∈ all, (segments.bt entry).type = .live →
      (entry ∈ pendingAfter ↔ entry ∈ pending)) :
    Hashed pSegmentHash other.bt allAfter pendingAfter := by
  intro base entry
  rw [hashed base entry]
  constructor
  · rintro ⟨listed, notPending, isLive, atBase⟩
    obtain ⟨listedAfter, sameBt⟩ := same.kept entry listed isLive
    rw [sameBt]
    exact ⟨listedAfter, fun isPending => notPending
      ((settled entry listed isLive).mp isPending), isLive, atBase⟩
  · rintro ⟨listedAfter, notPending, isLive, atBase⟩
    obtain ⟨listed, sameBt⟩ := same.old entry listedAfter isLive
    rw [sameBt] at isLive atBase
    exact ⟨listed, fun isPending => notPending
      ((settled entry listed isLive).mpr isPending), isLive, atBase⟩

/-- A free tag stays as it is when it is put back on its free list. -/
theorem bt_refile
    (free : (segments.bt pBT).type = .free) :
    (segments.freeListInsert pBT).bt = segments.bt := by
  have same : { segments.bt pBT with type := .free } = segments.bt pBT := by
    rw [← free]
  rw [Segments.bt_freeListInsert, same, Function.update_eq_self]

/-- A free segment is split where `uSize` bytes of it end. -/
theorem Filed.splitFree
    (filed : Filed segments (before ++ pBT :: after) [pBT])
    (free : (segments.bt pBT).type = .free)
    (uSize : Nat)
    (inside : uSize ≤ (segments.bt pBT).uSize)
    (bounds : 0 < (segments.bt pBT).uSize - uSize ∧
      (segments.bt pBT).uSize < 2 ^ 32 ∧
        (segments.bt pBT).base + (segments.bt pBT).uSize ≤ addressLimit) :
    ∃ split,
      segments.segmentSplit pBT uSize true = some (split, segments.fresh) ∧
        Filed split (before ++ pBT :: segments.fresh :: after)
          [segments.fresh, pBT] ∧
        SameLive segments split (before ++ pBT :: after)
          (before ++ pBT :: segments.fresh :: after) ∧
        pBT ≠ segments.fresh ∧
        split.bt pBT = { segments.bt pBT with uSize := uSize } ∧
        split.bt segments.fresh =
          { segments.bt pBT with
            base := (segments.bt pBT).base + uSize
            uSize := (segments.bt pBT).uSize - uSize } ∧
        before.map split.bt = before.map segments.bt ∧
        after.map split.bt = after.map segments.bt := by
  obtain ⟨split, splitEq, splitFiled, bt⟩ :=
    filed.segmentSplit mem_cons_self uSize
  have absent := filed.absent
  have fresh := filed.fresh_notMem
  have elsewhere : segments.fresh ∉ before ∧ segments.fresh ∉ after := by
    simp only [mem_append, mem_cons, not_or] at fresh
    exact ⟨fresh.1, fresh.2.2⟩
  have different : pBT ≠ segments.fresh := by
    rintro same
    exact fresh (same ▸ by simp)
  have rest : tailPiece (segments.bt pBT) uSize =
      { segments.bt pBT with
        base := (segments.bt pBT).base + uSize
        uSize := (segments.bt pBT).uSize - uSize } := by
    unfold addressLimit at bounds
    unfold tailPiece
    rw [wrap64, wrap32, Nat.mod_eq_of_lt (by omega), ← free]
    have size : (segments.bt pBT).uSize + 2 ^ 32 - uSize =
        ((segments.bt pBT).uSize - uSize) + 2 ^ 32 := by
      omega
    rw [size, Nat.add_mod_right, Nat.mod_eq_of_lt (by omega)]
  have head : split.bt pBT = { segments.bt pBT with uSize := uSize } := by
    rw [bt, update_self, headPiece]
  have tail : split.bt segments.fresh =
      { segments.bt pBT with
        base := (segments.bt pBT).base + uSize
        uSize := (segments.bt pBT).uSize - uSize } := by
    rw [bt, update_of_ne different.symm, update_self, rest]
  have others : ∀ entry, entry ≠ pBT → entry ≠ segments.fresh →
      split.bt entry = segments.bt entry := by
    intro entry notTag old
    rw [bt, update_of_ne notTag, update_of_ne old]
  have notLive : (segments.bt pBT).type ≠ .live := by
    rw [free]
    simp
  refine ⟨split, splitEq, splitFiled, ⟨?_, ?_⟩, different, head, tail, ?_, ?_⟩
  · intro entry listed isLive
    have notTag : entry ≠ pBT := by
      rintro rfl
      exact notLive isLive
    have old : entry ≠ segments.fresh := by
      rintro rfl
      exact fresh listed
    refine ⟨?_, others entry notTag old⟩
    simp only [mem_append, mem_cons] at listed ⊢
    tauto
  · intro entry listed isLive
    have notTag : entry ≠ pBT := by
      rintro rfl
      rw [head] at isLive
      exact notLive isLive
    have old : entry ≠ segments.fresh := by
      rintro rfl
      rw [tail] at isLive
      exact notLive isLive
    refine ⟨?_, others entry notTag old⟩
    simp only [mem_append, mem_cons] at listed ⊢
    tauto
  · rw [bt, map_update _ _ absent.1, map_update _ _ elsewhere.1]
  · rw [bt, map_update _ _ absent.2, map_update _ _ elsewhere.2]

/-- The front split leaves the segment from the block's base on, off the free
lists; a front split that fails changes no tag. -/
theorem cutFront_spec
    (filed : Filed segments (before ++ pBT :: after) [])
    (layout : Layout ((before ++ pBT :: after).map segments.bt) spans)
    (free : (segments.bt pBT).type = .free)
    (fits : alignedBase request (segments.bt pBT).base <
      (segments.bt pBT).base + (segments.bt pBT).uSize)
    (frontSplit : Bool) :
    (∃ front cut rear,
      cutFront segments pBT request frontSplit = (cut, some rear) ∧
        Filed cut (front ++ rear :: after) [rear] ∧
          SameLive segments cut (before ++ pBT :: after)
              (front ++ rear :: after) ∧
            cut.bt rear = rearPiece request (segments.bt pBT) ∧
              front.map cut.bt = before.map segments.bt ++
                frontPiece request (segments.bt pBT) ∧
                after.map cut.bt = after.map segments.bt) ∨
      ∃ cut, cutFront segments pBT request frontSplit = (cut, none) ∧
        Filed cut (before ++ pBT :: after) [] ∧ cut.bt = segments.bt ∧
          frontSplit = false ∧
            (segments.bt pBT).base <
              alignedBase request (segments.bt pBT).base := by
  have segment : (segments.bt pBT).type ≠ .span := by
    rw [free]
    simp
  have bounds := layout.segment_bounds
    (mem_map_of_mem (by simp : pBT ∈ before ++ pBT :: after)) segment
  have spec := alignedBase_spec request
    (show (segments.bt pBT).base ≤ addressLimit by omega)
  have unfiled := filed.freeListRemove (by simp) not_mem_nil free
  have sameBt : (segments.freeListRemove pBT).bt = segments.bt :=
    bt_freeListRemove ..
  have stillFree : ((segments.freeListRemove pBT).bt pBT).type = .free := by
    rw [sameBt]
    exact free
  unfold cutFront
  simp only
  by_cases gap : (segments.bt pBT).base <
      alignedBase request (segments.bt pBT).base
  · simp only [if_pos gap]
    cases frontSplit with
    | false =>
      refine Or.inr ⟨(segments.freeListRemove pBT).freeListInsert pBT, ?_, ?_,
        ?_, rfl, gap⟩
      · rfl
      · exact unfiled.freeListInsert (by simp) not_mem_nil
      · exact (bt_refile stillFree).trans sameBt
    | true =>
      have short : wrap32 (alignedBase request (segments.bt pBT).base -
          (segments.bt pBT).base) =
            alignedBase request (segments.bt pBT).base -
              (segments.bt pBT).base :=
        Nat.mod_eq_of_lt (by omega)
      obtain ⟨split, splitEq, splitFiled, same, different, head, tail,
          beforeMap, afterMap⟩ :=
        unfiled.splitFree stillFree
          (alignedBase request (segments.bt pBT).base -
            (segments.bt pBT).base)
          (by rw [sameBt]; omega) (by rw [sameBt]; omega)
      rw [Segments.fresh_freeListRemove] at splitEq splitFiled
      rw [Segments.fresh_freeListRemove] at same different tail
      rw [sameBt] at head tail beforeMap afterMap
      have reordered : Filed split
          (before ++ pBT :: segments.fresh :: after)
            [pBT, segments.fresh] := by
        apply splitFiled.pending_congr
        intro entry _ _
        simp only [mem_cons]
        tauto
      have refiled : (split.freeListInsert pBT).bt = split.bt :=
        bt_refile (by rw [head]; exact free)
      refine Or.inl ⟨before ++ [pBT], split.freeListInsert pBT,
        segments.fresh, ?_, ?_, ?_, ?_, ?_, ?_⟩
      · rw [short, splitEq]
      · simpa using reordered.freeListInsert (by simp)
          (by simpa using different)
      · simpa using ((SameLive.of_bt sameBt _).trans same).trans
          (SameLive.of_bt refiled _)
      · rw [refiled, tail, rearPiece, Nat.add_sub_cancel' spec.1]
        simp only [Bt.mk.injEq, true_and, and_true]
        omega
      · rw [refiled, map_append, List.map_singleton, head, beforeMap,
          frontPiece, if_pos gap]
      · rw [refiled, afterMap]
  · simp only [if_neg gap]
    have atBase : alignedBase request (segments.bt pBT).base =
        (segments.bt pBT).base := by omega
    refine Or.inl ⟨before, segments.freeListRemove pBT, pBT, rfl, unfiled, ?_,
      ?_, ?_, ?_⟩
    · constructor
      · intro entry listed _
        exact ⟨listed, by rw [bt_freeListRemove]⟩
      · intro entry listed _
        exact ⟨listed, by rw [bt_freeListRemove]⟩
    · rw [bt_freeListRemove, rearPiece, atBase, Nat.add_sub_cancel_left]
    · rw [bt_freeListRemove, frontPiece, if_neg gap, append_nil]
    · rw [bt_freeListRemove]

/-- The free segment behind a block that begins a segment. -/
def restPiece (request : Request) (contents : Bt) : List Bt :=
  if request.uSize.toNat < contents.uSize then
    [{ contents with
       base := contents.base + request.uSize.toNat
       uSize := contents.uSize - request.uSize.toNat }]
  else []

theorem restPiece_rear
    (fits : alignedBase request contents.base ≤
      contents.base + contents.uSize) :
    restPiece request (rearPiece request contents) =
      backPiece request contents := by
  unfold restPiece backPiece rearPiece blockEnd
  by_cases more : alignedBase request contents.base + request.uSize.toNat <
      contents.base + contents.uSize
  · rw [if_pos more, if_pos (by simp only; omega)]
    simp only [List.cons.injEq, Bt.mk.injEq, true_and, and_true]
    omega
  · rw [if_neg more, if_neg (by simp only; omega)]

/-- The back split leaves the segment of the block off the free lists; a back
split that fails files the whole rest. -/
theorem cutBack_spec
    (filed : Filed segments (before ++ pBT :: after) [pBT])
    (layout : Layout ((before ++ pBT :: after).map segments.bt) spans)
    (free : (segments.bt pBT).type = .free)
    (fits : request.uSize.toNat ≤ (segments.bt pBT).uSize)
    (backSplit : Bool) :
    (∃ back cut, cutBack segments pBT request backSplit = (cut, true) ∧
        Filed cut (before ++ pBT :: back) [pBT] ∧
          SameLive segments cut (before ++ pBT :: after)
              (before ++ pBT :: back) ∧
            cut.bt pBT =
                { segments.bt pBT with uSize := request.uSize.toNat } ∧
              before.map cut.bt = before.map segments.bt ∧
                back.map cut.bt = restPiece request (segments.bt pBT) ++
                  after.map segments.bt) ∨
      ∃ cut, cutBack segments pBT request backSplit = (cut, false) ∧
        Filed cut (before ++ pBT :: after) [] ∧ cut.bt = segments.bt ∧
          backSplit = false ∧
            request.uSize.toNat < (segments.bt pBT).uSize := by
  have segment : (segments.bt pBT).type ≠ .span := by
    rw [free]
    simp
  have bounds := layout.segment_bounds
    (mem_map_of_mem (by simp : pBT ∈ before ++ pBT :: after)) segment
  unfold cutBack
  by_cases more : request.uSize.toNat < (segments.bt pBT).uSize
  · rw [if_pos more]
    cases backSplit with
    | false =>
      exact Or.inr ⟨segments.freeListInsert pBT, rfl,
        filed.freeListInsert (by simp) not_mem_nil, bt_refile free, rfl,
        more⟩
    | true =>
      obtain ⟨split, splitEq, splitFiled, same, different, head, tail,
          beforeMap, afterMap⟩ :=
        filed.splitFree free request.uSize.toNat fits (by omega)
      have refiled : (split.freeListInsert segments.fresh).bt = split.bt :=
        bt_refile (by rw [tail]; exact free)
      refine Or.inl ⟨segments.fresh :: after,
        split.freeListInsert segments.fresh, ?_, ?_, ?_, ?_, ?_, ?_⟩
      · rw [splitEq]
      · exact splitFiled.freeListInsert (by simp)
          (by simpa using different.symm)
      · exact same.trans (SameLive.of_bt refiled _)
      · rw [refiled, head]
      · rw [refiled, beforeMap]
      · rw [refiled, map_cons, tail, afterMap, restPiece, if_pos more,
          List.singleton_append]
  · rw [if_neg more]
    have exact' : (segments.bt pBT).uSize = request.uSize.toNat := by omega
    refine Or.inl ⟨after, segments, rfl, filed, SameLive.refl _ _, ?_, rfl, ?_⟩
    · rw [← exact']
    · rw [restPiece, if_neg more, List.nil_append]

/-! ## An attempt to allocate -/

/-- The attempt has taken the block out of the segment. -/
structure Taken (arena after : RaArena) (request : Request)
    (front : List Bt) (contents : Bt) (back : List Bt) (tags : List Bt)
    (allocation : Allocation) : Prop where
  tags_eq : tags = front ++ (frontPiece request contents ++
    block request contents :: backPiece request contents) ++ back
  base : allocation.base = alignedBase request contents.base
  psMapping : allocation.psMapping = contents.psMapping
  frees : Frees arena { after with pSegmentHash := arena.pSegmentHash } none
    none

/-- How an attempt that has chosen a segment fails. -/
inductive Spoiled (arena after : RaArena) (request : Request)
    (answers : AttemptAnswers) (front : List Bt) (contents : Bt)
    (back : List Bt) (tags : List Bt) : Prop where
  | frontSplit
      (failed : answers.frontSplit = false)
      (needed : contents.base < alignedBase request contents.base)
      (tags_eq : tags = front ++ contents :: back)
      (frees : Frees arena after none none)
  | backSplit
      (failed : answers.backSplit = false)
      (needed : blockEnd request contents < contents.base + contents.uSize)
      (reached : contents.base < alignedBase request contents.base →
        answers.frontSplit = true)
      (tags_eq : tags = front ++ (frontPiece request contents ++
        [rearPiece request contents]) ++ back)
      (frees : Frees arena after none none)
  | hashInsert
      (failed : answers.hashInsert = false)
      (reached : (contents.base < alignedBase request contents.base →
          answers.frontSplit = true) ∧
        (blockEnd request contents < contents.base + contents.uSize →
          answers.backSplit = true))
      (tags_eq : tags = freedTags (front ++ frontPiece request contents)
        (block request contents) (backPiece request contents ++ back))
      (frees : Frees arena after
        (givenBack (front ++ frontPiece request contents)
          (block request contents) (backPiece request contents ++ back)) none)

/-- The calls around the tags of an arena that only changes its tags. -/
theorem frees_none
    (arena : RaArena)
    (segments : Segments) :
    Frees arena { arena with segments := segments } none none :=
  ⟨rfl, rfl, rfl, rfl, rfl, (append_nil _).symm, (append_nil _).symm⟩

/-- Changing the tags without touching a live one keeps the invariant. -/
theorem Sound.retag
    {spansAfter : List Span}
    (sound : Sound arena all pending spans)
    (filed : Filed segments allAfter pendingAfter)
    (same : SameLive arena.segments segments all allAfter)
    (settled : ∀ entry ∈ all, (arena.segments.bt entry).type = .live →
      (entry ∈ pendingAfter ↔ entry ∈ pending))
    (layout : Layout (allAfter.map segments.bt) spansAfter)
    (extents : SameExtents spansAfter spans) :
    Sound { arena with segments := segments } allAfter pendingAfter
      spansAfter where
  filed := filed
  hashed := sound.hashed.sameLive same settled
  layout := layout
  resources := by
    rw [extents.extents]
    exact sound.resources
  kind := fun importing => extents.allMarked (sound.kind importing)
  quantum := sound.quantum

/-- Listed segments have different bases. -/
theorem Layout.base_injective
    {bt : Address → Bt}
    (layout : Layout (all.map bt) spans)
    {first second : Address}
    (firstListed : first ∈ all)
    (secondListed : second ∈ all)
    (firstSegment : (bt first).type ≠ .span)
    (secondSegment : (bt second).type ≠ .span)
    (same : (bt first).base = (bt second).base) :
    first = second := by
  by_contra different
  have separate : all.Pairwise fun one two => (bt one).type ≠ .span →
      (bt two).type ≠ .span → (bt one).base ≠ (bt two).base := by
    have ordered := List.pairwise_map.mp layout.pairwise
    apply List.Pairwise.imp_of_mem _ ordered
    intro one two oneListed _ inOrder oneSegment _
    have positive := (layout.segment_bounds (mem_map_of_mem oneListed)
      oneSegment).1
    have ends := inOrder.2 oneSegment
    omega
  have symmetric : Std.Symm fun one two => (bt one).type ≠ .span →
      (bt two).type ≠ .span → (bt one).base ≠ (bt two).base :=
    ⟨fun one two apart twoSegment oneSegment equal =>
      apart oneSegment twoSegment equal.symm⟩
  exact separate.forall firstListed secondListed different firstSegment
    secondSegment same

/-- Overwriting a pending tag does not concern the segment hash. -/
theorem Hashed.setBt
    (hashed : Hashed pSegmentHash segments.bt all pending)
    (isPending : pBT ∈ pending)
    (contents : Bt) :
    Hashed pSegmentHash (segments.setBt pBT contents).bt all pending := by
  intro base entry
  rw [hashed base entry, bt_setBt]
  by_cases isTag : entry = pBT
  · subst isTag
    constructor
    · rintro ⟨_, settled, _⟩
      exact absurd isPending settled
    · rintro ⟨_, settled, _⟩
      exact absurd isPending settled
  · rw [update_of_ne isTag]

/-- A block whose base goes into the segment hash is live. -/
theorem Sound.takeBlock
    (sound : Sound arena (before ++ pBT :: after) [pBT] spans)
    (isLive : (arena.segments.bt pBT).type = .live) :
    Sound { arena with
      pSegmentHash := update arena.pSegmentHash
        (arena.segments.bt pBT).base (some pBT) }
      (before ++ pBT :: after) [] spans where
  filed := sound.filed.settle (by rw [isLive]; simp)
  hashed := by
    intro base entry
    change update arena.pSegmentHash (arena.segments.bt pBT).base
        (some pBT) base = some entry ↔
      entry ∈ before ++ pBT :: after ∧ entry ∉ [] ∧
        (arena.segments.bt entry).type = .live ∧
          (arena.segments.bt entry).base = base
    have listed : pBT ∈ before ++ pBT :: after := by simp
    have segment : (arena.segments.bt pBT).type ≠ .span := by
      rw [isLive]
      simp
    by_cases isBase : base = (arena.segments.bt pBT).base
    · rw [isBase, update_self, Option.some.injEq]
      constructor
      · rintro rfl
        exact ⟨listed, not_mem_nil, isLive, rfl⟩
      · rintro ⟨entryListed, _, entryLive, entryBase⟩
        exact sound.layout.base_injective listed entryListed segment
          (by rw [entryLive]; simp) entryBase.symm
    · rw [update_of_ne isBase, sound.hashed base entry]
      constructor
      · rintro ⟨entryListed, _, entryLive, entryBase⟩
        exact ⟨entryListed, not_mem_nil, entryLive, entryBase⟩
      · rintro ⟨entryListed, _, entryLive, entryBase⟩
        refine ⟨entryListed, ?_, entryLive, entryBase⟩
        rw [List.mem_singleton]
        rintro rfl
        exact isBase entryBase.symm
  layout := sound.layout
  resources := sound.resources
  kind := sound.kind
  quantum := sound.quantum

/-- A front split that is needed and goes through had its tag. -/
theorem frontSplit_of_cutFront
    {frontSplit : Bool}
    {rear : Address}
    (cutEq : cutFront segments pBT request frontSplit = (cut, some rear))
    (needed : (segments.bt pBT).base <
      alignedBase request (segments.bt pBT).base) :
    frontSplit = true := by
  cases frontSplit with
  | true => rfl
  | false =>
    rw [cutFront] at cutEq
    simp only [if_pos needed, segmentSplit] at cutEq
    cases (Prod.mk.inj cutEq).2

/-- A back split that is needed and goes through had its tag. -/
theorem backSplit_of_cutBack
    {backSplit : Bool}
    (cutEq : cutBack segments pBT request backSplit = (cut, true))
    (needed : request.uSize.toNat < (segments.bt pBT).uSize) :
    backSplit = true := by
  cases backSplit with
  | true => rfl
  | false =>
    rw [cutBack, if_pos needed, segmentSplit] at cutEq
    cases (Prod.mk.inj cutEq).2

/-- From the chosen segment on, an attempt takes the block or fails at one of
its allocations; the invariant holds either way. -/
theorem allocFrom_spec
    (sound : Sound arena (before ++ pBT :: after) [] spans)
    (free : (arena.segments.bt pBT).type = .free)
    (positive : 0 < request.uSize.toNat)
    (fits : blockEnd request (arena.segments.bt pBT) ≤
      (arena.segments.bt pBT).base + (arena.segments.bt pBT).uSize)
    (answers : AttemptAnswers) :
    (∃ taken allocation allAfter spansAfter,
      arena.allocFrom pBT request answers = (taken, some allocation) ∧
        Sound taken allAfter [] spansAfter ∧ SameExtents spansAfter spans ∧
          Taken arena taken request (before.map arena.segments.bt)
            (arena.segments.bt pBT) (after.map arena.segments.bt)
            (allAfter.map taken.segments.bt) allocation) ∨
      ∃ spoiled allAfter spansAfter,
        arena.allocFrom pBT request answers = (spoiled, none) ∧
          Sound spoiled allAfter [] spansAfter ∧
            Spoiled arena spoiled request answers
              (before.map arena.segments.bt) (arena.segments.bt pBT)
              (after.map arena.segments.bt)
              (allAfter.map spoiled.segments.bt) := by
  have segment : (arena.segments.bt pBT).type ≠ .span := by
    rw [free]
    simp
  have layout := sound.layout
  rw [map_append, map_cons] at layout
  have bounds := layout.segment_bounds (by simp) segment
  have spec := alignedBase_spec request
    (show (arena.segments.bt pBT).base ≤ addressLimit by omega)
  have begins : alignedBase request (arena.segments.bt pBT).base <
      (arena.segments.bt pBT).base + (arena.segments.bt pBT).uSize := by
    unfold blockEnd at fits
    omega
  unfold allocFrom
  rcases cutFront_spec sound.filed sound.layout free begins
      answers.frontSplit with
    ⟨front, cut, rear, cutEq, cutFiled, cutLive, rearBt, frontMap, afterMap⟩ |
      ⟨cut, cutEq, cutFiled, cutBt, failed, needed⟩
  swap
  · -- The front split fails.
    refine Or.inr ⟨_, before ++ pBT :: after, spans, by rw [cutEq], ?_, ?_⟩
    · apply sound.retag cutFiled (SameLive.of_bt cutBt _)
        (fun _ _ _ => Iff.rfl) _ rfl
      rw [cutBt]
      exact sound.layout
    · apply Spoiled.frontSplit failed needed _ (frees_none ..)
      simp only [cutBt, map_append, map_cons]
  rw [cutEq]
  simp only
  obtain ⟨spansCut, layoutCut, extentsCut⟩ := layout.cutFront segment begins
  have layoutRear : Layout ((front ++ rear :: after).map cut.bt) spansCut := by
    rw [map_append, map_cons, frontMap, rearBt, afterMap, append_assoc]
    simpa using layoutCut
  have rearFree : (cut.bt rear).type = .free := by
    rw [rearBt]
    exact free
  have rearFits : request.uSize.toNat ≤ (cut.bt rear).uSize := by
    rw [rearBt]
    unfold blockEnd at fits
    simp only [rearPiece]
    omega
  have reachedFront := frontSplit_of_cutFront cutEq
  rcases cutBack_spec cutFiled layoutRear rearFree rearFits
      answers.backSplit with
    ⟨back, whole, wholeEq, wholeFiled, wholeLive, blockBt, frontSame,
      backMap⟩ | ⟨whole, wholeEq, wholeFiled, wholeBt, failed, needed⟩
  swap
  · -- The back split fails.
    refine Or.inr ⟨_, front ++ rear :: after, spansCut, by rw [wholeEq], ?_, ?_⟩
    · apply sound.retag wholeFiled
        (cutLive.trans (SameLive.of_bt wholeBt _))
        (fun _ _ _ => Iff.rfl) _ extentsCut
      rw [wholeBt]
      exact layoutRear
    · apply Spoiled.backSplit failed _ reachedFront _ (frees_none ..)
      · rw [rearBt] at needed
        simp only [rearPiece] at needed
        unfold blockEnd
        omega
      · simp only [wholeBt, map_append, map_cons, frontMap, rearBt,
          afterMap, append_assoc, List.cons_append, List.nil_append]
  rw [wholeEq]
  simp only
  have rearOld : ∀ entry ∈ before ++ pBT :: after,
      (arena.segments.bt entry).type = .live →
        (entry ∈ [rear] ↔ entry ∈ []) := by
    intro entry listed isLive
    simp only [List.mem_singleton, not_mem_nil, iff_false]
    rintro rfl
    rw [(cutLive.kept entry listed isLive).2, isLive] at rearFree
    cases rearFree
  have absent := wholeFiled.absent
  have blockEq : { whole.bt rear with type := .live } =
      block request (arena.segments.bt pBT) := by
    rw [blockBt, rearBt]
    rfl
  have mapped : (front ++ rear :: back).map
      (whole.setBt rear { whole.bt rear with type := .live }).bt =
        (before.map arena.segments.bt ++
          frontPiece request (arena.segments.bt pBT)) ++
            block request (arena.segments.bt pBT) ::
              (backPiece request (arena.segments.bt pBT) ++
                after.map arena.segments.bt) := by
    rw [bt_setBt, map_append, map_cons,
      map_update _ _ absent.1, map_update _ _ absent.2, update_self,
      blockEq, frontSame, frontMap, backMap, afterMap, rearBt,
      restPiece_rear (by omega)]
  obtain ⟨spansBlock, layoutBlock, extentsBlock⟩ :=
    layout.cut segment positive fits
  have cutSound : Sound
      { arena with
        segments := whole.setBt rear { whole.bt rear with type := .live } }
      (front ++ rear :: back) [rear] spansBlock := by
    refine ⟨wholeFiled.setBt mem_cons_self _, ?_, ?_, ?_, ?_, sound.quantum⟩
    · have sameLive := cutLive.trans wholeLive
      exact (sound.hashed.sameLive sameLive rearOld).setBt mem_cons_self _
    · rw [mapped]
      simpa using layoutBlock
    · rw [extentsBlock.extents]
      exact sound.resources
    · exact fun importing => extentsBlock.allMarked (sound.kind importing)
  have isLive : ((whole.setBt rear { whole.bt rear with type := .live }).bt
      rear).type = .live := by
    rw [bt_setBt, update_self]
  have atBase : ((whole.setBt rear { whole.bt rear with type := .live }).bt
      rear).base = (whole.bt rear).base := by
    rw [bt_setBt, update_self]
  have reachedBack : blockEnd request (arena.segments.bt pBT) <
      (arena.segments.bt pBT).base + (arena.segments.bt pBT).uSize →
        answers.backSplit = true := by
    intro needed
    apply backSplit_of_cutBack wholeEq
    rw [rearBt]
    unfold blockEnd at needed
    simp only [rearPiece]
    omega
  unfold RaArena.takeBlock
  cases inserted : answers.hashInsert with
  | true =>
    refine Or.inl ⟨_, _, front ++ rear :: back, spansBlock, rfl, ?_,
      extentsBlock, ?_⟩
    · have taken := cutSound.takeBlock isLive
      rw [atBase] at taken
      exact taken
    · refine ⟨?_, ?_, ?_, ?_⟩
      · rw [mapped]
        simp only [append_assoc, List.cons_append]
      · rw [blockBt, rearBt]
        rfl
      · rw [blockBt, rearBt]
        rfl
      · exact ⟨rfl, rfl, rfl, rfl, rfl, (append_nil _).symm,
          (append_nil _).symm⟩
  | false =>
    have blockSegment :
        ((whole.setBt rear { whole.bt rear with type := .live }).bt
          rear).type ≠ .span := by
      rw [isLive]
      simp
    obtain ⟨allAfter, spansAfter, freed, freedMap, frees⟩ :=
      freeBT_sound cutSound blockSegment false
    have parts := List.append_inj (mapped.symm.trans (map_append ..))
      (by rw [← frontMap, ← frontSame, List.length_map, List.length_map])
    have partsBack := List.cons.inj (parts.2.trans (map_cons ..))
    rw [← parts.1, ← partsBack.1, ← partsBack.2] at freedMap frees
    refine Or.inr ⟨_, allAfter, spansAfter, rfl, freed, ?_⟩
    apply Spoiled.hashInsert inserted ⟨reachedFront, reachedBack⟩ freedMap
    refine ⟨frees.pSegmentHash, frees.uQuantum, frees.pImportAlloc,
      frees.pBackingStoreFree, frees.resources, frees.importFrees, ?_⟩
    rw [frees.backingStoreFrees]
    simp [freedRange]

/-! ## The search -/

/-- The mapping that a block of the segment would have suits the request. -/
def FlagsMatch (request : Request) (psMapping : Option BmMapping) : Prop :=
  ∀ mapping ∈ psMapping, mapping.ui32Flags = request.uFlags

/-- A segment is accepted if an aligned block fits and its flags match. -/
theorem accepts_iff
    (within : contents.base + contents.uSize ≤ addressLimit) :
    accepts request contents = true ↔
      blockEnd request contents ≤ contents.base + contents.uSize ∧
        FlagsMatch request contents.psMapping := by
  have spec := alignedBase_spec request
    (show contents.base ≤ addressLimit by omega)
  have size := request.uSize.isLt
  unfold addressLimit at within
  unfold accepts FlagsMatch blockEnd
  rw [wrap64, wrap64, Nat.mod_eq_of_lt (by omega), Nat.mod_eq_of_lt (by omega),
    Bool.and_eq_true, decide_eq_true_eq]
  cases contents.psMapping <;> simp

/-- A free list is searched from the front. -/
theorem searchList_eq
    {tail : Option Address}
    {front back : List Address}
    (holds : DoublyLinked.Holds (freeLinks segments uIndex tail)
      (front ++ back))
    (enough : back.length ≤ fuel) :
    searchList segments request fuel back.head? =
      some (back.find? fun entry => accepts request (segments.bt entry)) := by
  induction back generalizing front fuel with
  | nil => cases fuel <;> rfl
  | cons entry rest ih =>
    cases fuel with
    | zero => exact absurd enough (by simp)
    | succ fuel =>
      have following : segments.pNextFree entry = rest.head? := holds.next_eq
      rw [List.append_cons] at holds
      have further := ih holds (by simpa using enough)
      rw [List.head?_cons, searchList, following, further]
      cases accepted : accepts request (segments.bt entry) with
      | true => simp [accepted]
      | false => simp [accepted]

/-- What a search comes to: a free segment that is accepted, or none among
those of the searched classes. -/
def SearchResult (segments : Segments) (all : List Address)
    (request : Request) (uIndex : Nat) (result : Option Address) : Prop :=
  match result with
  | some pBT => pBT ∈ all ∧ (segments.bt pBT).type = .free ∧
      accepts request (segments.bt pBT) = true
  | none => ∀ pBT ∈ all, (segments.bt pBT).type = .free →
      uIndex ≤ pvrLog2 (segments.bt pBT).uSize →
        accepts request (segments.bt pBT) = false

section

variable (filed : Filed segments all [])
include filed

/-- The search of one class. -/
theorem Filed.searchClass
    (request : Request)
    (uIndex : Nat) :
    ∃ result, searchList segments request segments.fresh
        (segments.aHeadFree uIndex) = some result ∧
      match result with
      | some pBT => pBT ∈ all ∧ (segments.bt pBT).type = .free ∧
          accepts request (segments.bt pBT) = true
      | none => ∀ pBT ∈ all, (segments.bt pBT).type = .free →
          pvrLog2 (segments.bt pBT).uSize = uIndex →
            accepts request (segments.bt pBT) = false := by
  obtain ⟨tail, entries, holds, distinct, members⟩ := filed.files uIndex
  have contained : entries ⊆ all := fun entry member =>
    ((members entry).mp member).listed
  have short : entries.length ≤ segments.fresh :=
    Nat.le_trans (distinct.subperm contained).length_le filed.length_le
  have whole : DoublyLinked.Holds (freeLinks segments uIndex tail)
      ([] ++ entries) := holds
  have head : segments.aHeadFree uIndex = entries.head? := holds.head_eq
  refine ⟨_, by rw [head]; exact searchList_eq whole short, ?_⟩
  cases found : entries.find? fun entry =>
      accepts request (segments.bt entry) with
  | some pBT =>
    have onList := (members pBT).mp (List.mem_of_find?_eq_some found)
    have accepted := List.find?_some found
    exact ⟨onList.listed, onList.free, accepted⟩
  | none =>
    intro pBT listed free sized
    have onList : OnFreeList segments all [] uIndex pBT :=
      ⟨listed, not_mem_nil, free, sized⟩
    simpa using List.find?_eq_none.mp found pBT ((members pBT).mpr onList)

/-- The second loop over the free table. -/
theorem Filed.searchTable
    (bounded : ∀ entry ∈ all, (segments.bt entry).type = .free →
      (segments.bt entry).uSize < 2 ^ 32)
    (enough : freeTableLimit ≤ uIndex + fuel) :
    ∃ result, searchTable segments request fuel uIndex = some result ∧
      SearchResult segments all request uIndex result := by
  have beyond : freeTableLimit ≤ uIndex →
      SearchResult segments all request uIndex none := by
    intro outside pBT listed free above
    have small := pvrLog2_lt (bounded pBT listed free)
    omega
  induction fuel generalizing uIndex with
  | zero => exact ⟨none, rfl, beyond enough⟩
  | succ fuel ih =>
    rw [RaArena.searchTable]
    by_cases inside : uIndex < freeTableLimit
    · rw [if_pos inside]
      obtain ⟨result, resultEq, outcome⟩ := filed.searchClass request uIndex
      rw [resultEq]
      cases result with
      | some pBT => exact ⟨some pBT, rfl, outcome⟩
      | none =>
        have moved : freeTableLimit ≤ uIndex + 1 + fuel := by omega
        obtain ⟨later, laterEq, laterOutcome⟩ :=
          ih moved (by
            intro outside pBT listed free above
            have small := pvrLog2_lt (bounded pBT listed free)
            omega)
        refine ⟨later, laterEq, ?_⟩
        cases later with
        | some pBT => exact laterOutcome
        | none =>
          intro pBT listed free above
          rcases Nat.eq_or_lt_of_le above with same | larger
          · exact outcome pBT listed free same.symm
          · exact laterOutcome pBT listed free larger
    · rw [if_neg inside]
      exact ⟨none, rfl, beyond (by omega)⟩

/-- The first loop passes over empty lists only. -/
theorem Filed.skipEmpty
    (fuel uIndex : Nat) :
    uIndex ≤ RaArena.skipEmpty segments fuel uIndex ∧
      ∀ pBT ∈ all, (segments.bt pBT).type = .free →
        uIndex ≤ pvrLog2 (segments.bt pBT).uSize →
          RaArena.skipEmpty segments fuel uIndex ≤
            pvrLog2 (segments.bt pBT).uSize := by
  induction fuel generalizing uIndex with
  | zero => exact ⟨Nat.le_refl _, fun _ _ _ above => above⟩
  | succ fuel ih =>
    rw [RaArena.skipEmpty]
    by_cases passes : uIndex < freeTableLimit ∧
        segments.aHeadFree uIndex = none
    · rw [if_pos passes]
      obtain ⟨further, none⟩ := ih (uIndex + 1)
      refine ⟨by omega, ?_⟩
      intro pBT listed free above
      apply none pBT listed free
      rcases Nat.eq_or_lt_of_le above with same | larger
      · obtain ⟨tail, entries, holds, _, members⟩ := filed.files uIndex
        have head : segments.aHeadFree uIndex = entries.head? := holds.head_eq
        rw [passes.2] at head
        have onList := (members pBT).mpr
          ⟨listed, not_mem_nil, free, same.symm⟩
        rw [List.head?_eq_none_iff.mp head.symm] at onList
        exact absurd onList not_mem_nil
      · exact larger
    · rw [if_neg passes]
      exact ⟨Nat.le_refl _, fun _ _ _ above => above⟩

/-- The search ends, with a segment that is accepted or because no segment of
the size class of the request or a larger one is. -/
theorem Filed.search
    (bounded : ∀ entry ∈ all, (segments.bt entry).type = .free →
      (segments.bt entry).uSize < 2 ^ 32)
    (request : Request) :
    ∃ result, search segments request = some result ∧
      SearchResult segments all request (pvrLog2 request.uSize.toNat)
        result := by
  obtain ⟨passed, skipped⟩ := filed.skipEmpty freeTableLimit
    (pvrLog2 request.uSize.toNat)
  obtain ⟨result, resultEq, outcome⟩ := filed.searchTable bounded
    (Nat.le_add_left freeTableLimit
      (RaArena.skipEmpty segments freeTableLimit
        (pvrLog2 request.uSize.toNat)))
  refine ⟨result, resultEq, ?_⟩
  cases result with
  | some pBT => exact outcome
  | none =>
    intro pBT listed free above
    exact outcome pBT listed free (skipped pBT listed free above)

end

/-! ## `_AttemptAllocAligned` -/

/-- The segment contains an aligned block of the requested size and carries no
other flags. -/
structure Fits (request : Request) (contents : Bt) : Prop where
  room : ∃ base, contents.base ≤ base ∧
    base + request.uSize.toNat ≤ contents.base + contents.uSize ∧
      Aligned request base
  flags : FlagsMatch request contents.psMapping

/-- The segments that are accepted are those that fit. -/
theorem accepts_iff_fits
    (within : contents.base + contents.uSize ≤ addressLimit) :
    accepts request contents = true ↔ Fits request contents := by
  have spec := alignedBase_spec request
    (show contents.base ≤ addressLimit by omega)
  rw [accepts_iff within]
  constructor
  · rintro ⟨room, flags⟩
    exact ⟨⟨_, spec.1, room, spec.2.2.1⟩, flags⟩
  · rintro ⟨⟨base, above, below, aligned⟩, flags⟩
    have least := spec.2.2.2 base above aligned
    refine ⟨?_, flags⟩
    unfold blockEnd
    omega

/-- The block of a request that fits lies in the segment. -/
theorem Fits.block_inside
    {front back : List Bt}
    {spans : List Span}
    (fits : Fits request contents)
    (layout : Layout (front ++ contents :: back) spans)
    (segment : contents.type ≠ .span) :
    blockEnd request contents ≤ contents.base + contents.uSize ∧
      contents.base ≤ alignedBase request contents.base := by
  have bounds := layout.segment_bounds (by simp) segment
  have accepted := (accepts_iff bounds.2.2).mp
    ((accepts_iff_fits bounds.2.2).mpr fits)
  have spec := alignedBase_spec request
    (show contents.base ≤ addressLimit by omega)
  exact ⟨accepted.1, spec.1⟩

/-- The search ends with the segment. -/
def Chosen (arena : RaArena) (request : Request) (contents : Bt) : Prop :=
  ∃ pBT, search arena.segments request = some (some pBT) ∧
    arena.segments.bt pBT = contents

/-- What an attempt does to the tags: nothing if no free segment fits, and
otherwise it takes the block or fails at an allocation. -/
inductive Attempted (arena after : RaArena) (request : Request)
    (answers : AttemptAnswers) :
    List Bt → List Bt → Option Allocation → Prop where
  | refused {tags : List Bt}
      (same : after = arena)
      (unfit : ∀ tag ∈ tags, tag.type = .free → ¬Fits request tag) :
      Attempted arena after request answers tags tags none
  | taken {front back tags : List Bt} {contents : Bt}
      {allocation : Allocation}
      (free : contents.type = .free)
      (fits : Fits request contents)
      (taken : Taken arena after request front contents back tags allocation)
      (chosen : Chosen arena request contents) :
      Attempted arena after request answers (front ++ contents :: back) tags
        (some allocation)
  | spoiled {front back tags : List Bt} {contents : Bt}
      (free : contents.type = .free)
      (fits : Fits request contents)
      (spoiled : Spoiled arena after request answers front contents back tags)
      (chosen : Chosen arena request contents) :
      Attempted arena after request answers (front ++ contents :: back) tags
        none

/-- The search ends with a free segment that fits, or because there is
none. -/
theorem Sound.search
    (sound : Sound arena all [] spans)
    (request : Request) :
    ∃ result, search arena.segments request = some result ∧
      match result with
      | some pBT => pBT ∈ all ∧ (arena.segments.bt pBT).type = .free ∧
          Fits request (arena.segments.bt pBT) ∧
            blockEnd request (arena.segments.bt pBT) ≤
              (arena.segments.bt pBT).base + (arena.segments.bt pBT).uSize
      | none => ∀ tag ∈ arena.tags, tag.type = .free → ¬Fits request tag := by
  have bounds : ∀ entry ∈ all, (arena.segments.bt entry).type = .free →
      (arena.segments.bt entry).uSize < 2 ^ 32 ∧
        (arena.segments.bt entry).base + (arena.segments.bt entry).uSize ≤
          addressLimit := by
    intro entry listed free
    exact (sound.layout.segment_bounds (mem_map_of_mem listed)
      (by rw [free]; simp)).2
  obtain ⟨result, searched, outcome⟩ := sound.filed.search
    (fun entry listed free => (bounds entry listed free).1) request
  refine ⟨result, searched, ?_⟩
  cases result with
  | some pBT =>
    obtain ⟨listed, free, accepted⟩ := outcome
    have small := bounds pBT listed free
    exact ⟨listed, free, (accepts_iff_fits small.2).mp accepted,
      ((accepts_iff small.2).mp accepted).1⟩
  | none =>
    intro tag member free fits
    rw [sound.tags_eq] at member
    obtain ⟨entry, listed, rfl⟩ := List.mem_map.mp member
    have small := bounds entry listed free
    have classAbove : pvrLog2 request.uSize.toNat ≤
        pvrLog2 (arena.segments.bt entry).uSize := by
      obtain ⟨base, above, below, _⟩ := fits.room
      exact pvrLog2_mono (by omega) small.1
    have rejected := outcome entry listed free classAbove
    rw [(accepts_iff_fits small.2).mpr fits] at rejected
    cases rejected

/-- An attempt ends, keeps the invariant and does what it may. -/
theorem attempt_spec
    (sound : Sound arena all [] spans)
    (positive : 0 < request.uSize.toNat)
    (answers : AttemptAnswers) :
    ∃ after result allAfter spansAfter,
      arena.attemptAllocAligned request answers = some (after, result) ∧
        Sound after allAfter [] spansAfter ∧
          Attempted arena after request answers arena.tags after.tags
            result := by
  obtain ⟨result, searched, outcome⟩ := sound.search request
  unfold attemptAllocAligned
  rw [searched]
  cases result with
  | none => exact ⟨arena, none, all, spans, rfl, sound,
      Attempted.refused rfl outcome⟩
  | some pBT =>
    obtain ⟨listed, free, fits, room⟩ := outcome
    obtain ⟨before, after, rfl⟩ := List.append_of_mem listed
    have tags := sound.tags_eq
    rw [map_append, map_cons] at tags
    rw [tags]
    rcases allocFrom_spec sound free positive room answers with
      ⟨taken, allocation, allAfter, spansAfter, stepEq, takenSound, extents,
        isTaken⟩ | ⟨spoiled, allAfter, spansAfter, stepEq, spoiledSound,
          isSpoiled⟩
    · refine ⟨taken, some allocation, allAfter, spansAfter, ?_, takenSound, ?_⟩
      · exact congrArg some stepEq
      · rw [takenSound.tags_eq]
        exact Attempted.taken free fits isTaken ⟨pBT, searched, rfl⟩
    · refine ⟨spoiled, none, allAfter, spansAfter, ?_, spoiledSound, ?_⟩
      · exact congrArg some stepEq
      · rw [spoiledSound.tags_eq]
        exact Attempted.spoiled free fits isSpoiled ⟨pBT, searched, rfl⟩

end PvrServices.Arena
