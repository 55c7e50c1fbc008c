import PvrServices.Arena.Undoing

/-!
# Freeing backing store

Behind the segments of an arena may stand backing store that is kept in whole
quanta.  Freeing a segment gives up the quanta that it met and that now lie in
free space.
-/

namespace PvrServices.Arena

open Nat (mod_eq_of_lt mod_lt mul_comm mul_le_mul_right succ_mul)
open RaArena

variable {arena after : RaArena} {front back : List Bt} {tag : Bt}
  {spans : List Span} {uQuantum : Nat}

/-- The quantum of the index lies in a free segment and met the segment that
was freed. -/
structure GivesUp (uQuantum : Nat) (orig merged : Bt) (index : Nat) :
    Prop where
  above : merged.base ≤ index * uQuantum
  below : (index + 1) * uQuantum ≤ merged.base + merged.uSize
  starts : index * uQuantum < orig.base + orig.uSize
  ends : orig.base < (index + 1) * uQuantum

/-- A range holds the whole quanta of a property, and is given only if there is
one. -/
structure HoldsQuanta (uQuantum : Nat) (range : Option (Nat × Nat))
    (wanted : Nat → Prop) : Prop where
  exactly : ∀ index, wanted index ↔ ∃ bounds ∈ range,
    bounds.1 ≤ index * uQuantum ∧ (index + 1) * uQuantum ≤ bounds.2
  whole : ∀ bounds ∈ range, uQuantum ∣ bounds.1 ∧ uQuantum ∣ bounds.2 ∧
    bounds.1 < bounds.2

/-- The first quantum of the range. -/
private theorem first_quantum
    {origBase base : Nat}
    (positive : 0 < uQuantum)
    (starts : base ≤ origBase) :
    ∃ first, (if origBase / uQuantum * uQuantum < base then
        origBase / uQuantum * uQuantum + uQuantum
      else origBase / uQuantum * uQuantum) = first * uQuantum ∧
        ∀ index, first ≤ index ↔
          base ≤ index * uQuantum ∧ origBase < (index + 1) * uQuantum := by
  have split := Nat.div_add_mod origBase uQuantum
  have remainder := mod_lt origBase positive
  rw [mul_comm] at split
  generalize origBase / uQuantum = low at *
  have scale : ∀ index, (index < low → index * uQuantum + uQuantum ≤
      low * uQuantum) ∧ (low < index → low * uQuantum + uQuantum ≤
        index * uQuantum) := by
    intro index
    constructor
    · intro below
      rw [← succ_mul]
      exact mul_le_mul_right _ below
    · intro above
      rw [← succ_mul]
      exact mul_le_mul_right _ above
  by_cases outside : low * uQuantum < base
  · refine ⟨low + 1, by rw [if_pos outside, succ_mul], fun index => ?_⟩
    have scaled := scale index
    rw [succ_mul]
    rcases Nat.lt_trichotomy index low with below | rfl | above
    · omega
    · omega
    · omega
  · refine ⟨low, if_neg outside, fun index => ?_⟩
    have scaled := scale index
    rw [succ_mul]
    rcases Nat.lt_trichotomy index low with below | rfl | above
    · omega
    · omega
    · omega

/-- The quantum behind the last one of the range. -/
private theorem last_quantum
    {origEnd stop : Nat}
    (positive : 0 < uQuantum)
    (nonempty : 0 < origEnd)
    (ends : origEnd ≤ stop) :
    uQuantum ≤ (origEnd + uQuantum - 1) / uQuantum * uQuantum ∧
      ∃ last, (if stop < (origEnd + uQuantum - 1) / uQuantum * uQuantum then
        (origEnd + uQuantum - 1) / uQuantum * uQuantum - uQuantum
      else (origEnd + uQuantum - 1) / uQuantum * uQuantum) =
        last * uQuantum ∧ ∀ index, index + 1 ≤ last ↔
          (index + 1) * uQuantum ≤ stop ∧ index * uQuantum < origEnd := by
  have split := Nat.div_add_mod (origEnd + uQuantum - 1) uQuantum
  have remainder := mod_lt (origEnd + uQuantum - 1) positive
  rw [mul_comm] at split
  generalize (origEnd + uQuantum - 1) / uQuantum = high at *
  have scale : ∀ index, (index < high → index * uQuantum + uQuantum ≤
      high * uQuantum) ∧ (high ≤ index → high * uQuantum ≤
        index * uQuantum) := by
    intro index
    constructor
    · intro below
      rw [← succ_mul]
      exact mul_le_mul_right _ below
    · exact fun above => mul_le_mul_right _ above
  have some : 0 < high := by
    rcases Nat.eq_zero_or_pos high with rfl | some
    · omega
    · exact some
  have large := (scale 0).1 some
  refine ⟨by omega, ?_⟩
  by_cases outside : stop < high * uQuantum
  · refine ⟨high - 1, ?_, fun index => ?_⟩
    · rw [if_pos outside, Nat.sub_mul, Nat.one_mul]
    · have scaled := scale index
      have next := scale (index + 1)
      rw [succ_mul] at *
      omega
  · refine ⟨high, if_neg outside, fun index => ?_⟩
    have scaled := scale index
    rw [succ_mul]
    omega

/-- The range that `_FreeBT` computes. -/
theorem backingStoreRange_spec
    {orig merged : Bt}
    (positive : 0 < uQuantum)
    (bound : uQuantum < 2 ^ 32)
    (nonempty : 0 < orig.uSize)
    (starts : merged.base ≤ orig.base)
    (ends : orig.base + orig.uSize ≤ merged.base + merged.uSize)
    (within : merged.base + merged.uSize < 2 ^ 32) :
    HoldsQuanta uQuantum
      (backingStoreRange uQuantum orig.base orig.uSize merged.base
        merged.uSize) (GivesUp uQuantum orig merged) := by
  obtain ⟨first, firstEq, fromFirst⟩ := first_quantum positive starts
  obtain ⟨large, last, lastEq, upToLast⟩ :=
    last_quantum positive (Nat.add_pos_right orig.base nonempty) ends
  have lowFloor := Nat.div_mul_le_self orig.base uQuantum
  have highFloor := Nat.div_mul_le_self
    (orig.base + orig.uSize + uQuantum - 1) uQuantum
  have rangeEq : backingStoreRange uQuantum orig.base orig.uSize merged.base
      merged.uSize =
        if first * uQuantum < last * uQuantum then
          some (wrap32 (first * uQuantum), wrap32 (last * uQuantum))
        else none := by
    rw [← firstEq, ← lastEq]
    unfold backingStoreRange wrap64
    simp only
    rw [mod_eq_of_lt (show orig.base / uQuantum * uQuantum < 2 ^ 64 by
        omega),
      mod_eq_of_lt (show orig.base / uQuantum * uQuantum + uQuantum <
        2 ^ 64 by omega),
      mod_eq_of_lt (show orig.base + orig.uSize + uQuantum - 1 < 2 ^ 64 by
        omega),
      mod_eq_of_lt (show (orig.base + orig.uSize + uQuantum - 1) /
        uQuantum * uQuantum < 2 ^ 64 by omega),
      mod_eq_of_lt (show merged.base + merged.uSize < 2 ^ 64 by omega),
      Nat.add_comm _ (2 ^ 64), Nat.add_sub_assoc large, Nat.add_mod_left,
      mod_eq_of_lt (show (orig.base + orig.uSize + uQuantum - 1) /
        uQuantum * uQuantum - uQuantum < 2 ^ 64 by omega)]
  have lastBound : last * uQuantum ≤ merged.base + merged.uSize := by
    rw [← lastEq]
    split
    · omega
    · omega
  have wanted : ∀ index, GivesUp uQuantum orig merged index ↔
      first ≤ index ∧ index + 1 ≤ last := by
    intro index
    rw [fromFirst index, upToLast index]
    constructor
    · exact fun gives => ⟨⟨gives.above, gives.ends⟩, gives.below, gives.starts⟩
    · exact fun ⟨⟨above, ends⟩, below, starts⟩ => ⟨above, below, starts, ends⟩
  rw [rangeEq]
  by_cases some : first * uQuantum < last * uQuantum
  · rw [if_pos some, wrap32, wrap32, mod_eq_of_lt (by omega),
      mod_eq_of_lt (by omega)]
    constructor
    · intro index
      rw [wanted]
      simp only [Option.mem_def, Option.some.injEq, exists_eq_left']
      rw [Nat.mul_le_mul_right_iff positive, Nat.mul_le_mul_right_iff positive]
    · rintro bounds isRange
      cases isRange
      exact ⟨Nat.dvd_mul_left .., Nat.dvd_mul_left .., some⟩
  · rw [if_neg some]
    constructor
    · intro index
      rw [wanted]
      have none : last ≤ first := by
        by_contra less
        exact some (Nat.mul_lt_mul_of_pos_right (Nat.lt_of_not_le less)
          positive)
      constructor
      · rintro ⟨above, below⟩
        omega
      · rintro ⟨_, impossible, _⟩
        cases impossible
    · rintro bounds impossible
      cases impossible

/-- A range of quanta within bounds lies within the bounds. -/
theorem HoldsQuanta.within
    {low high : Nat}
    {range : Option (Nat × Nat)}
    {wanted : Nat → Prop}
    (holds : HoldsQuanta uQuantum range wanted)
    (inside : ∀ index, wanted index →
      low ≤ index * uQuantum ∧ (index + 1) * uQuantum ≤ high) :
    ∀ bounds ∈ range, low ≤ bounds.1 ∧ bounds.2 ≤ high := by
  intro bounds isRange
  obtain ⟨⟨first, firstEq⟩, ⟨last, lastEq⟩, some⟩ := holds.whole bounds isRange
  rw [mul_comm] at firstEq lastEq
  rw [firstEq, lastEq] at some
  have ordered := Nat.lt_of_mul_lt_mul_right some
  have firstWanted : wanted first := by
    apply (holds.exactly first).mpr ⟨bounds, isRange, ?_, ?_⟩
    · exact Nat.le_of_eq firstEq
    · rw [lastEq]
      exact mul_le_mul_right _ ordered
  have lastWanted : wanted (last - 1) := by
    apply (holds.exactly _).mpr ⟨bounds, isRange, ?_, ?_⟩
    · rw [firstEq]
      exact mul_le_mul_right _ (by omega)
    · rw [Nat.sub_add_cancel (by omega)]
      exact Nat.le_of_eq lastEq.symm
  have below := (inside (last - 1) lastWanted).2
  rw [Nat.sub_add_cancel (by omega)] at below
  rw [firstEq, lastEq]
  exact ⟨(inside first firstWanted).1, below⟩

/-- Freeing a live segment gives up exactly the quanta that it met and that
lie in the joined free segment, and none that a live segment meets; addresses
have 32 bits. -/
theorem raFree_backingStore
    (invariant : Invariant arena)
    (withCallback : arena.pBackingStoreFree = true)
    (addresses : ∀ span ∈ arena.resources,
      span.base.toNat + span.uSize.toNat < 2 ^ 32)
    (tagsEq : arena.tags = front ++ tag :: back)
    (isLive : tag.type = .live) :
    ∃ merged range,
      (merged.base ≤ tag.base ∧
        tag.base + tag.uSize ≤ merged.base + merged.uSize) ∧
      ({ merged with type := .free } ∈ (arena.raFree tag.base true).tags ∨
        (arena.raFree tag.base true).importFrees =
          arena.importFrees ++ [(merged.base, merged.psMapping)]) ∧
      (arena.raFree tag.base true).backingStoreFrees =
        arena.backingStoreFrees ++ range.toList ∧
      HoldsQuanta arena.uQuantum range (GivesUp arena.uQuantum tag merged) ∧
      ∀ bounds ∈ range, ∀ other ∈ liveTags (arena.raFree tag.base true).tags,
        other.base + other.uSize ≤ bounds.1 ∨ bounds.2 ≤ other.base := by
  have segment : tag.type ≠ .span := by
    rw [isLive]
    simp
  obtain ⟨_, freedTagsEq, frees⟩ := raFree_live invariant tagsEq isLive true
  obtain ⟨spans, sound⟩ := invariant
  have layout : Layout arena.tags spans := sound.layout
  rw [tagsEq] at layout
  obtain ⟨spansJoined, layoutJoined, same, typeJoined⟩ :=
    layout.coalesce segment
  obtain ⟨starts, ends⟩ := layout.coalesce_bounds segment
  have range := frees.backingStoreFrees
  rw [freedRange, withCallback] at range
  rw [freedTags] at freedTagsEq
  have importFrees := frees.importFrees
  rw [givenBack] at importFrees
  generalize coalesce front tag back = joined at *
  obtain ⟨joinedFront, merged, joinedBack⟩ := joined
  simp only at *
  have mergedSegment : merged.type ≠ .span := by
    rw [typeJoined]
    exact segment
  have sizes := layoutJoined.segment_bounds (by simp) mergedSegment
  have positive := (layout.segment_bounds (by simp) segment).1
  have within : merged.base + merged.uSize < 2 ^ 32 := by
    obtain ⟨span, member, _, covered⟩ := (layoutJoined.covers
      (merged.base + merged.uSize - 1)).mp
        ⟨merged, by simp, mergedSegment, by omega, by omega⟩
    have listed : span.extent ∈ spansJoined.map Span.extent :=
      List.mem_map_of_mem member
    rw [same.extents, sound.resources.mem_iff] at listed
    obtain ⟨resource, isResource, extentEq⟩ := List.mem_map.mp listed
    have bounded := addresses resource isResource
    rw [← extentEq] at covered
    simp only [Import.extent] at covered
    omega
  have holds : HoldsQuanta arena.uQuantum
      (backingStoreRange arena.uQuantum tag.base tag.uSize merged.base
        merged.uSize) (GivesUp arena.uQuantum tag merged) :=
    backingStoreRange_spec sound.quantum.1 sound.quantum.2 positive starts
      ends within
  refine ⟨merged, _, ⟨starts, ends⟩, ?_, range, holds, ?_⟩
  · rw [freedTagsEq, importFrees]
    unfold settledTags settledSpan
    by_cases between : BetweenMarkers joinedFront joinedBack
    · rw [if_pos between, if_pos between]
      exact Or.inr rfl
    · rw [if_neg between]
      exact Or.inl (by simp)
  · intro bounds isRange other isLiveOther
    have inside := holds.within
      (fun index gives => ⟨gives.above, gives.below⟩) bounds isRange
    rw [freedTagsEq, liveTags_settledTags] at isLiveOther
    have ordered := List.pairwise_append.mp layoutJoined.pairwise
    have otherSegment : ∀ tags, other ∈ liveTags tags →
        other ∈ tags ∧ other.type ≠ .span := by
      intro tags member
      obtain ⟨listed, live⟩ := List.mem_filter.mp member
      have otherLive : other.type = .live := by simpa using live
      exact ⟨listed, by rw [otherLive]; simp⟩
    rcases List.mem_append.mp isLiveOther with inFront | inBack
    · obtain ⟨listed, isSegment⟩ := otherSegment _ inFront
      have apart := (ordered.2.2 other listed merged
        List.mem_cons_self).2 isSegment
      exact Or.inl (by omega)
    · obtain ⟨listed, _⟩ := otherSegment _ inBack
      have apart := ((List.pairwise_cons.mp ordered.2.1).1 other listed).2
        mergedSegment
      exact Or.inr (by omega)

/-- An arena of three pages with backing store. -/
def pagedArena : RaArena :=
  ((raCreate 0x10000 0x3000 none 4096 false true true true true).getD
    none).getD importingArena

/-- The arena after its first page has been allocated. -/
def firstPagedArena : RaArena :=
  ((pagedArena.raAlloc pageRequest twoPages).map Prod.fst).getD pagedArena

theorem pagedArena_invariant :
    Invariant pagedArena := by
  have created : raCreate 0x10000 0x3000 none 4096 false true true true true =
      some (some pagedArena) := rfl
  have byCallers : CreatedByCallers 0x10000 0x3000 4096 false :=
    ⟨by decide, by decide, by decide, by decide⟩
  exact (raCreate_invariant byCallers created).1

theorem firstPagedArena_invariant :
    Invariant firstPagedArena := by
  have permitted : Call.Permitted pagedArena (.alloc pageRequest twoPages) := by
    refine ⟨by decide, ?_⟩
    intro middle attempt
    have served : (pagedArena.attemptAllocAligned pageRequest
        twoPages.first).map Prod.snd = some (some ⟨0x10000, none⟩) := rfl
    rw [attempt] at served
    cases served
  obtain ⟨after, called, invariant, _⟩ :=
    call_spec pagedArena_invariant permitted
  have allocated : pagedArena.call (.alloc pageRequest twoPages) =
      some firstPagedArena := rfl
  rw [allocated] at called
  cases called
  exact invariant

/-- Freeing the first page gives up its backing store. -/
theorem raFree_backingStore_firstPage :
    ∃ range : Option (Nat × Nat),
      (firstPagedArena.raFree 0x10000 true).backingStoreFrees =
        firstPagedArena.backingStoreFrees ++ range.toList ∧
      ∃ bounds ∈ range, bounds.1 ≤ 0x10000 ∧ 0x11000 ≤ bounds.2 := by
  have addresses : ∀ span ∈ firstPagedArena.resources,
      span.base.toNat + span.uSize.toNat < 2 ^ 32 := by
    decide
  have tagsEq : firstPagedArena.tags = [] ++ ⟨.live, 0x10000, 0x1000, none⟩ ::
      [⟨.free, 0x11000, 0x2000, none⟩] := rfl
  obtain ⟨merged, range, ⟨starts, ends⟩, _, frees, holds, _⟩ :=
    raFree_backingStore firstPagedArena_invariant rfl addresses tagsEq rfl
  refine ⟨range, frees, ?_⟩
  exact (holds.exactly 16).mp ⟨starts, ends, by decide, by decide⟩

end PvrServices.Arena
