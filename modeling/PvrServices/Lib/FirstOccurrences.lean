import Mathlib.Data.List.Nodup

/-!
# First occurrences

Two elements of a list are the same when they have the same key.  The first
occurrences of a list are its elements whose key no element before them has.
-/

namespace FirstOccurrences

open List (map_cons mem_cons)

variable {element key : Type} [DecidableEq key] (keyOf : element → key)

/-- The elements whose key is new, given the keys that were seen before. -/
def firsts : List key → List element → List element
  | _, [] => []
  | seen, head :: rest =>
    if keyOf head ∈ seen then firsts seen rest
    else head :: firsts (keyOf head :: seen) rest

variable {keyOf} {seen other : List key} {elements : List element}

/-- Only which keys were seen matters. -/
theorem firsts_congr
    (same : ∀ value, value ∈ seen ↔ value ∈ other) :
    firsts keyOf seen elements = firsts keyOf other elements := by
  induction elements generalizing seen other with
  | nil => rfl
  | cons head rest ih =>
    have extended : ∀ value,
        value ∈ keyOf head :: seen ↔ value ∈ keyOf head :: other := by
      intro value
      rw [mem_cons, mem_cons, same]
    simp only [firsts, same, ih same, ih extended]

/-- The first occurrences stay in their order. -/
theorem firsts_sublist :
    (firsts keyOf seen elements).Sublist elements := by
  induction elements generalizing seen with
  | nil => exact List.Sublist.slnil
  | cons head rest ih =>
    rw [firsts]
    split
    · exact ih.cons head
    · exact ih.cons_cons head

/-- A key among the first occurrences is new. -/
theorem notMem_seen_of_mem_firsts
    {value : element}
    (member : value ∈ firsts keyOf seen elements) :
    keyOf value ∉ seen := by
  induction elements generalizing seen with
  | nil => cases member
  | cons head rest ih =>
    rw [firsts] at member
    split at member
    · exact ih member
    · next new =>
      obtain rfl | later := mem_cons.mp member
      · exact new
      · intro old
        exact ih later (List.mem_cons_of_mem _ old)

/-- The first occurrences have different keys. -/
theorem nodup_firsts :
    ((firsts keyOf seen elements).map keyOf).Nodup := by
  induction elements generalizing seen with
  | nil => exact List.nodup_nil
  | cons head rest ih =>
    rw [firsts]
    split
    · exact ih
    · rw [map_cons, List.nodup_cons]
      refine ⟨?_, ih⟩
      intro repeated
      obtain ⟨value, member, sameKey⟩ := List.mem_map.mp repeated
      apply notMem_seen_of_mem_firsts member
      rw [sameKey]
      exact List.mem_cons_self ..

/-- Every key that was not seen before has a first occurrence. -/
theorem mem_map_firsts
    {value : key} :
    value ∈ (firsts keyOf seen elements).map keyOf ↔
      value ∈ elements.map keyOf ∧ value ∉ seen := by
  induction elements generalizing seen with
  | nil => simp [firsts]
  | cons head rest ih =>
    rw [firsts]
    split
    · next old =>
      rw [ih, map_cons, mem_cons]
      constructor
      · rintro ⟨member, new⟩
        exact ⟨.inr member, new⟩
      · rintro ⟨rfl | member, new⟩
        · exact absurd old new
        · exact ⟨member, new⟩
    · next fresh =>
      rw [map_cons, mem_cons, ih, map_cons, mem_cons, mem_cons]
      constructor
      · rintro (rfl | ⟨member, new⟩)
        · exact ⟨.inl rfl, fresh⟩
        · exact ⟨.inr member, fun old => new (.inr old)⟩
      · rintro ⟨rfl | member, new⟩
        · exact .inl rfl
        · rcases eq_or_ne value (keyOf head) with same | different
          · exact .inl same
          · refine .inr ⟨member, ?_⟩
            rintro (same | old)
            · exact different same
            · exact new old

/-- The first occurrences of a list have its keys. -/
theorem mem_map_firsts_nil
    {value : key} :
    value ∈ (firsts keyOf [] elements).map keyOf ↔
      value ∈ elements.map keyOf := by
  rw [mem_map_firsts]
  exact and_iff_left List.not_mem_nil

end FirstOccurrences
