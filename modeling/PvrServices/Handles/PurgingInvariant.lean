import PvrServices.Handles.FreeCounts

/-!
# Invariant of a base with purging

The counts are right, the structures behind the first free index are free, and
only those of the batch carry its flags.  The links of the live handles are
those of a base without purging, and `FreeHandle` is the same release of a
subtree.
-/

namespace PvrServices.Handles

open HandleBase

/-! ## The invariant -/

/-- The structures of the batch carry its flags, the others of the array carry
none. -/
structure Flagged (base : HandleBase) (batch : List Nat) : Prop where
  inside : ∀ index ∈ batch, index < base.ui32TotalHandCount
  distinct : batch.Nodup
  own : ∀ index ∈ batch,
    (base.handles index).batched = true ∧
      ((base.handles index).partiallyFree = true ↔
        (base.handles index).eType = handleTypeNone)
  others : ∀ index, index < base.ui32TotalHandCount → index ∉ batch →
    (base.handles index).batched = false ∧
      (base.handles index).partiallyFree = false

/-- The invariant, for the rest of the batch from `start` on, and the children
of each handle. -/
structure PurgingValid
    (purging : PurgingBase)
    (start : Nat)
    (batch : List Nat)
    (kids : Nat → List Nat)
    (rank : Nat → Nat) : Prop where
  sized : Sized purging.base
  counted : Counted purging
  first : FirstFree purging.base
  links : BatchFrom purging.base start batch
  flagged : Flagged purging.base batch
  family : Family purging.base.slot purging.base.Live
    (purging.base.Used batch) kids rank

variable {base : HandleBase} {batch : List Nat}

/-- The structures that are free are those that are neither live nor in the
batch. -/
theorem Flagged.isFree_iff
    (flagged : Flagged base batch)
    {index : Nat}
    (inside : index < base.ui32TotalHandCount) :
    (base.handles index).isFree = true ↔
      (base.handles index).eType = handleTypeNone ∧ index ∉ batch := by
  rw [Handles.isFree_iff]
  refine and_congr_right fun _ => ?_
  constructor
  · rintro ⟨notBatched, _⟩ member
    rw [(flagged.own index member).1] at notBatched
    cases notBatched
  · exact flagged.others index inside

theorem Flagged.mem_freeHandles
    {purging : PurgingBase}
    (flagged : Flagged purging.base batch)
    {index : Nat} :
    index ∈ purging.freeHandles ↔
      index < purging.base.ui32TotalHandCount ∧
        (purging.base.handles index).eType = handleTypeNone ∧
        index ∉ batch := by
  rw [PurgingBase.mem_freeHandles]
  exact and_congr_right fun inside => flagged.isFree_iff inside

theorem Flagged.congr
    {other : HandleBase}
    (flagged : Flagged base batch)
    (total : other.ui32TotalHandCount = base.ui32TotalHandCount)
    (eType : ∀ index, (other.handles index).eType = (base.handles index).eType)
    (batched : ∀ index,
      (other.handles index).batched = (base.handles index).batched)
    (partiallyFree : ∀ index,
      (other.handles index).partiallyFree =
        (base.handles index).partiallyFree) :
    Flagged other batch where
  inside := total ▸ flagged.inside
  distinct := flagged.distinct
  own := by
    intro index member
    rw [batched, partiallyFree, eType]
    exact flagged.own index member
  others := by
    intro index inside
    rw [total] at inside
    rw [batched, partiallyFree]
    exact flagged.others index inside

namespace PurgingValid

variable {purging after : PurgingBase} {start : Nat} {batch : List Nat}
  {kids : Nat → List Nat} {rank : Nat → Nat}

section

variable (valid : PurgingValid purging start batch kids rank)
include valid

variable {otherKids : Nat → List Nat} {otherRank : Nat → Nat}

/-- The hash table, the batch size and the failure count are no part of the
invariant, and the list fields are only through the families. -/
theorem congr
    (total : after.base.ui32TotalHandCount =
      purging.base.ui32TotalHandCount)
    (max : after.base.ui32MaxIndexPlusOne =
      purging.base.ui32MaxIndexPlusOne)
    (count : after.base.ui32FreeHandCount =
      purging.base.ui32FreeHandCount)
    (first : after.base.ui32FirstFreeIndex =
      purging.base.ui32FirstFreeIndex)
    (blockCount : after.ui32FreeHandBlockCount =
      purging.ui32FreeHandBlockCount)
    (eType : ∀ index, (after.base.handles index).eType =
      (purging.base.handles index).eType)
    (batched : ∀ index, (after.base.handles index).batched =
      (purging.base.handles index).batched)
    (partiallyFree : ∀ index,
      (after.base.handles index).partiallyFree =
        (purging.base.handles index).partiallyFree)
    (link : ∀ index, (after.base.handles index).ui32NextIndexPlusOne =
      (purging.base.handles index).ui32NextIndexPlusOne)
    (family : Family after.base.slot purging.base.Live
      (purging.base.Used batch) otherKids otherRank) :
    PurgingValid after start batch otherKids otherRank := by
  have isFree : ∀ index, (after.base.handles index).isFree =
      (purging.base.handles index).isFree := by
    intro index
    rw [Handle.isFree, Handle.isFree, eType, batched, partiallyFree]
  have live : ∀ index, after.base.Live index ↔ purging.base.Live index := by
    intro index
    rw [HandleBase.Live, HandleBase.Live, total, eType]
  refine ⟨valid.sized.congr total max, ?_, ?_, ?_, ?_, ?_⟩
  · exact valid.counted.congr total
      (PurgingBase.freeHandles_congr total isFree) blockCount count
  · refine valid.first.congr first (le_of_eq total) ?_
    intro index _ free
    rw [isFree]
    exact free
  · exact valid.links.congr fun index _ => link index
  · exact valid.flagged.congr total eType batched partiallyFree
  · exact family.congr live fun index => by
      rw [Used, Used, live]

theorem not_partiallyFree
    {index : Nat}
    (alive : purging.base.Live index) :
    (purging.base.handles index).partiallyFree = false := by
  by_cases inBatch : index ∈ batch
  · rw [← Bool.not_eq_true, (valid.flagged.own index inBatch).2]
    exact alive.2
  · exact (valid.flagged.others index alive.1 inBatch).2

/-- Changes of the list fields keep the counts and the batch. -/
theorem sameData
    (same : SameData purging.base base)
    (family : Family base.slot purging.base.Live
      (purging.base.Used batch) otherKids otherRank) :
    PurgingValid { purging with base } start batch otherKids otherRank := by
  refine valid.congr ?_ ?_ ?_ ?_ rfl same.eType same.batched
    same.partiallyFree same.link family
  · exact (congrArg HandleBase.ui32TotalHandCount same.fields).trans rfl
  · exact (congrArg HandleBase.ui32MaxIndexPlusOne same.fields).trans rfl
  · exact (congrArg HandleBase.ui32FreeHandCount same.fields).trans rfl
  · exact (congrArg HandleBase.ui32FirstFreeIndex same.fields).trans rfl

/-- The hash table is no part of the invariant. -/
theorem withHash
    (hashTab : HandKey → Option Nat) :
    PurgingValid { purging with base := { purging.base with hashTab } }
      start batch kids rank :=
  valid.congr rfl rfl rfl rfl rfl (fun _ => rfl) (fun _ => rfl)
    (fun _ => rfl) (fun _ => rfl) valid.family

end

end PurgingValid

/-! ## Freeing -/

namespace PurgingBase

/-- A structure whose handle is retired. -/
def retired (handle : Handle) : Handle :=
  { handle with
    eType := handleTypeNone
    partiallyFree := handle.batched || handle.partiallyFree }

/-- Retiring a handle leaves it to the batch, or makes its structure free. -/
theorem retireHandle_eq (purging : PurgingBase) (index : Nat) :
    ∃ ui32FreeHandCount ui32FreeHandBlockCount,
      purging.retireHandle index =
        { base :=
            { purging.base.modify index retired with ui32FreeHandCount }
          ui32FreeHandBlockCount } ∧
      (((purging.base.handles index).batched = true ∧
          (purging.base.handles index).partiallyFree = false →
        ui32FreeHandCount = purging.base.ui32FreeHandCount ∧
          ui32FreeHandBlockCount = purging.ui32FreeHandBlockCount) ∧
      ((purging.base.handles index).batched = false →
        ui32FreeHandCount = purging.base.ui32FreeHandCount + 1 ∧
          ui32FreeHandBlockCount = Function.update
            purging.ui32FreeHandBlockCount (indexToBlockIndex index)
            (purging.ui32FreeHandBlockCount (indexToBlockIndex index) +
              1))) := by
  unfold retireHandle
  simp only [modify_self]
  split_ifs with stays
  · simp only [Bool.and_eq_true, Bool.not_eq_true'] at stays
    refine ⟨purging.base.ui32FreeHandCount, purging.ui32FreeHandBlockCount,
      ?_, fun _ => ⟨rfl, rfl⟩, fun impossible => ?_⟩
    · simp [retired, HandleBase.modify, stays]
    · cases impossible.symm.trans stays.1
  · simp only [Bool.and_eq_true, Bool.not_eq_true'] at stays
    refine ⟨purging.base.ui32FreeHandCount + 1, Function.update
      purging.ui32FreeHandBlockCount (indexToBlockIndex index)
      (purging.ui32FreeHandBlockCount (indexToBlockIndex index) + 1),
      ?_, fun both => absurd both stays, fun _ => ⟨rfl, rfl⟩⟩
    have same : retired (purging.base.handles index) =
        { purging.base.handles index with eType := handleTypeNone } := by
      have kept : ((purging.base.handles index).batched ||
          (purging.base.handles index).partiallyFree) =
            (purging.base.handles index).partiallyFree := by
        rw [Bool.or_eq_right_iff_imp]
        intro batched
        by_contra notPartly
        exact stays ⟨batched, by simpa using notPartly⟩
      rw [retired, kept]
    simp [HandleBase.modify, same]

theorem retireHandle_self (purging : PurgingBase) (index : Nat) :
    (purging.retireHandle index).base.handles index =
      retired (purging.base.handles index) := by
  obtain ⟨_, _, result, _⟩ := purging.retireHandle_eq index
  rw [result]
  exact purging.base.modify_self index retired

theorem retireHandle_of_ne
    (purging : PurgingBase)
    {index other : Nat}
    (different : other ≠ index) :
    (purging.retireHandle index).base.handles other =
      purging.base.handles other := by
  obtain ⟨_, _, result, _⟩ := purging.retireHandle_eq index
  rw [result]
  exact purging.base.modify_of_ne different retired

theorem retireHandle_first (purging : PurgingBase) (index : Nat) :
    (purging.retireHandle index).base.ui32FirstFreeIndex =
      purging.base.ui32FirstFreeIndex := by
  obtain ⟨_, _, result, _⟩ := purging.retireHandle_eq index
  rw [result]
  rfl

theorem retired_retireHandle (purging : PurgingBase) (index : Nat) :
    Retired purging.base (purging.retireHandle index).base index := by
  obtain ⟨count, counts, result, _⟩ := purging.retireHandle_eq index
  have same : SameHandles purging.base (purging.base.modify index retired) :=
    SameHandles.modify _ _ (fun _ => rfl) (fun _ => rfl) (fun _ => rfl)
      (fun _ => rfl)
  refine ⟨?_, fun other => ?_⟩
  · rw [result]
    exact ⟨same.total, same.max, same.hash, same.batchSize,
      same.firstBatch, same.failures, same.slot, same.pvData, same.eFlag⟩
  · split_ifs with isIndex
    · rw [isIndex, retireHandle_self]
      rfl
    · rw [purging.retireHandle_of_ne isIndex]

theorem countsThrough :
    CountsThrough freeSteps fun purging => purging.base where
  detach := fun _ _ => rfl
  stop := fun _ _ => rfl
  first := fun _ _ => rfl
  next := fun _ _ _ => rfl
  retire := retired_retireHandle
  counts := by
    intro purging index notBatched
    obtain ⟨count, _, result, _, leaves⟩ := purging.retireHandle_eq index
    exact (congrArg (fun after => after.base.ui32FreeHandCount) result).trans
      (leaves notBatched).1
  flags := by
    intro purging index other different
    have same := purging.retireHandle_of_ne different
    exact ⟨congrArg Handle.batched same, congrArg Handle.partiallyFree same⟩

end PurgingBase

namespace PurgingValid

variable {purging : PurgingBase} {start index : Nat} {batch : List Nat}
  {kids : Nat → List Nat} {rank : Nat → Nat}

section

variable (valid : PurgingValid purging start batch kids rank)
  (alive : purging.base.Live index)
include valid alive

/-- The first part of `FreeHandle` keeps the invariant. -/
theorem detach :
    PurgingValid (PurgingBase.freeSteps.detach purging index) start batch
      (fun parent => (kids parent).erase index) rank := by
  have intact := valid.not_partiallyFree alive
  obtain ⟨hashTab, result, _⟩ := removeFromHash_eq intact
  have hashed := valid.withHash hashTab
  have aliveHashed : ({ purging.base with hashTab } : HandleBase).Live
      index := alive
  have unlinked := hashed.sameData
    (SameData.unlinkFromParent { purging.base with hashTab } index)
    (hashed.family.unlinkFromParent aliveHashed).1
  rw [← result] at unlinked
  exact unlinked

/-- Retiring a handle sets its flags as its batch needs them. -/
theorem retire_flagged :
    Flagged (purging.retireHandle index).base batch := by
  have flagged := valid.flagged
  have same := (purging.retired_retireHandle index).same
  refine ⟨?_, flagged.distinct, fun other member => ?_,
    fun other inside outside => ?_⟩
  · rw [same.total]
    exact flagged.inside
  · by_cases isIndex : other = index
    · subst isIndex
      obtain ⟨batched, _⟩ := flagged.own other member
      rw [purging.retireHandle_self, PurgingBase.retired, batched]
      exact ⟨rfl, iff_of_true rfl rfl⟩
    · rw [purging.retireHandle_of_ne isIndex]
      exact flagged.own other member
  · rw [same.total] at inside
    by_cases isIndex : other = index
    · subst isIndex
      obtain ⟨notBatched, notPartly⟩ := flagged.others other inside outside
      rw [purging.retireHandle_self, PurgingBase.retired, notBatched,
        notPartly]
      exact ⟨rfl, rfl⟩
    · rw [purging.retireHandle_of_ne isIndex]
      exact flagged.others other inside outside

/-- Retiring a handle of the batch counts nothing, and retiring another counts
its structure as free. -/
theorem retire_counted :
    Counted (purging.retireHandle index) := by
  have flagged := valid.flagged
  have flaggedAfter := valid.retire_flagged alive
  have retired := purging.retired_retireHandle index
  obtain ⟨count, counts, result, stays, leaves⟩ :=
    purging.retireHandle_eq index
  by_cases inBatch : index ∈ batch
  · obtain ⟨sameCount, sameCounts⟩ := stays
      ⟨(flagged.own index inBatch).1, valid.not_partiallyFree alive⟩
    apply valid.counted.congr retired.same.total
    · ext other
      rw [flaggedAfter.mem_freeHandles, flagged.mem_freeHandles,
        retired.same.total, retired.eType]
      split_ifs with isIndex
      · simp only [isIndex, inBatch, not_true_eq_false, and_false]
      · rfl
    · rw [result, sameCounts]
    · rw [result, sameCount]
  · obtain ⟨more, moreInBlock⟩ :=
      leaves (flagged.others index alive.1 inBatch).1
    have used : index ∉ purging.freeHandles := fun free =>
      alive.2 (flagged.mem_freeHandles.mp free).2.1
    refine valid.counted.insert used ?_ retired.same.total ?_ ?_
    · ext other
      rw [Finset.mem_insert, flaggedAfter.mem_freeHandles,
        flagged.mem_freeHandles, retired.same.total, retired.eType]
      split_ifs with isIndex
      · simp only [isIndex, alive.1, inBatch, not_false_eq_true, and_self,
          true_or]
      · simp only [isIndex, false_or]
    · rw [result, moreInBlock]
    · rw [result, more]

/-- The second part of `FreeHandle` keeps the invariant. -/
theorem retire
    (isRoot : purging.base.parentHandle index = 0)
    (childless : kids index = []) :
    PurgingValid (purging.retireHandle index) start batch kids rank := by
  have retired := purging.retired_retireHandle index
  have same := retired.same
  have live := retired.live
  refine ⟨valid.sized.congr same.total same.max, valid.retire_counted alive,
    ?_, ?_, valid.retire_flagged alive, ?_⟩
  · apply valid.first.congr (purging.retireHandle_first index)
      (le_of_eq same.total)
    intro other inside free
    rw [same.total] at inside
    have different : other ≠ index := by
      rintro rfl
      exact alive.2 ((valid.flagged.isFree_iff inside).mp free).1
    rw [purging.retireHandle_of_ne different]
    exact free
  · apply valid.links.congr
    intro other _
    by_cases isIndex : other = index
    · rw [isIndex, purging.retireHandle_self]
      rfl
    · rw [purging.retireHandle_of_ne isIndex]
  · rw [same.slot]
    apply valid.family.retire isRoot childless live
    · rintro other (stillAlive | member)
      · exact Or.inl ((live other).mp stillAlive).1
      · exact Or.inr member
    · exact fun other stillAlive => Or.inl stillAlive

end

/-- The invariant holds of the steps of `FreeHandle`. -/
theorem releasable
    (start : Nat)
    (batch : List Nat)
    (rank : Nat → Nat) :
    TreeRelease.Releasable PurgingBase.freeSteps
      (fun purging => purging.base.liveHandles)
      (fun purging kids => PurgingValid purging start batch kids rank) rank
      (fun before after roots removed =>
        Freed before.base after.base rank roots removed) := by
  apply releasable_of_family PurgingBase.countsThrough.toFreesThrough
  · exact fun valid => ⟨_, valid.family⟩
  · exact fun valid alive => valid.not_partiallyFree alive
  · exact fun valid alive => valid.detach alive
  · exact fun valid alive isRoot childless =>
      valid.retire alive isRoot childless

/-- `FreeHandle` returns, and frees the subtree of the handle. -/
theorem freeHandle
    (valid : PurgingValid purging start batch kids rank)
    (alive : purging.base.Live index) :
    ∃ after kids removed, purging.freeHandle index = some after ∧
      PurgingValid after start batch kids rank ∧
      Freed purging.base after.base rank [index] removed := by
  have fewer := purging.base.card_liveHandles_le
  obtain ⟨after, otherKids, removed, result, kept, _, freed, _⟩ :=
    (releasable start batch rank).release_spec valid
      (mem_liveHandles.mpr alive)
      (show 2 * purging.base.liveHandles.card + 2 ≤
        2 * purging.base.ui32TotalHandCount + 2 by omega)
  exact ⟨after, otherKids, removed, result, kept, freed⟩

end PurgingValid

end PvrServices.Handles
