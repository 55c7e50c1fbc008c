import PvrServices.Handles.Purging
import PvrServices.Handles.Release
import Mathlib.Algebra.BigOperators.Group.Finset.Basic

/-!
# Free counts of a base with purging

The count of a block is the number of its structures that an allocation takes
for free, and the count of the base is their sum.  The search of an allocation
then ends at a free structure, if it starts inside the array.
-/

namespace PvrServices.Handles

open Finset (Ico card_pos mem_Ico mem_filter mem_range mem_union)
open HandleBase

namespace PurgingBase

/-! ## Free structures -/

/-- The structures that the search of an allocation takes for free. -/
def freeHandles (purging : PurgingBase) : Finset Nat :=
  (Finset.range purging.base.ui32TotalHandCount).filter fun index =>
    (purging.base.handles index).isFree

theorem mem_freeHandles {purging : PurgingBase} {index : Nat} :
    index ∈ purging.freeHandles ↔
      index < purging.base.ui32TotalHandCount ∧
        (purging.base.handles index).isFree = true := by
  rw [freeHandles, mem_filter, mem_range]

/-- Those of a block. -/
def freeInBlock (purging : PurgingBase) (block : Nat) : Finset Nat :=
  purging.freeHandles.filter fun index => indexToBlockIndex index = block

theorem mem_freeInBlock {purging : PurgingBase} {block index : Nat} :
    index ∈ purging.freeInBlock block ↔
      index ∈ purging.freeHandles ∧ indexToBlockIndex index = block :=
  mem_filter

theorem freeHandles_congr
    {purging other : PurgingBase}
    (total : other.base.ui32TotalHandCount =
      purging.base.ui32TotalHandCount)
    (same : ∀ index, (other.base.handles index).isFree =
      (purging.base.handles index).isFree) :
    other.freeHandles = purging.freeHandles := by
  ext index
  rw [mem_freeHandles, mem_freeHandles, total, same]

end PurgingBase

theorem isFree_iff {handle : Handle} :
    handle.isFree = true ↔ handle.eType = handleTypeNone ∧
      handle.batched = false ∧ handle.partiallyFree = false := by
  simp [Handle.isFree]

/-! ## Counts -/

/-- The counts tell how many structures are free. -/
structure Counted (purging : PurgingBase) : Prop where
  blocks : ∀ block,
    block < indexToBlockIndex purging.base.ui32TotalHandCount →
      purging.ui32FreeHandBlockCount block = (purging.freeInBlock block).card
  total : purging.base.ui32FreeHandCount = purging.freeHandles.card

namespace Counted

variable {purging after : PurgingBase}

theorem congr
    (counted : Counted purging)
    (total : after.base.ui32TotalHandCount =
      purging.base.ui32TotalHandCount)
    (free : after.freeHandles = purging.freeHandles)
    (blockCount : after.ui32FreeHandBlockCount =
      purging.ui32FreeHandBlockCount)
    (count : after.base.ui32FreeHandCount =
      purging.base.ui32FreeHandCount) :
    Counted after := by
  refine ⟨fun block inside => ?_, ?_⟩
  · rw [total] at inside
    rw [blockCount, PurgingBase.freeInBlock, free]
    exact counted.blocks block inside
  · rw [count, free]
    exact counted.total

/-- A structure becomes free and is counted. -/
theorem insert
    (counted : Counted purging)
    {index : Nat}
    (used : index ∉ purging.freeHandles)
    (free : after.freeHandles = Insert.insert index purging.freeHandles)
    (total : after.base.ui32TotalHandCount =
      purging.base.ui32TotalHandCount)
    (blockCount : after.ui32FreeHandBlockCount = Function.update
      purging.ui32FreeHandBlockCount (indexToBlockIndex index)
      (purging.ui32FreeHandBlockCount (indexToBlockIndex index) + 1))
    (count : after.base.ui32FreeHandCount =
      purging.base.ui32FreeHandCount + 1) :
    Counted after := by
  refine ⟨fun block inside => ?_, ?_⟩
  · rw [total] at inside
    have before := counted.blocks block inside
    rw [blockCount, PurgingBase.freeInBlock, free, Finset.filter_insert]
    by_cases same : indexToBlockIndex index = block
    · subst same
      have outside : index ∉ purging.freeInBlock (indexToBlockIndex index) :=
        fun member => used (PurgingBase.mem_freeInBlock.mp member).1
      rw [if_pos rfl, Function.update_self, before]
      exact (Finset.card_insert_of_notMem outside).symm
    · rw [if_neg same, Function.update_of_ne (Ne.symm same), before]
      rfl
  · rw [count, free, Finset.card_insert_of_notMem used, counted.total]

section

variable (counted : Counted purging)
include counted

/-- A free structure is taken and counted as used. -/
theorem erase
    {index : Nat}
    (wasFree : index ∈ purging.freeHandles)
    (free : after.freeHandles = purging.freeHandles.erase index)
    (total : after.base.ui32TotalHandCount =
      purging.base.ui32TotalHandCount)
    (blockCount : after.ui32FreeHandBlockCount = Function.update
      purging.ui32FreeHandBlockCount (indexToBlockIndex index)
      (oneLess (purging.ui32FreeHandBlockCount (indexToBlockIndex index))))
    (count : after.base.ui32FreeHandCount =
      oneLess purging.base.ui32FreeHandCount) :
    Counted after := by
  have less : ∀ {free : Finset Nat}, index ∈ free →
      oneLess free.card = (free.erase index).card := by
    intro free member
    have positive := card_pos.mpr ⟨index, member⟩
    rw [oneLess, if_neg (Nat.ne_of_gt positive),
      Finset.card_erase_of_mem member]
  refine ⟨fun block inside => ?_, ?_⟩
  · rw [total] at inside
    have before := counted.blocks block inside
    rw [blockCount, PurgingBase.freeInBlock, free, Finset.filter_erase]
    by_cases same : indexToBlockIndex index = block
    · subst same
      rw [Function.update_self, before]
      exact less (PurgingBase.mem_freeInBlock.mpr ⟨wasFree, rfl⟩)
    · have outside : index ∉ purging.freeHandles.filter fun other =>
          indexToBlockIndex other = block := by
        rw [mem_filter]
        exact fun both => same both.2
      rw [Function.update_of_ne (Ne.symm same), before,
        Finset.erase_eq_of_notMem outside]
      rfl
  · rw [count, free, counted.total]
    exact less wasFree

/-- The count of the base is the sum of those of its blocks. -/
theorem count_eq_sum
    (aligned : purging.base.ui32TotalHandCount % handleBlockSize = 0) :
    purging.base.ui32FreeHandCount =
      ∑ block ∈ Finset.range
        (indexToBlockIndex purging.base.ui32TotalHandCount),
        purging.ui32FreeHandBlockCount block := by
  have inBlocks : Set.MapsTo indexToBlockIndex
      (purging.freeHandles : Set Nat)
      (Finset.range (indexToBlockIndex purging.base.ui32TotalHandCount) :
        Set Nat) := by
    intro index member
    have inside := (PurgingBase.mem_freeHandles.mp member).1
    rw [Finset.coe_range, Set.mem_Iio]
    simp only [indexToBlockIndex, handleBlockSize] at aligned ⊢
    omega
  rw [counted.total, Finset.card_eq_sum_card_fiberwise inBlocks]
  refine Finset.sum_congr rfl fun block member => ?_
  exact (counted.blocks block (mem_range.mp member)).symm

/-- New blocks are free and full of free structures. -/
theorem grow
    (aligned : purging.base.ui32TotalHandCount % handleBlockSize = 0)
    (afterAligned : after.base.ui32TotalHandCount % handleBlockSize = 0)
    (more : purging.base.ui32TotalHandCount <
      after.base.ui32TotalHandCount)
    (old : ∀ index, index < purging.base.ui32TotalHandCount →
      (after.base.handles index).isFree = (purging.base.handles index).isFree)
    (new : ∀ index, purging.base.ui32TotalHandCount ≤ index →
      index < after.base.ui32TotalHandCount →
        (after.base.handles index).isFree = true)
    (blockCount : ∀ block, after.ui32FreeHandBlockCount block =
      if indexToBlockIndex purging.base.ui32TotalHandCount ≤ block ∧
          block < indexToBlockIndex after.base.ui32TotalHandCount then
        handleBlockSize
      else purging.ui32FreeHandBlockCount block)
    (count : after.base.ui32FreeHandCount =
      purging.base.ui32FreeHandCount +
        (after.base.ui32TotalHandCount - purging.base.ui32TotalHandCount)) :
    Counted after := by
  have free : ∀ index, index ∈ after.freeHandles ↔
      index ∈ purging.freeHandles ∨
        (purging.base.ui32TotalHandCount ≤ index ∧
          index < after.base.ui32TotalHandCount) := by
    intro index
    rw [PurgingBase.mem_freeHandles, PurgingBase.mem_freeHandles]
    by_cases inside : index < purging.base.ui32TotalHandCount
    · rw [old index inside]
      constructor
      · exact fun both => Or.inl ⟨inside, both.2⟩
      · rintro (both | ⟨beyond, _⟩)
        · exact ⟨inside.trans more, both.2⟩
        · omega
    · constructor
      · exact fun both => Or.inr ⟨Nat.not_lt.mp inside, both.1⟩
      · rintro (both | ⟨beyond, below⟩)
        · exact absurd both.1 inside
        · exact ⟨below, new index beyond below⟩
  refine ⟨fun block inside => ?_, ?_⟩
  · rw [blockCount]
    simp only [handleBlockSize] at aligned afterAligned
    simp only [indexToBlockIndex, handleBlockSize] at inside ⊢
    split_ifs with isNew
    · have whole : after.freeInBlock block =
          Ico (block * 256) (block * 256 + 256) := by
        ext index
        rw [PurgingBase.mem_freeInBlock, free, mem_Ico]
        simp only [indexToBlockIndex, handleBlockSize,
          PurgingBase.mem_freeHandles]
        omega
      rw [whole, Nat.card_Ico]
      omega
    · have isOld : block < purging.base.ui32TotalHandCount / 256 := by
        omega
      have same : after.freeInBlock block = purging.freeInBlock block := by
        ext index
        rw [PurgingBase.mem_freeInBlock, PurgingBase.mem_freeInBlock, free]
        simp only [indexToBlockIndex, handleBlockSize]
        refine and_congr_left fun inBlock => or_iff_left ?_
        omega
      rw [same]
      exact counted.blocks block isOld
  · have union : after.freeHandles = purging.freeHandles ∪
        Ico purging.base.ui32TotalHandCount
          after.base.ui32TotalHandCount := by
      ext index
      rw [free, mem_union, mem_Ico]
    have apart : Disjoint purging.freeHandles
        (Ico purging.base.ui32TotalHandCount
          after.base.ui32TotalHandCount) := by
      rw [Finset.disjoint_left]
      intro index member
      rw [mem_Ico]
      have inside := (PurgingBase.mem_freeHandles.mp member).1
      omega
    rw [count, union, Finset.card_union_of_disjoint apart, Nat.card_Ico,
      counted.total]

/-- Free blocks at the end are given back. -/
theorem shrink
    (afterAligned : after.base.ui32TotalHandCount % handleBlockSize = 0)
    (fewer : after.base.ui32TotalHandCount ≤
      purging.base.ui32TotalHandCount)
    (same : ∀ index, (after.base.handles index).isFree =
      (purging.base.handles index).isFree)
    (gone : ∀ index, after.base.ui32TotalHandCount ≤ index →
      index < purging.base.ui32TotalHandCount →
        (purging.base.handles index).isFree = true)
    (blockCount : after.ui32FreeHandBlockCount =
      purging.ui32FreeHandBlockCount)
    (count : after.base.ui32FreeHandCount =
      purging.base.ui32FreeHandCount -
        (purging.base.ui32TotalHandCount - after.base.ui32TotalHandCount)) :
    Counted after := by
  refine ⟨fun block inside => ?_, ?_⟩
  · have sameBlock : after.freeInBlock block =
        purging.freeInBlock block := by
      ext index
      rw [PurgingBase.mem_freeInBlock, PurgingBase.mem_freeInBlock,
        PurgingBase.mem_freeHandles, PurgingBase.mem_freeHandles, same]
      simp only [indexToBlockIndex, handleBlockSize] at inside afterAligned ⊢
      refine and_congr_left fun inBlock => and_congr_left fun _ => ?_
      omega
    rw [blockCount, sameBlock]
    apply counted.blocks
    exact lt_of_lt_of_le inside (Nat.div_le_div_right fewer)
  · have union : purging.freeHandles = after.freeHandles ∪
        Ico after.base.ui32TotalHandCount
          purging.base.ui32TotalHandCount := by
      ext index
      rw [mem_union, mem_Ico, PurgingBase.mem_freeHandles,
        PurgingBase.mem_freeHandles, same]
      constructor
      · rintro ⟨inside, free⟩
        by_cases stays : index < after.base.ui32TotalHandCount
        · exact Or.inl ⟨stays, free⟩
        · exact Or.inr ⟨Nat.not_lt.mp stays, inside⟩
      · rintro (⟨inside, free⟩ | ⟨beyond, inside⟩)
        · exact ⟨lt_of_lt_of_le inside fewer, free⟩
        · exact ⟨inside, gone index beyond inside⟩
    have apart : Disjoint after.freeHandles
        (Ico after.base.ui32TotalHandCount
          purging.base.ui32TotalHandCount) := by
      rw [Finset.disjoint_left]
      intro index member
      rw [mem_Ico]
      have inside := (PurgingBase.mem_freeHandles.mp member).1
      omega
    rw [count, counted.total, union, Finset.card_union_of_disjoint apart,
      Nat.card_Ico, Nat.add_sub_cancel]

end

end Counted

/-! ## The search -/

/-- The first index to search from is the start of a block, and if it is not 0,
all structures from there on are free.  A purge may leave it beyond the
array. -/
structure FirstFree (base : HandleBase) : Prop where
  aligned : base.ui32FirstFreeIndex % handleBlockSize = 0
  behind : base.ui32FirstFreeIndex ≠ 0 →
    ∀ index, base.ui32FirstFreeIndex ≤ index →
      index < base.ui32TotalHandCount →
        (base.handles index).isFree = true

theorem FirstFree.congr
    {base other : HandleBase}
    (first : FirstFree base)
    (same : other.ui32FirstFreeIndex = base.ui32FirstFreeIndex)
    (total : other.ui32TotalHandCount ≤ base.ui32TotalHandCount)
    (free : ∀ index, index < other.ui32TotalHandCount →
      (base.handles index).isFree = true →
        (other.handles index).isFree = true) :
    FirstFree other where
  aligned := by
    rw [same]
    exact first.aligned
  behind := by
    rw [same]
    intro nonzero index beyond inside
    apply free index inside
    exact first.behind nonzero index beyond (lt_of_lt_of_le inside total)

/-- An allocation that searches now starts inside the array, which has grown if
there was no free structure. -/
def HandleBase.SearchInside (base : HandleBase) : Prop :=
  base.ui32FirstFreeIndex < base.ui32TotalHandCount ∨
    (base.ui32FirstFreeIndex = base.ui32TotalHandCount ∧
      base.ui32FreeHandCount = 0)

instance (base : HandleBase) : Decidable base.SearchInside :=
  inferInstanceAs (Decidable (_ ∨ _))

namespace PurgingBase

/-- What has been found is a free structure of the array. -/
def Finds (purging : PurgingBase) (found : Found) : Prop :=
  ∃ index, found = { ui32NewIndex := index, psNewHandle := some index } ∧
    index ∈ purging.freeHandles

variable {start : Nat} {purging : PurgingBase}

/-- The search of a block finds a free structure if there is one. -/
theorem scanBlock_spec
    (base : HandleBase)
    {left : Nat}
    (psNewHandle : Option Nat)
    (some_free : ∃ index, start ≤ index ∧ index < start + left ∧
      (base.handles index).isFree = true) :
    ∃ index, scanBlock base left start psNewHandle =
        { ui32NewIndex := index, psNewHandle := some index } ∧
      start ≤ index ∧ index < start + left ∧
      (base.handles index).isFree = true := by
  induction left generalizing start psNewHandle with
  | zero =>
    obtain ⟨index, beyond, inside, _⟩ := some_free
    omega
  | succ left ih =>
    rw [scanBlock]
    by_cases free : (base.handles start).isFree = true
    · rw [if_pos free]
      have below : start < start + (left + 1) := by omega
      exact ⟨start, rfl, le_rfl, below, free⟩
    · rw [if_neg free]
      obtain ⟨index, beyond, inside, isFree⟩ := some_free
      have different : start ≠ index := by
        rintro rfl
        exact free isFree
      have ahead : start + 1 ≤ index := by omega
      have below : index < start + 1 + left := by omega
      obtain ⟨last, result, lastBeyond, lastInside, lastFree⟩ :=
        ih (some start) ⟨index, ahead, below, isFree⟩
      refine ⟨last, result, ?_, ?_, lastFree⟩ <;> omega

/-- The search of the blocks finds a free structure if it has found one or
there is one ahead. -/
theorem scanBlocks_spec
    (counted : Counted purging)
    (aligned : purging.base.ui32TotalHandCount % handleBlockSize = 0)
    {blocks : Nat}
    {found : Found}
    (startAligned : start % handleBlockSize = 0)
    (enough : purging.base.ui32TotalHandCount ≤
      start + blocks * handleBlockSize)
    (finds : purging.Finds found ∨
      ∃ index ∈ purging.freeHandles, start ≤ index) :
    purging.Finds (purging.scanBlocks blocks start found) := by
  have inside : ∀ index ∈ purging.freeHandles,
      index < purging.base.ui32TotalHandCount :=
    fun index member => (mem_freeHandles.mp member).1
  induction blocks generalizing start found with
  | zero =>
    rw [scanBlocks]
    rcases finds with done | ⟨index, member, ahead⟩
    · exact done
    · have below := inside index member
      omega
  | succ blocks ih =>
    rw [scanBlocks]
    by_cases goesOn : start < purging.base.ui32TotalHandCount
    · rw [if_pos goesOn]
      have isBlock : indexToBlockIndex start <
          indexToBlockIndex purging.base.ui32TotalHandCount := by
        simp only [indexToBlockIndex, handleBlockSize] at *
        omega
      have count := counted.blocks _ isBlock
      apply ih
      · simp only [handleBlockSize] at startAligned ⊢
        omega
      · simp only [handleBlockSize] at enough ⊢
        omega
      · by_cases none : purging.ui32FreeHandBlockCount
            (indexToBlockIndex start) = 0
        · rw [if_pos none]
          rw [none] at count
          have empty := Finset.card_eq_zero.mp count.symm
          rcases finds with done | ⟨index, member, ahead⟩
          · exact Or.inl done
          · refine Or.inr ⟨index, member, ?_⟩
            by_contra inBlock
            have inEmpty : index ∈ purging.freeInBlock
                (indexToBlockIndex start) := by
              refine mem_freeInBlock.mpr ⟨member, ?_⟩
              simp only [indexToBlockIndex, handleBlockSize] at *
              omega
            rw [empty] at inEmpty
            exact absurd inEmpty (Finset.notMem_empty index)
        · rw [if_neg none]
          left
          rw [count] at none
          obtain ⟨index, member⟩ :=
            card_pos.mp (Nat.pos_of_ne_zero none)
          obtain ⟨free, inBlock⟩ := mem_freeInBlock.mp member
          have isFree := (mem_freeHandles.mp free).2
          have bounds : start ≤ index ∧
              index < start + handleBlockSize := by
            simp only [indexToBlockIndex, handleBlockSize] at *
            omega
          obtain ⟨last, result, ahead, below, lastFree⟩ :=
            scanBlock_spec purging.base found.psNewHandle
              ⟨index, bounds.1, bounds.2, isFree⟩
          refine ⟨last, result, mem_freeHandles.mpr ⟨?_, lastFree⟩⟩
          simp only [handleBlockSize] at aligned startAligned below
          omega
    · rw [if_neg goesOn]
      rcases finds with done | ⟨index, member, ahead⟩
      · exact done
      · have below := inside index member
        omega

/-- The search of an allocation finds a free structure if there is one. -/
theorem scan_spec
    (counted : Counted purging)
    (first : FirstFree purging.base)
    (aligned : purging.base.ui32TotalHandCount % handleBlockSize = 0)
    (inside : purging.base.ui32FirstFreeIndex <
      purging.base.ui32TotalHandCount)
    (some_free : 0 < purging.base.ui32FreeHandCount) :
    purging.Finds purging.scan := by
  have start : roundDownToBlockSize purging.base.ui32FirstFreeIndex =
      purging.base.ui32FirstFreeIndex := by
    have firstAligned := first.aligned
    simp only [roundDownToBlockSize, handleBlockSize] at firstAligned ⊢
    omega
  rw [scan, start]
  apply scanBlocks_spec counted aligned first.aligned
  · simp only [handleBlockSize]
    omega
  · right
    by_cases zero : purging.base.ui32FirstFreeIndex = 0
    · rw [counted.total] at some_free
      obtain ⟨index, member⟩ := card_pos.mp some_free
      exact ⟨index, member, by omega⟩
    · have free := first.behind zero _ le_rfl inside
      exact ⟨_, mem_freeHandles.mpr ⟨inside, free⟩, le_rfl⟩

end PurgingBase

end PvrServices.Handles
