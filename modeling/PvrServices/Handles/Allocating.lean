import PvrServices.Handles.Subtree

/-!
# Allocating a handle

The array grows when there are too few free structures.  The new ones go to
the end of the free chain, which is found to be empty by its first index being
0.  A chain that starts at structure 0 is therefore taken for an empty one.
-/

namespace PvrServices.Handles

open Links
open HandleBase (increasedCount nextFree)
open List (length_append length_nil length_range' mem_cons mem_range'_1
  nodup_cons range')

/-! ## Growing the array -/

/-- The first free index is 0 only if there is no free structure. -/
def HandleBase.ZeroMeansEmpty (base : HandleBase) : Prop :=
  base.ui32FirstFreeIndex = 0 → base.ui32FreeHandCount = 0

variable {base after : HandleBase} {count index : Nat} {batch : List Nat}

theorem increasedCount_bounds
    (sized : Sized base)
    {ui32Delta : Nat}
    (positive : 0 < ui32Delta)
    (result : base.increasedCount ui32Delta = some count) :
    base.ui32TotalHandCount < count ∧ count ≤ base.ui32MaxIndexPlusOne ∧
      count % handleBlockSize = 0 := by
  have totalMod := sized.total_mod
  have maxMod := sized.max_mod
  have rounded : (base.ui32TotalHandCount + roundUpToBlockSize ui32Delta) %
      2 ^ 32 % handleBlockSize = 0 := by
    simp only [roundUpToBlockSize, roundDownToBlockSize, handleBlockSize]
      at totalMod ⊢
    omega
  simp only [increasedCount] at result
  split_ifs at result with limit small
  · cases result
    exact ⟨by omega, le_rfl, maxMod⟩
  · cases result
    rw [not_or] at limit
    exact ⟨by omega, by omega, rounded⟩

/-- A base after its array has grown. -/
structure Grown (before after : HandleBase) : Prop where
  live : ∀ index, after.Live index ↔ before.Live index
  eType : ∀ index, after.Live index →
    (after.handles index).eType = (before.handles index).eType
  batched : ∀ index, after.Live index →
    (after.handles index).batched = (before.handles index).batched
  pvData : ∀ index,
    (after.handles index).pvData = (before.handles index).pvData
  eFlag : ∀ index, (after.handles index).eFlag = (before.handles index).eFlag
  slot : after.slot = before.slot
  hash : after.hashTab = before.hashTab
  total_le : before.ui32TotalHandCount ≤ after.ui32TotalHandCount
  max : after.ui32MaxIndexPlusOne = before.ui32MaxIndexPlusOne
  batchSize : after.ui32HandBatchSize = before.ui32HandBatchSize
  firstBatch : after.ui32FirstBatchIndexPlusOne =
    before.ui32FirstBatchIndexPlusOne
  failures : after.ui32BatchHandAllocFailures =
    before.ui32BatchHandAllocFailures
  outside : ∀ index, after.ui32TotalHandCount ≤ index →
    after.handles index = before.handles index

theorem Grown.refl (base : HandleBase) : Grown base base :=
  ⟨fun _ => Iff.rfl, fun _ _ => rfl, fun _ _ => rfl, fun _ => rfl,
    fun _ => rfl, rfl, rfl, le_rfl, rfl, rfl, rfl, rfl, fun _ _ => rfl⟩

/-- The structures of the new blocks. -/
def HandleBase.withBlocks (base : HandleBase) (count : Nat) : HandleBase :=
  { base with
    handles := fun index =>
      if base.ui32TotalHandCount ≤ index ∧ index < count then
        { base.handles index with
          eType := handleTypeNone
          batched := false
          partiallyFree := false
          ui32NextIndexPlusOne := 0 }
      else base.handles index
    ui32TotalHandCount := count
    ui32FreeHandCount :=
      base.ui32FreeHandCount + (count - base.ui32TotalHandCount) }

namespace HandleBase

theorem withBlocks_slot (base : HandleBase) (count : Nat) :
    (base.withBlocks count).slot = base.slot := by
  ext field
  cases field <;> simp only [slot, withBlocks] <;> split_ifs <;> rfl

variable {count index : Nat}

theorem withBlocks_inside
    (base : HandleBase)
    (inside : index < base.ui32TotalHandCount) :
    (base.withBlocks count).handles index = base.handles index :=
  if_neg fun both => Nat.not_lt.mpr both.1 inside

theorem withBlocks_new
    (base : HandleBase)
    (beyond : base.ui32TotalHandCount ≤ index)
    (inside : index < count) :
    (base.withBlocks count).handles index =
      { base.handles index with
        eType := handleTypeNone
        batched := false
        partiallyFree := false
        ui32NextIndexPlusOne := 0 } :=
  if_pos ⟨beyond, inside⟩

theorem withBlocks_live
    (base : HandleBase)
    (more : base.ui32TotalHandCount < count)
    (index : Nat) :
    (base.withBlocks count).Live index ↔ base.Live index := by
  change index < count ∧ _ ↔ _
  by_cases inside : index < base.ui32TotalHandCount
  · rw [base.withBlocks_inside inside]
    exact and_congr_left fun _ => iff_of_true (inside.trans more) inside
  · constructor
    · rintro ⟨below, alive⟩
      rw [base.withBlocks_new (Nat.not_lt.mp inside) below] at alive
      exact absurd rfl alive
    · exact fun alive => absurd alive.1 inside

theorem reallocHandleArray_eq
    (sized : Sized base)
    (more : base.ui32TotalHandCount < count)
    (aligned : count % handleBlockSize = 0) :
    base.reallocHandleArray count true =
      .ok (if base.ui32FirstFreeIndex = 0 then
        { base.withBlocks count with
          ui32FirstFreeIndex := base.ui32TotalHandCount
          ui32LastFreeIndexPlusOne := count }
      else
        { (base.withBlocks count).modify (base.ui32LastFreeIndexPlusOne - 1)
            (fun handle =>
              { handle with
                ui32NextIndexPlusOne := base.ui32TotalHandCount + 1 }) with
          ui32LastFreeIndexPlusOne := count }) := by
  unfold reallocHandleArray
  rw [if_neg (by omega), if_neg (by omega),
    if_neg (by simp [sized.total_mod, aligned]), if_neg (by simp)]
  split_ifs with zero
  · have first : (base.withBlocks count).ui32FirstFreeIndex = 0 := zero
    simp only [withBlocks] at first ⊢
    rw [if_pos zero]
  · simp only
    rw [if_neg zero]
    rfl

end HandleBase

/-- The chain with the new blocks at its end. -/
theorem FreeChain.grow
    {chain : List Nat}
    (free : FreeChain base chain)
    (inside : ∀ index ∈ chain, index < base.ui32TotalHandCount)
    (more : base.ui32TotalHandCount < count)
    (counter : after.ui32FreeHandCount =
      base.ui32FreeHandCount + (count - base.ui32TotalHandCount))
    (first : after.ui32FirstFreeIndex =
      chain.headD base.ui32TotalHandCount)
    (last : after.ui32LastFreeIndexPlusOne = count)
    (kept : ∀ index ∈ chain.dropLast,
      (after.handles index).ui32NextIndexPlusOne =
        (base.handles index).ui32NextIndexPlusOne)
    (joined : ∀ index ∈ chain.getLast?,
      (after.handles index).ui32NextIndexPlusOne = base.ui32TotalHandCount + 1)
    (fresh : ∀ index, base.ui32TotalHandCount ≤ index → index < count →
      (after.handles index).ui32NextIndexPlusOne = 0) :
    FreeChain after
      (chain ++ range' base.ui32TotalHandCount
        (count - base.ui32TotalHandCount)) where
  count := by
    rw [counter, free.count, length_append, length_range']
  first := by
    rw [first]
    cases chain with
    | nil =>
      obtain ⟨extra, size⟩ : ∃ extra,
          count - base.ui32TotalHandCount = extra + 1 :=
        ⟨count - base.ui32TotalHandCount - 1, by omega⟩
      rw [List.nil_append, size, List.range'_succ]
      rfl
    | cons head rest => rfl
  links := by
    refine chain_append ?_ ?_ ?_
    · apply chain_congr _ free.links
      intro index member
      simp only [nextFree, kept index member]
    · refine List.IsChain.imp_of_mem_imp ?_
        (List.isChain_range' base.ui32TotalHandCount
          (count - base.ui32TotalHandCount) 1)
      intro index other member _ following
      rw [mem_range'_1] at member
      rw [nextFree, fresh index member.1 (by omega), if_pos rfl]
      exact following.symm
    · intro index isLast other isFirst
      obtain ⟨extra, size⟩ : ∃ extra,
          count - base.ui32TotalHandCount = extra + 1 :=
        ⟨count - base.ui32TotalHandCount - 1, by omega⟩
      rw [size, List.range'_succ] at isFirst
      cases isFirst
      simp [nextFree, joined index isLast]
  last := by
    intro index isLast
    obtain ⟨extra, size⟩ : ∃ extra,
        count - base.ui32TotalHandCount = extra + 1 :=
      ⟨count - base.ui32TotalHandCount - 1, by omega⟩
    rw [size, List.range'_concat, ← List.append_assoc,
      List.getLast?_concat] at isLast
    cases isLast
    exact ⟨by omega, fresh _ (by omega) (by omega)⟩
  empty := by
    intro none
    have length := congrArg List.length none
    simp only [length_append, length_range', length_nil]
      at length
    omega
  distinct := by
    refine List.nodup_append.mpr ⟨free.distinct, List.nodup_range', ?_⟩
    rintro index member _ new rfl
    rw [mem_range'_1] at new
    have old := inside index member
    omega

/-- The base is `base` with new blocks at the end of its chain. -/
structure Spliced
    (base after : HandleBase) (chain : List Nat) (count : Nat) : Prop where
  fields : after =
    { base.withBlocks count with
      handles := after.handles
      ui32FirstFreeIndex := chain.headD base.ui32TotalHandCount
      ui32LastFreeIndexPlusOne := count }
  kept : ∀ index, index ∉ chain.getLast? →
    after.handles index = (base.withBlocks count).handles index
  joined : ∀ index ∈ chain.getLast?, after.handles index =
    { (base.withBlocks count).handles index with
      ui32NextIndexPlusOne := base.ui32TotalHandCount + 1 }

namespace Spliced

variable {base after : HandleBase} {chain : List Nat} {count : Nat}

/-- Only links differ from the base with the new blocks. -/
theorem handle_eq
    (spliced : Spliced base after chain count) (index : Nat) :
    after.handles index =
      { (base.withBlocks count).handles index with
        ui32NextIndexPlusOne :=
          (after.handles index).ui32NextIndexPlusOne } := by
  by_cases isLast : index ∈ chain.getLast?
  · rw [spliced.joined index isLast]
  · rw [spliced.kept index isLast]

theorem total (spliced : Spliced base after chain count) :
    after.ui32TotalHandCount = count := by
  rw [spliced.fields]
  rfl

theorem live
    (spliced : Spliced base after chain count)
    (more : base.ui32TotalHandCount < count)
    (index : Nat) :
    after.Live index ↔ base.Live index := by
  rw [HandleBase.Live, spliced.total, spliced.handle_eq]
  exact base.withBlocks_live more index

theorem slot (spliced : Spliced base after chain count) :
    after.slot = base.slot := by
  rw [← base.withBlocks_slot count]
  ext1 field
  cases field <;>
    · simp only [HandleBase.slot]
      rw [spliced.handle_eq]

theorem grown
    (spliced : Spliced base after chain count)
    (inside : ∀ index ∈ chain, index < base.ui32TotalHandCount)
    (more : base.ui32TotalHandCount < count) :
    Grown base after := by
  refine ⟨spliced.live more, ?_, ?_, ?_, ?_, spliced.slot, ?_, ?_, ?_, ?_, ?_,
    ?_, ?_⟩
  · intro index alive
    have before := (spliced.live more index).mp alive
    rw [spliced.handle_eq, base.withBlocks_inside before.1]
  · intro index alive
    have before := (spliced.live more index).mp alive
    rw [spliced.handle_eq, base.withBlocks_inside before.1]
  · intro index
    rw [spliced.handle_eq]
    simp only [HandleBase.withBlocks]
    split_ifs <;> rfl
  · intro index
    rw [spliced.handle_eq]
    simp only [HandleBase.withBlocks]
    split_ifs <;> rfl
  · rw [spliced.fields]
    rfl
  · rw [spliced.total]
    exact Nat.le_of_lt more
  · rw [spliced.fields]
    rfl
  · rw [spliced.fields]
    rfl
  · rw [spliced.fields]
    rfl
  · rw [spliced.fields]
    rfl
  · intro index beyond
    rw [spliced.total] at beyond
    rw [spliced.kept]
    · exact if_neg fun both => Nat.not_lt.mpr beyond both.2
    · intro isLast
      have below := inside index (List.mem_of_mem_getLast? isLast)
      omega

/-- The new blocks keep the invariant. -/
theorem valid
    (spliced : Spliced base after chain count)
    {batch : List Nat}
    {start : Nat}
    {kids : Nat → List Nat}
    {rank : Nat → Nat}
    (valid : Valid base chain start batch kids rank)
    (more : base.ui32TotalHandCount < count)
    (le : count ≤ base.ui32MaxIndexPlusOne)
    (aligned : count % handleBlockSize = 0) :
    Valid after
      (chain ++ range' base.ui32TotalHandCount
        (count - base.ui32TotalHandCount))
      start batch kids rank := by
  have occupancy := valid.occupancy
  have inside : ∀ index ∈ chain, index < base.ui32TotalHandCount :=
    fun index member => ((occupancy.mem_chain index).mp member).1
  have old : ∀ index, index < base.ui32TotalHandCount →
      index ∉ chain.getLast? → after.handles index = base.handles index := by
    intro index below notLast
    rw [spliced.kept index notLast, base.withBlocks_inside below]
  have notLast : ∀ index,
      ((base.handles index).eType ≠ handleTypeNone ∨ index ∈ batch) →
      index ∉ chain.getLast? := by
    intro index other isLast
    have member := List.mem_of_mem_getLast? isLast
    obtain ⟨_, free, notBatched⟩ := (occupancy.mem_chain index).mp member
    exact other.elim (fun alive => alive free) notBatched
  refine ⟨?_, ?_, ?_, ?_, ?_⟩
  · have max : after.ui32MaxIndexPlusOne = base.ui32MaxIndexPlusOne := by
      rw [spliced.fields]
      rfl
    refine ⟨?_, ?_, ?_, ?_⟩
    · rw [spliced.total, max]
      exact le
    · rw [spliced.total]
      exact aligned
    · rw [max]
      exact valid.sized.max_mod
    · rw [max]
      exact valid.sized.max_le
  · refine valid.free.grow inside more ?_ ?_ ?_ ?_ ?_ ?_
    · rw [spliced.fields]
      rfl
    · rw [spliced.fields]
    · rw [spliced.fields]
    · intro index member
      have inChain := (List.dropLast_sublist chain).subset member
      rw [old index (inside index inChain)]
      exact fun isLast =>
        ne_getLast_of_mem_dropLast valid.free.distinct member isLast rfl
    · intro index isLast
      rw [spliced.joined index isLast]
    · intro index beyond below
      rw [spliced.kept, base.withBlocks_new beyond below]
      intro isLast
      have member := inside index (List.mem_of_mem_getLast? isLast)
      omega
  · apply valid.links.congr
    intro index member
    rw [old index (occupancy.batchInside index member)
      (notLast index (Or.inr member))]
  · refine ⟨?_, ?_, occupancy.batchDistinct, ?_, ?_⟩
    · intro index
      rw [List.mem_append, mem_range'_1, occupancy.mem_chain,
        spliced.total, spliced.handle_eq]
      by_cases below : index < base.ui32TotalHandCount
      · rw [base.withBlocks_inside below]
        constructor
        · rintro (free | new)
          · exact ⟨by omega, free.2⟩
          · omega
        · exact fun free => Or.inl ⟨below, free.2⟩
      · constructor
        · rintro (free | new)
          · exact absurd free.1 below
          · have inNew : index < count := by omega
            refine ⟨inNew, ?_, ?_⟩
            · rw [base.withBlocks_new (Nat.not_lt.mp below) inNew]
            · exact fun member => below (occupancy.batchInside index member)
        · rintro ⟨inNew, _⟩
          exact Or.inr (by omega)
    · intro index member
      have below := occupancy.batchInside index member
      rw [spliced.total]
      omega
    · intro index member
      rw [old index (occupancy.batchInside index member)
        (notLast index (Or.inr member))]
      exact occupancy.batchFlags index member
    · intro index alive outside
      have before := (spliced.live more index).mp alive
      rw [old index before.1 (notLast index (Or.inl before.2))]
      exact occupancy.liveFlags index before outside
  · rw [spliced.slot]
    exact valid.family.congr (spliced.live more) fun index => by
      simp only [HandleBase.Used, spliced.live more]

end Spliced

namespace Valid

variable {base : HandleBase} {chain batch : List Nat} {start : Nat}
  {kids : Nat → List Nat} {rank : Nat → Nat}

/-- The array grows as it should if its free chain is not mistaken for an
empty one. -/
theorem reallocHandleArray
    (valid : Valid base chain start batch kids rank)
    (zeroEmpty : base.ZeroMeansEmpty)
    (more : base.ui32TotalHandCount < count)
    (aligned : count % handleBlockSize = 0) :
    ∃ after, base.reallocHandleArray count true = .ok after ∧
      Spliced base after chain count := by
  rw [HandleBase.reallocHandleArray_eq valid.sized more aligned]
  cases split : chain with
  | nil =>
    have first : base.ui32FirstFreeIndex = 0 := by
      rw [valid.free.first, split]
      rfl
    rw [if_pos first]
    exact ⟨_, rfl, rfl, fun _ _ => rfl, by simp⟩
  | cons head rest =>
    have first : base.ui32FirstFreeIndex = head := by
      rw [valid.free.first, split]
      rfl
    have nonzero : base.ui32FirstFreeIndex ≠ 0 := by
      intro zero
      have none := zeroEmpty zero
      rw [valid.free.count, split] at none
      exact absurd none (Nat.succ_ne_zero _)
    rw [if_neg nonzero]
    obtain ⟨lastIndex, isLast⟩ : ∃ last, chain.getLast? = some last := by
      rw [split]
      exact ⟨_, List.getLast?_eq_some_getLast (List.cons_ne_nil head rest)⟩
    have last : base.ui32LastFreeIndexPlusOne - 1 = lastIndex := by
      rw [(valid.free.last _ isLast).1]
      rfl
    rw [split] at isLast
    rw [last]
    refine ⟨_, rfl, ?_, ?_, ?_⟩
    · rw [List.headD_cons, ← first]
      rfl
    · intro index notLast
      have different : index ≠ lastIndex := by
        rintro rfl
        exact notLast isLast
      simp only [HandleBase.modify_of_ne _ different]
    · intro index member
      cases isLast.symm.trans member
      simp only [HandleBase.modify_self]

/-- What `EnsureFreeHandles` does, where growing the array is safe. -/
theorem ensureFreeHandles
    (valid : Valid base chain start batch kids rank)
    {ui32Free : Nat}
    (positive : 0 < ui32Free)
    (safe : base.ui32FreeHandCount < ui32Free → base.ZeroMeansEmpty)
    (osAllocMem : Bool) :
    (base.ensureFreeHandles ui32Free osAllocMem = .error .outOfMemory ∧
      (osAllocMem = true →
        base.ui32MaxIndexPlusOne - base.ui32TotalHandCount <
          ui32Free - base.ui32FreeHandCount)) ∨
    ∃ after index rest,
      base.ensureFreeHandles ui32Free osAllocMem = .ok after ∧
        Valid after (index :: rest) start batch kids rank ∧
        Grown base after := by
  unfold HandleBase.ensureFreeHandles
  by_cases enough : ui32Free > base.ui32FreeHandCount
  · rw [if_pos enough]
    unfold HandleBase.increaseHandleArraySize
    cases increased :
        base.increasedCount (ui32Free - base.ui32FreeHandCount) with
    | none =>
      left
      refine ⟨rfl, fun _ => ?_⟩
      simp only [increasedCount] at increased
      split_ifs at increased with limit small
      exact small
    | some count =>
      obtain ⟨more, le, aligned⟩ :=
        increasedCount_bounds valid.sized (by omega) increased
      cases osAllocMem with
      | false =>
        left
        refine ⟨?_, by simp⟩
        simp only [HandleBase.reallocHandleArray]
        rw [if_neg (by omega), if_neg (by omega),
          if_neg (by simp [valid.sized.total_mod, aligned])]
        rfl
      | true =>
        right
        obtain ⟨after, result, spliced⟩ :=
          valid.reallocHandleArray (safe enough) more aligned
        have grown := spliced.grown
          (fun index member =>
            ((valid.occupancy.mem_chain index).mp member).1) more
        have kept := spliced.valid valid more le aligned
        obtain ⟨index, rest, split⟩ : ∃ index rest,
            chain ++ range' base.ui32TotalHandCount
              (count - base.ui32TotalHandCount) = index :: rest := by
          apply List.exists_cons_of_ne_nil
          intro none
          have length := congrArg List.length none
          simp only [length_append, length_range', length_nil] at length
          omega
        rw [split] at kept
        exact ⟨after, index, rest, result, kept, grown⟩
  · rw [if_neg enough]
    right
    have counted := valid.free.count
    cases split : chain with
    | nil =>
      rw [split, length_nil] at counted
      omega
    | cons index rest =>
      rw [split] at valid
      exact ⟨base, index, rest, rfl, valid, Grown.refl base⟩

end Valid

/-! ## Taking a structure out of the chain -/

/-- The structure `index` has become a handle. -/
structure Placed
    (before after : HandleBase)
    (index pvData eType : Nat)
    (eFlag : AllocFlag) : Prop where
  others : ∀ other, other ≠ index →
    after.handles other = before.handles other
  eType : (after.handles index).eType = eType
  pvData : (after.handles index).pvData = pvData
  eFlag : (after.handles index).eFlag = eFlag
  batched : (after.handles index).batched = before.handlesBatched
  root : after.parentHandle index = 0
  hash : after.hashTab = before.hashTab
  total : after.ui32TotalHandCount = before.ui32TotalHandCount
  max : after.ui32MaxIndexPlusOne = before.ui32MaxIndexPlusOne
  batchSize : after.ui32HandBatchSize = before.ui32HandBatchSize

theorem Placed.live
    {before : HandleBase}
    {pvData : Nat}
    {eType : HandleType}
    {eFlag : AllocFlag}
    (placed : Placed before after index pvData eType.value eFlag)
    (inside : index < before.ui32TotalHandCount)
    (other : Nat) :
    after.Live other ↔ before.Live other ∨ other = index := by
  rw [HandleBase.Live, placed.total]
  by_cases same : other = index
  · subst same
    rw [placed.eType]
    exact iff_of_true ⟨inside, eType.isType⟩ (Or.inr rfl)
  · rw [placed.others other same]
    exact (or_iff_left same).symm

namespace HandleBase

theorem takeFirstFree_fields (base : HandleBase) :
    base.takeFirstFree =
      { base with
        ui32FreeHandCount := base.takeFirstFree.ui32FreeHandCount
        ui32FirstFreeIndex := base.takeFirstFree.ui32FirstFreeIndex
        ui32LastFreeIndexPlusOne :=
          base.takeFirstFree.ui32LastFreeIndexPlusOne } := by
  unfold takeFirstFree
  simp only
  split_ifs <;> rfl

section

variable (base : HandleBase) (index pvData : Nat) (eType : HandleType)

theorem initHandle_fields
    (eFlag : AllocFlag) :
    base.initHandle index pvData eType eFlag =
      { base with
        handles := (base.initHandle index pvData eType eFlag).handles
        ui32FirstBatchIndexPlusOne :=
          if base.handlesBatched then index + 1
          else base.ui32FirstBatchIndexPlusOne } := by
  unfold initHandle
  simp only
  split_ifs <;> rfl

/-- The structure that a new handle gets. -/
theorem initHandle_self
    (eFlag : AllocFlag) :
    (base.initHandle index pvData eType eFlag).handles index =
      { eType := eType.value
        pvData
        ui32NextIndexPlusOne :=
          if base.handlesBatched then base.ui32FirstBatchIndexPlusOne else 0
        batched := base.handlesBatched
        partiallyFree := false
        eFlag
        sChildren := ⟨index, index, indexToHandle index⟩
        sSiblings := rootEntry index } := by
  unfold initHandle
  simp only
  split_ifs <;> exact Function.update_self ..

end

theorem initHandle_of_ne
    (base : HandleBase)
    {other : Nat}
    (different : other ≠ index)
    (pvData : Nat)
    (eType : HandleType)
    (eFlag : AllocFlag) :
    (base.initHandle index pvData eType eFlag).handles other =
      base.handles other := by
  unfold initHandle
  simp only
  split_ifs <;> exact Function.update_of_ne different ..

end HandleBase

/-- The rest of the chain once its first structure is taken. -/
theorem FreeChain.take
    {rest : List Nat}
    (free : FreeChain base (index :: rest))
    (count : after.ui32FreeHandCount =
      base.takeFirstFree.ui32FreeHandCount)
    (first : after.ui32FirstFreeIndex =
      base.takeFirstFree.ui32FirstFreeIndex)
    (last : after.ui32LastFreeIndexPlusOne =
      base.takeFirstFree.ui32LastFreeIndexPlusOne)
    (others : ∀ other, other ≠ index →
      after.handles other = base.handles other) :
    FreeChain after rest := by
  have counted := free.count
  rw [List.length_cons] at counted
  have head : base.ui32FirstFreeIndex = index := free.first
  have outside := (nodup_cons.mp free.distinct).1
  have kept : ∀ other ∈ rest, after.handles other = base.handles other :=
    fun other member => others other fun same => outside (same ▸ member)
  refine ⟨?_, ?_, ?_, ?_, ?_, (nodup_cons.mp free.distinct).2⟩
  · rw [count, HandleBase.takeFirstFree]
    split_ifs <;> simp only [counted, Nat.add_sub_cancel]
  · rw [first, HandleBase.takeFirstFree]
    simp only [counted, Nat.add_sub_cancel, head]
    cases rest with
    | nil => rfl
    | cons second rest =>
      rw [if_neg (by simp)]
      exact (List.isChain_cons_cons.mp free.links).1
  · apply chain_congr _ (chain_tail free.links)
    intro other member
    have inRest := (List.dropLast_sublist rest).subset member
    simp only [nextFree, kept other inRest]
  · intro other isLast
    have member := List.mem_of_mem_getLast? isLast
    have lastBefore : other ∈ (index :: rest).getLast? := by
      cases rest with
      | nil => cases member
      | cons second rest =>
        rw [List.getLast?_cons_cons]
        exact isLast
    have nonempty : rest.length ≠ 0 :=
      Nat.ne_of_gt (List.length_pos_of_mem member)
    rw [last, kept other member, HandleBase.takeFirstFree]
    simp only [counted, Nat.add_sub_cancel, if_neg nonempty]
    exact free.last other lastBefore
  · rintro rfl
    rw [last, HandleBase.takeFirstFree]
    simp only [counted, length_nil, Nat.zero_add, Nat.sub_self, if_true]

section

variable (base : HandleBase) (index pvData : Nat) (eType : HandleType)

theorem HandleBase.placed_initHandle
    (eFlag : AllocFlag) :
    Placed base (base.initHandle index pvData eType eFlag) index pvData
      eType.value eFlag := by
  have fields := base.initHandle_fields index pvData eType eFlag
  refine ⟨?_, ?_, ?_, ?_, ?_, ?_, ?_, ?_, ?_, ?_⟩
  · intro other different
    exact base.initHandle_of_ne different pvData eType eFlag
  · rw [HandleBase.initHandle_self]
  · rw [HandleBase.initHandle_self]
  · rw [HandleBase.initHandle_self]
  · rw [HandleBase.initHandle_self]
  · rw [HandleBase.parentHandle, HandleBase.initHandle_self]
    rfl
  · rw [fields]
  · rw [fields]
  · rw [fields]
  · rw [fields]

theorem HandleBase.placed_takeFirstFree
    (eFlag : AllocFlag) :
    Placed base (base.takeFirstFree.initHandle index pvData eType eFlag)
      index pvData eType.value eFlag := by
  have placed := base.takeFirstFree.placed_initHandle index pvData eType eFlag
  have taken := base.takeFirstFree_fields
  refine ⟨fun other different => ?_, placed.eType, placed.pvData,
    placed.eFlag, ?_, placed.root, ?_, ?_, ?_, ?_⟩
  · rw [placed.others other different, taken]
  · rw [placed.batched, taken]
    rfl
  · rw [placed.hash, taken]
  · rw [placed.total, taken]
  · rw [placed.max, taken]
  · rw [placed.batchSize, taken]

end

/-- The batch after an allocation. -/
def HandleBase.batchWith (base : HandleBase) (batch : List Nat) (index : Nat) :
    List Nat :=
  if base.handlesBatched then index :: batch else batch

theorem HandleBase.mem_batchWith
    {index other : Nat} :
    other ∈ base.batchWith batch index ↔
      other ∈ batch ∨ (base.handlesBatched = true ∧ other = index) := by
  unfold HandleBase.batchWith
  split_ifs with isBatched
  · rw [mem_cons, or_comm]
    simp only [isBatched, true_and]
  · simp only [isBatched, Bool.false_eq_true, false_and, or_false]

/-- A new structure is put in front of the batch that is open. -/
theorem BatchFrom.place
    (links : BatchFrom base base.ui32FirstBatchIndexPlusOne batch)
    (outside : index ∉ batch)
    (pvData : Nat)
    (eType : HandleType)
    (eFlag : AllocFlag) :
    let after := base.initHandle index pvData eType eFlag
    BatchFrom after after.ui32FirstBatchIndexPlusOne
      (base.batchWith batch index) := by
  intro after
  have self := base.initHandle_self index pvData eType eFlag
  have kept : BatchFrom after base.ui32FirstBatchIndexPlusOne batch := by
    apply links.congr
    intro other member
    have different : other ≠ index := fun same => outside (same ▸ member)
    rw [base.initHandle_of_ne different]
  have start : after.ui32FirstBatchIndexPlusOne =
      if base.handlesBatched then index + 1
      else base.ui32FirstBatchIndexPlusOne :=
    congrArg HandleBase.ui32FirstBatchIndexPlusOne
      (base.initHandle_fields index pvData eType eFlag)
  rw [start, HandleBase.batchWith]
  split_ifs with isBatched
  · refine ⟨rfl, ?_⟩
    rw [show after.handles index = _ from self]
    simp only [isBatched, if_true]
    exact kept
  · exact kept

/-- A structure that was not in use becomes a handle without parent and
children. -/
theorem Family.place
    {kids : Nat → List Nat}
    {rank : Nat → Nat}
    (family : Family base.slot base.Live (base.Used batch) kids rank)
    (sized : Sized base)
    (inside : index < base.ui32TotalHandCount)
    (unused : ¬ base.Used batch index)
    (pvData : Nat)
    (eType : HandleType)
    (eFlag : AllocFlag) :
    let after := base.initHandle index pvData eType eFlag
    Family after.slot after.Live (after.Used (base.batchWith batch index))
      kids rank := by
  intro after
  have self := base.initHandle_self index pvData eType eFlag
  have placed := base.placed_initHandle index pvData eType eFlag
  have live := placed.live inside
  apply family.create unused _ _ _ _ live
  · intro other
    have aliveAfter : after.Live other ↔ base.Live other ∨ other = index :=
      live other
    rw [HandleBase.Used, HandleBase.Used, aliveAfter, HandleBase.mem_batchWith]
    tauto
  · have le := sized.total_le
    have max_le := sized.max_le
    simp only [defaultMaxHandle] at max_le
    omega
  · exact congrArg Handle.sChildren self
  · exact congrArg Handle.sSiblings self
  · intro field notChildren notSiblings
    cases field with
    | children other =>
      have different : other ≠ index := fun same =>
        notChildren (congrArg Slot.children same)
      exact congrArg Handle.sChildren (placed.others other different)
    | siblings other =>
      have different : other ≠ index := fun same =>
        notSiblings (congrArg Slot.siblings same)
      exact congrArg Handle.sSiblings (placed.others other different)

namespace Valid

variable {base : HandleBase} {chain batch : List Nat}
  {kids : Nat → List Nat} {rank : Nat → Nat}

/-- The first free structure becomes a handle without parent and children. -/
theorem place
    (valid : Valid base (index :: chain) base.ui32FirstBatchIndexPlusOne
      batch kids rank)
    (pvData : Nat)
    (eType : HandleType)
    (eFlag : AllocFlag) :
    let after := base.takeFirstFree.initHandle index pvData eType eFlag
    Valid after chain after.ui32FirstBatchIndexPlusOne
      (base.batchWith batch index) kids rank := by
  intro after
  have placed := base.placed_takeFirstFree index pvData eType eFlag
  have taken := base.takeFirstFree_fields
  have fields := base.takeFirstFree.initHandle_fields index pvData eType eFlag
  have self := base.takeFirstFree.initHandle_self index pvData eType eFlag
  have batched : base.takeFirstFree.handlesBatched = base.handlesBatched := by
    rw [taken]
    rfl
  have sameBatch : base.takeFirstFree.batchWith batch index =
      base.batchWith batch index := by
    rw [HandleBase.batchWith, batched]
    rfl
  have occupancy := valid.occupancy
  obtain ⟨inside, free, notBatched⟩ :=
    (occupancy.mem_chain index).mp List.mem_cons_self
  have notLive : ¬ base.Live index := fun alive => alive.2 free
  have outside := (nodup_cons.mp valid.free.distinct).1
  have live := placed.live inside
  have apart : ∀ other ∈ batch, other ≠ index := fun other member same =>
    notBatched (same ▸ member)
  refine ⟨?_, ?_, ?_, ?_, ?_⟩
  · exact valid.sized.congr placed.total placed.max
  · exact valid.free.take
      ((congrArg HandleBase.ui32FreeHandCount fields).trans rfl)
      ((congrArg HandleBase.ui32FirstFreeIndex fields).trans rfl)
      ((congrArg HandleBase.ui32LastFreeIndexPlusOne fields).trans rfl)
      placed.others
  · have links : BatchFrom base.takeFirstFree
        base.takeFirstFree.ui32FirstBatchIndexPlusOne batch := by
      rw [taken]
      exact valid.links.congr fun _ _ => rfl
    rw [← sameBatch]
    exact links.place notBatched pvData eType eFlag
  · refine ⟨?_, ?_, ?_, ?_, ?_⟩
    · intro other
      rw [placed.total, HandleBase.mem_batchWith]
      by_cases same : other = index
      · subst same
        rw [placed.eType]
        exact iff_of_false outside fun both => eType.isType both.2.1
      · rw [placed.others other same]
        have member := occupancy.mem_chain other
        rw [mem_cons, or_iff_right same] at member
        simp only [same, and_false, or_false]
        exact member
    · intro other member
      rw [placed.total]
      rcases HandleBase.mem_batchWith.mp member with inBatch | ⟨_, rfl⟩
      · exact occupancy.batchInside other inBatch
      · exact inside
    · unfold HandleBase.batchWith
      split_ifs
      · exact nodup_cons.mpr ⟨notBatched, occupancy.batchDistinct⟩
      · exact occupancy.batchDistinct
    · intro other member
      rcases HandleBase.mem_batchWith.mp member with inBatch | ⟨isBatched, rfl⟩
      · rw [placed.others other (apart other inBatch)]
        exact occupancy.batchFlags other inBatch
      · rw [self, batched]
        exact ⟨isBatched, iff_of_false (by simp) eType.isType⟩
    · intro other alive notMember
      rw [HandleBase.mem_batchWith, not_or, not_and] at notMember
      by_cases same : other = index
      · subst same
        have notIsBatched : base.handlesBatched = false := by
          rw [← Bool.not_eq_true]
          exact fun isBatched => notMember.2 isBatched rfl
        rw [self, batched, notIsBatched]
        exact ⟨rfl, rfl, rfl⟩
      · rw [placed.others other same]
        exact occupancy.liveFlags other
          (((live other).mp alive).resolve_right same) notMember.1
  · have unused : ¬ base.Used batch index := by
      rintro (alive | member)
      · exact notLive alive
      · exact notBatched member
    have family : Family base.takeFirstFree.slot base.takeFirstFree.Live
        (base.takeFirstFree.Used batch) kids rank := by
      rw [taken]
      exact valid.family
    have sized : Sized base.takeFirstFree := by
      apply valid.sized.congr <;> rw [taken]
    have unusedTaken : ¬ base.takeFirstFree.Used batch index := by
      rw [taken]
      exact unused
    have insideTaken : index < base.takeFirstFree.ui32TotalHandCount := by
      rw [taken]
      exact inside
    rw [← sameBatch]
    exact family.place sized insideTaken unusedTaken pvData eType eFlag

/-- A new handle that is a root goes to the end of its parent's ring. -/
theorem adoptChild
    {start parent child : Nat}
    (valid : Valid base chain start batch kids rank)
    (parentLive : base.Live parent)
    (childLive : base.Live child)
    (isRoot : base.parentHandle child = 0)
    (childless : kids child = [])
    (different : child ≠ parent) :
    Valid (base.adoptChild parent child) chain start batch
      (Function.update kids parent (kids parent ++ [child]))
      (Function.update rank child (rank parent + 1)) :=
  valid.sameData (SameData.adoptChild base parent child)
    (valid.family.adopt parentLive childLive isRoot childless different)

end Valid

/-- The hash table after an allocation. -/
def HandleBase.hashWith
    (base : HandleBase) (multi : Bool) (key : HandKey) (hHandle : Nat) :
    HandKey → Option Nat :=
  if multi then base.hashTab
  else Function.update base.hashTab key (some hHandle)

/-- The outcome of `AllocHandle` where it fails. -/
structure AllocFails
    (base after : HandleBase) (eFlag : AllocFlag) (outcome : AllocOutcome)
    (error : HandleError) : Prop where
  grown : Grown base after
  reason : (error = .outOfMemory ∧
      (outcome.osAllocMem = true → base.ui32FreeHandCount = 0 ∧
        base.ui32MaxIndexPlusOne ≤ base.ui32TotalHandCount)) ∨
    (error = .unableToAddHandle ∧ eFlag.multi = false ∧
      outcome.hashInsert = false)

/-- The outcome of `AllocHandle` where it gives out the structure `index`, with
the base `grown` in between. -/
structure Allocates
    (base grown after : HandleBase)
    (index pvData : Nat) (eType : HandleType) (eFlag : AllocFlag)
    (hParent : Nat) : Prop where
  grow : Grown base grown
  inside : index < grown.ui32TotalHandCount
  unused : ¬ base.Live index
  placed : Placed
    { grown with
      hashTab := grown.hashWith eFlag.multi
        { data := pvData, type := eType.value, parent := hParent }
        (indexToHandle index) }
    after index pvData eType.value eFlag

namespace Valid

variable {base : HandleBase} {chain batch : List Nat}
  {kids : Nat → List Nat} {rank : Nat → Nat}

/-- `AllocHandle` fails and keeps the handles, or makes a free structure a
handle. -/
theorem allocHandle
    (valid : Valid base chain base.ui32FirstBatchIndexPlusOne batch kids
      rank)
    (pvData : Nat)
    (eType : HandleType)
    (eFlag : AllocFlag)
    (hParent : Nat)
    (outcome : AllocOutcome) :
    (∃ after otherChain error,
      base.allocHandle pvData eType eFlag hParent outcome =
          (after, .error error) ∧
        Valid after otherChain after.ui32FirstBatchIndexPlusOne batch kids
          rank ∧
        AllocFails base after eFlag outcome error) ∨
    ∃ grown after otherChain index,
      base.allocHandle pvData eType eFlag hParent outcome =
          (after, .ok (indexToHandle index)) ∧
        Valid after otherChain after.ui32FirstBatchIndexPlusOne
          (base.batchWith batch index) kids rank ∧
        index ∉ batch ∧
        kids index = [] ∧
        Allocates base grown after index pvData eType eFlag hParent := by
  have safe : base.ui32FreeHandCount < 1 → base.ZeroMeansEmpty :=
    fun none _ => by omega
  unfold HandleBase.allocHandle
  rcases valid.ensureFreeHandles Nat.one_pos safe outcome.osAllocMem with
    ⟨result, reason⟩ | ⟨grown, index, rest, result, grownValid, grow⟩
  · left
    refine ⟨base, chain, .outOfMemory, ?_, valid, Grown.refl base, ?_⟩
    · rw [result]
    · left
      refine ⟨rfl, fun succeeds => ?_⟩
      have full := reason succeeds
      omega
  · rw [result]
    simp only
    obtain rfl : grown.ui32FirstFreeIndex = index := grownValid.free.first
    rw [← grow.firstBatch] at grownValid
    by_cases fails : (!eFlag.multi && !outcome.hashInsert) = true
    · left
      rw [if_pos fails]
      simp only [Bool.and_eq_true, Bool.not_eq_true'] at fails
      exact ⟨grown, _, _, rfl, grownValid, grow, Or.inr ⟨rfl, fails⟩⟩
    · right
      rw [if_neg fails]
      obtain ⟨inside, free, notBatched⟩ :=
        (grownValid.occupancy.mem_chain _).mp List.mem_cons_self
      have unused : ¬ base.Live grown.ui32FirstFreeIndex := fun alive =>
        ((grow.live _).mpr alive).2 free
      have childless : kids grown.ui32FirstFreeIndex = [] := by
        apply List.eq_nil_iff_forall_not_mem.mpr
        intro child member
        exact unused (valid.family.parentLive _ child member)
      have hashed : (if eFlag.multi then grown
          else { grown with
            hashTab := Function.update grown.hashTab
              { data := pvData, type := eType.value, parent := hParent }
              (some (indexToHandle grown.ui32FirstFreeIndex)) }) =
          { grown with
            hashTab := grown.hashWith eFlag.multi
              { data := pvData, type := eType.value, parent := hParent }
              (indexToHandle grown.ui32FirstFreeIndex) } := by
        unfold HandleBase.hashWith
        split_ifs <;> rfl
      rw [hashed]
      have kept := (grownValid.withHash (grown.hashWith eFlag.multi
        { data := pvData, type := eType.value, parent := hParent }
        (indexToHandle grown.ui32FirstFreeIndex))).place pvData eType eFlag
      have sameBatch : base.batchWith batch grown.ui32FirstFreeIndex =
          grown.batchWith batch grown.ui32FirstFreeIndex := by
        unfold HandleBase.batchWith HandleBase.handlesBatched
        rw [grow.batchSize]
      refine ⟨grown, _, rest, _, rfl, ?_, notBatched, childless, grow,
        inside, unused, HandleBase.placed_takeFirstFree ..⟩
      rw [sameBatch]
      exact kept

end Valid

end PvrServices.Handles
