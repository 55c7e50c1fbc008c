import PvrServices.Handles.PurgingInvariant

/-!
# Allocating with purging

New blocks are counted as free.  An allocation searches the blocks from the
first free index on, which must be an index of the array, and counts the
structure it finds as used.
-/

namespace PvrServices.Handles

open HandleBase

/-! ## Growing the array -/

namespace PurgingBase

/-- The base with new blocks. -/
def withBlocks (purging : PurgingBase) (count : Nat) : PurgingBase where
  base :=
    { purging.base.withBlocks count with
      ui32FirstFreeIndex :=
        if purging.base.ui32FirstFreeIndex = 0 then
          purging.base.ui32TotalHandCount
        else purging.base.ui32FirstFreeIndex }
  ui32FreeHandBlockCount := fun block =>
    if indexToBlockIndex purging.base.ui32TotalHandCount ≤ block ∧
        block < indexToBlockIndex count then handleBlockSize
    else purging.ui32FreeHandBlockCount block

variable {count : Nat}

theorem reallocHandleArray_grow
    {purging : PurgingBase}
    (sized : Sized purging.base)
    (more : purging.base.ui32TotalHandCount < count)
    (aligned : count % handleBlockSize = 0) :
    purging.reallocHandleArray count true = .ok (purging.withBlocks count) := by
  unfold reallocHandleArray
  simp only
  rw [if_neg (by omega), if_neg (by simp [sized.total_mod, aligned]),
    if_neg (by simp), if_pos more]
  rfl

theorem grown_withBlocks
    (purging : PurgingBase)
    (more : purging.base.ui32TotalHandCount < count) :
    Grown purging.base (purging.withBlocks count).base := by
  have live := purging.base.withBlocks_live more
  refine ⟨live, ?_, ?_, ?_, ?_, purging.base.withBlocks_slot count, rfl,
    Nat.le_of_lt more, rfl, rfl, rfl, rfl, ?_⟩
  · intro index alive
    have inside := ((live index).mp alive).1
    exact congrArg Handle.eType (purging.base.withBlocks_inside inside)
  · intro index alive
    have inside := ((live index).mp alive).1
    exact congrArg Handle.batched (purging.base.withBlocks_inside inside)
  · intro index
    simp only [withBlocks, HandleBase.withBlocks]
    split_ifs <;> rfl
  · intro index
    simp only [withBlocks, HandleBase.withBlocks]
    split_ifs <;> rfl
  · intro index beyond
    exact if_neg fun both => Nat.not_lt.mpr beyond both.2

end PurgingBase

/-- A base with enough free structures. -/
structure Ensured (before after : PurgingBase) : Prop where
  grown : Grown before.base after.base
  old : ∀ index, index < before.base.ui32TotalHandCount →
    after.base.handles index = before.base.handles index
  some_free : 0 < after.base.ui32FreeHandCount

namespace PurgingValid

variable {purging : PurgingBase} {start : Nat} {batch : List Nat}
  {kids : Nat → List Nat} {rank : Nat → Nat}

/-- The new blocks keep the invariant. -/
theorem withBlocks
    (valid : PurgingValid purging start batch kids rank)
    {count : Nat}
    (more : purging.base.ui32TotalHandCount < count)
    (le : count ≤ purging.base.ui32MaxIndexPlusOne)
    (aligned : count % handleBlockSize = 0) :
    PurgingValid (purging.withBlocks count) start batch kids rank := by
  have flagged := valid.flagged
  have live := purging.base.withBlocks_live more
  have old : ∀ index, index < purging.base.ui32TotalHandCount →
      (purging.withBlocks count).base.handles index =
        purging.base.handles index :=
    fun index inside => purging.base.withBlocks_inside inside
  have new : ∀ index, purging.base.ui32TotalHandCount ≤ index →
      index < count →
        ((purging.withBlocks count).base.handles index).isFree = true := by
    intro index beyond inside
    change ((purging.base.withBlocks count).handles index).isFree = true
    rw [purging.base.withBlocks_new beyond inside]
    exact isFree_iff.mpr ⟨rfl, rfl, rfl⟩
  refine ⟨⟨le, aligned, valid.sized.max_mod, valid.sized.max_le⟩, ?_, ?_, ?_,
    ?_, ?_⟩
  · exact valid.counted.grow valid.sized.total_mod aligned more
      (fun index inside => by rw [old index inside]) new (fun _ => rfl) rfl
  · refine ⟨?_, fun nonzero index beyond inside => ?_⟩
    · change (if _ then _ else _) % _ = 0
      split_ifs
      · exact valid.sized.total_mod
      · exact valid.first.aligned
    · change (if _ then _ else _) ≤ index at beyond
      by_cases isOld : index < purging.base.ui32TotalHandCount
      · rw [old index isOld]
        split_ifs at beyond with zero
        · omega
        · exact valid.first.behind zero index beyond isOld
      · exact new index (Nat.not_lt.mp isOld) inside
  · apply valid.links.congr
    intro index member
    rw [old index (flagged.inside index member)]
  · refine ⟨fun index member => (flagged.inside index member).trans more,
      flagged.distinct, fun index member => ?_,
      fun index inside outside => ?_⟩
    · rw [old index (flagged.inside index member)]
      exact flagged.own index member
    · by_cases isOld : index < purging.base.ui32TotalHandCount
      · rw [old index isOld]
        exact flagged.others index isOld outside
      · exact (isFree_iff.mp (new index (Nat.not_lt.mp isOld) inside)).2
  · change Family (purging.base.withBlocks count).slot _ _ kids rank
    rw [purging.base.withBlocks_slot]
    exact valid.family.congr live fun index => or_congr_left (live index)

/-- `EnsureFreeHandles` fails, or leaves enough free structures.  The search
starts inside the array then, if it did before or starts where the array
grows. -/
theorem ensureFreeHandles
    (valid : PurgingValid purging start batch kids rank)
    {ui32Free : Nat}
    (positive : 0 < ui32Free)
    (osAllocMem : Bool) :
    (purging.ensureFreeHandles ui32Free osAllocMem = .error .outOfMemory ∧
      purging.base.ui32FreeHandCount < ui32Free ∧
      (osAllocMem = true →
        purging.base.ui32MaxIndexPlusOne - purging.base.ui32TotalHandCount <
          ui32Free - purging.base.ui32FreeHandCount)) ∨
    ∃ after, purging.ensureFreeHandles ui32Free osAllocMem = .ok after ∧
      PurgingValid after start batch kids rank ∧ Ensured purging after ∧
      (purging.base.ui32FreeHandCount < ui32Free → osAllocMem = true) ∧
      (purging.base.SearchInside → after.base.ui32FirstFreeIndex <
        after.base.ui32TotalHandCount) := by
  unfold PurgingBase.ensureFreeHandles PurgingBase.increaseHandleArraySize
  by_cases short : ui32Free > purging.base.ui32FreeHandCount
  · rw [if_pos short]
    cases increased : purging.base.increasedCount
        (ui32Free - purging.base.ui32FreeHandCount) with
    | none =>
      refine Or.inl ⟨rfl, short, fun _ => ?_⟩
      simp only [HandleBase.increasedCount] at increased
      split_ifs at increased with limit small
      exact small
    | some count =>
      obtain ⟨more, le, aligned⟩ :=
        increasedCount_bounds valid.sized (by omega) increased
      cases osAllocMem with
      | false =>
        left
        refine ⟨?_, short, fun succeeds => by cases succeeds⟩
        simp only [PurgingBase.reallocHandleArray]
        rw [if_neg (by omega),
          if_neg (by simp [valid.sized.total_mod, aligned]), if_pos]
        simp only [Bool.not_false, Bool.and_true, decide_eq_true_eq]
        omega
      | true =>
        right
        refine ⟨_, PurgingBase.reallocHandleArray_grow valid.sized more
          aligned, valid.withBlocks more le aligned,
          ⟨purging.grown_withBlocks more, ?_, ?_⟩, fun _ => rfl,
          fun search => ?_⟩
        · exact fun index inside => purging.base.withBlocks_inside inside
        · change 0 < _ + (_ - _)
          omega
        · change (if _ then _ else _) < count
          rcases search with inside | ⟨atEnd, _⟩
          · split_ifs <;> omega
          · split_ifs <;> omega
  · rw [if_neg short]
    right
    refine ⟨purging, rfl, valid, ⟨Grown.refl _, fun _ _ => rfl, by omega⟩,
      fun isShort => absurd isShort short, fun search => ?_⟩
    rcases search with inside | ⟨_, none⟩
    · exact inside
    · omega

end PurgingValid

/-! ## Taking a structure -/

/-- What the invariant does not say of a batch: the children of its handles are
of the batch as well, and come before them in it. -/
structure BatchOrder (base : HandleBase) (batch : List Nat) : Prop where
  own : ∀ child parent, base.Live child →
    base.parentHandle child = indexToHandle parent →
      parent ∈ batch → child ∈ batch
  order : batch.Pairwise fun newer older => base.Live older →
    base.parentHandle older ≠ indexToHandle newer

namespace BatchOrder

variable {base after : HandleBase} {batch : List Nat}

section

variable (ordered : BatchOrder base batch)
include ordered

theorem fewer
    (live : ∀ index, after.Live index → base.Live index)
    (parent : ∀ index, after.Live index →
      after.parentHandle index = base.parentHandle index) :
    BatchOrder after batch where
  own := by
    intro child other alive field
    rw [parent child alive] at field
    exact ordered.own child other (live child alive) field
  order := by
    refine ordered.order.imp fun apart alive => ?_
    rw [parent _ alive]
    exact apart (live _ alive)

theorem sameForest
    (same : SameForest base after) :
    BatchOrder after batch :=
  ordered.fewer (fun index alive => (same.live index).mp alive)
    fun index alive => (same.kept index ((same.live index).mp alive)).parent

/-- A new handle comes before those that may be its ancestors. -/
theorem create
    {rank : Nat → Nat}
    (ranked : base.Ranked rank)
    (unbatched : base.handlesBatched = false → batch = [])
    {index pvData parentHandle : Nat}
    {eType : HandleType}
    {eFlag : AllocFlag}
    {key : HandKey}
    (outside : index ∉ batch)
    (created : Created base after index pvData eType eFlag parentHandle
      key) :
    BatchOrder after (base.batchWith batch index) := by
  have notParent : ∀ other, base.Live other →
      base.parentHandle other ≠ indexToHandle index := fun other alive field =>
    created.unused (ranked other index alive field).1
  refine ⟨fun child parent alive field member => ?_, ?_⟩
  · rw [mem_batchWith] at member ⊢
    rcases (created.live child).mp alive with before | rfl
    · rw [(created.kept child before).parent] at field
      rcases member with inBatch | ⟨_, rfl⟩
      · exact Or.inl (ordered.own child parent before field inBatch)
      · exact absurd field (notParent child before)
    · right
      refine ⟨?_, rfl⟩
      rcases member with inBatch | ⟨isBatched, _⟩
      · rw [← Bool.not_eq_false]
        intro notBatched
        rw [unbatched notBatched] at inBatch
        cases inBatch
      · exact isBatched
  · have older : ∀ other ∈ batch, after.Live other → base.Live other ∧
        after.parentHandle other = base.parentHandle other := by
      intro other member alive
      have before := ((created.live other).mp alive).resolve_right
        fun same => outside (same ▸ member)
      exact ⟨before, (created.kept other before).parent⟩
    have rest : batch.Pairwise fun newer older => after.Live older →
        after.parentHandle older ≠ indexToHandle newer := by
      refine ordered.order.imp_of_mem fun _ member apart alive => ?_
      obtain ⟨before, parent⟩ := older _ member alive
      rw [parent]
      exact apart before
    unfold batchWith
    split_ifs
    · refine List.pairwise_cons.mpr ⟨fun other member alive => ?_, rest⟩
      obtain ⟨before, parent⟩ := older other member alive
      rw [parent]
      exact notParent other before
    · exact rest

end

end BatchOrder

namespace PurgingBase

theorem placeHandle_base
    (purging : PurgingBase)
    (index pvData : Nat)
    (eType : HandleType)
    (eFlag : AllocFlag) :
    (purging.placeHandle index index pvData eType eFlag).base =
      ({ purging.base with
        ui32FreeHandCount := oneLess purging.base.ui32FreeHandCount } :
        HandleBase).initHandle index pvData eType eFlag := by
  unfold placeHandle
  simp only
  rw [initHandle_fields]

/-- A base whose next search starts at 0, with a new hash table. -/
def searched (purging : PurgingBase) (hashTab : HandKey → Option Nat) :
    PurgingBase :=
  { purging with
    base := { purging.base with ui32FirstFreeIndex := 0, hashTab } }

end PurgingBase

namespace PurgingValid

variable {purging : PurgingBase} {batch : List Nat}
  {kids : Nat → List Nat} {rank : Nat → Nat}

theorem searched
    {start : Nat}
    (valid : PurgingValid purging start batch kids rank)
    (hashTab : HandKey → Option Nat) :
    PurgingValid (purging.searched hashTab) start batch kids rank where
  sized := valid.sized.congr rfl rfl
  counted := valid.counted.congr rfl rfl rfl rfl
  first := ⟨rfl, fun nonzero => absurd rfl nonzero⟩
  links := valid.links.congr fun _ _ => rfl
  flagged := valid.flagged.congr rfl (fun _ => rfl) (fun _ => rfl) fun _ => rfl
  family := valid.family

/-- A free structure becomes a handle without parent and children. -/
theorem place
    (valid : PurgingValid purging purging.base.ui32FirstBatchIndexPlusOne
      batch kids rank)
    (first : purging.base.ui32FirstFreeIndex = 0)
    {index : Nat}
    (free : index ∈ purging.freeHandles)
    (pvData : Nat)
    (eType : HandleType)
    (eFlag : AllocFlag) :
    let after := purging.placeHandle index index pvData eType eFlag
    PurgingValid after after.base.ui32FirstBatchIndexPlusOne
        (purging.base.batchWith batch index) kids rank ∧
      Placed purging.base after.base index pvData eType.value eFlag := by
  intro after
  have flagged := valid.flagged
  obtain ⟨inside, dead, outside⟩ := flagged.mem_freeHandles.mp free
  let counted : HandleBase :=
    { purging.base with
      ui32FreeHandCount := oneLess purging.base.ui32FreeHandCount }
  have result : after.base = counted.initHandle index pvData eType eFlag :=
    purging.placeHandle_base index pvData eType eFlag
  have placedCounted := counted.placed_initHandle index pvData eType eFlag
  have placed : Placed purging.base after.base index pvData eType.value
      eFlag := by
    rw [result]
    exact ⟨placedCounted.others, placedCounted.eType, placedCounted.pvData,
      placedCounted.eFlag, placedCounted.batched, placedCounted.root,
      placedCounted.hash, placedCounted.total, placedCounted.max,
      placedCounted.batchSize⟩
  have self := counted.initHandle_self index pvData eType eFlag
  rw [← result] at self
  have unused : ¬ purging.base.Used batch index := by
    rintro (alive | member)
    · exact alive.2 dead
    · exact outside member
  have flaggedAfter : Flagged after.base
      (purging.base.batchWith batch index) := by
    refine ⟨fun other member => ?_, ?_, fun other member => ?_,
      fun other below notMember => ?_⟩
    · rw [placed.total]
      rcases mem_batchWith.mp member with inBatch | ⟨_, rfl⟩
      · exact flagged.inside other inBatch
      · exact inside
    · unfold batchWith
      split_ifs
      · exact List.nodup_cons.mpr ⟨outside, flagged.distinct⟩
      · exact flagged.distinct
    · rcases mem_batchWith.mp member with inBatch | ⟨isBatched, rfl⟩
      · rw [placed.others other fun same => outside (same ▸ inBatch)]
        exact flagged.own other inBatch
      · rw [self]
        exact ⟨isBatched, iff_of_false (by simp) eType.isType⟩
    · rw [mem_batchWith, not_or, not_and] at notMember
      rw [placed.total] at below
      by_cases same : other = index
      · subst same
        rw [self]
        refine ⟨?_, rfl⟩
        rw [← Bool.not_eq_true]
        exact fun isBatched => notMember.2 isBatched rfl
      · rw [placed.others other same]
        exact flagged.others other below notMember.1
  refine ⟨⟨valid.sized.congr placed.total placed.max, ?_, ?_, ?_,
    flaggedAfter, ?_⟩, placed⟩
  · refine valid.counted.erase free ?_ placed.total rfl ?_
    · ext other
      rw [Finset.mem_erase, flaggedAfter.mem_freeHandles,
        flagged.mem_freeHandles, placed.total, mem_batchWith]
      by_cases same : other = index
      · subst same
        rw [placed.eType]
        exact iff_of_false (fun both => eType.isType both.2.1)
          fun both => both.1 rfl
      · rw [placed.others other same]
        simp only [same, and_false, or_false, ne_eq, not_false_eq_true,
          true_and]
    · rw [result, initHandle_fields]
  · have zero : after.base.ui32FirstFreeIndex = 0 := by
      rw [result, initHandle_fields]
      exact first
    exact ⟨by rw [zero, Nat.zero_mod], fun nonzero => absurd zero nonzero⟩
  · have links : BatchFrom counted counted.ui32FirstBatchIndexPlusOne
        batch := valid.links.congr fun _ _ => rfl
    rw [result]
    exact links.place outside pvData eType eFlag
  · have family : Family counted.slot counted.Live (counted.Used batch)
        kids rank := valid.family
    have sized : Sized counted := valid.sized.congr rfl rfl
    rw [result]
    exact family.place sized inside unused pvData eType eFlag

end PurgingValid

/-! ## `AllocHandle` -/

/-- The allocators give a new handle what it needs. -/
def AllocOutcome.Suffices
    (outcome : AllocOutcome) (base : HandleBase) (multi : Bool) : Prop :=
  (base.ui32FreeHandCount = 0 → outcome.osAllocMem = true) ∧
    (multi = true ∨ outcome.hashInsert = true)

/-- The handle is that of a structure which was free, or is in a new block. -/
def TakesFree (before after : PurgingBase) (hHandle : Nat) : Prop :=
  ∃ index, hHandle = indexToHandle index ∧
    index < after.base.ui32TotalHandCount ∧
    (index < before.base.ui32TotalHandCount →
      (before.base.handles index).isFree = true)

variable {purging after : PurgingBase} {batch : List Nat}
  {kids : Nat → List Nat} {rank : Nat → Nat}

/-- The base is full when no structure is free and the array cannot grow. -/
theorem PurgingValid.full
    {start : Nat}
    (valid : PurgingValid purging start batch kids rank)
    (unbatched : purging.base.handlesBatched = false → batch = [])
    (none : purging.base.ui32FreeHandCount = 0)
    (limit : purging.base.ui32MaxIndexPlusOne ≤
      purging.base.ui32TotalHandCount) :
    purging.base.Full := by
  intro notBatched index below
  have inside := Nat.lt_of_lt_of_le below limit
  refine ⟨inside, fun dead => ?_⟩
  have free : index ∈ purging.freeHandles := by
    rw [valid.flagged.mem_freeHandles, unbatched notBatched]
    exact ⟨inside, dead, List.not_mem_nil⟩
  rw [valid.counted.total, Finset.card_eq_zero] at none
  rw [none] at free
  exact absurd free (Finset.notMem_empty index)

/-- `AllocHandle` fails and keeps the handles, or makes a free structure a
handle. -/
theorem PurgingValid.allocHandle
    (valid : PurgingValid purging purging.base.ui32FirstBatchIndexPlusOne
      batch kids rank)
    (unbatched : purging.base.handlesBatched = false → batch = [])
    (pvData : Nat)
    (eType : HandleType)
    (eFlag : AllocFlag)
    (hParent : Nat)
    (outcome : AllocOutcome)
    (search : outcome.Suffices purging.base eFlag.multi →
      purging.base.SearchInside) :
    (∃ after error,
      purging.allocHandle pvData eType eFlag hParent outcome =
          some (after, .error error) ∧
        PurgingValid after after.base.ui32FirstBatchIndexPlusOne batch kids
          rank ∧
        SameForest purging.base after.base ∧
        AllocFailure purging.base eFlag outcome error) ∨
    ∃ after index,
      purging.allocHandle pvData eType eFlag hParent outcome =
          some (after, .ok (indexToHandle index)) ∧
        PurgingValid after after.base.ui32FirstBatchIndexPlusOne
          (purging.base.batchWith batch index) kids rank ∧
        index ∉ batch ∧
        kids index = [] ∧
        TakesFree purging after (indexToHandle index) ∧
        Created purging.base after.base index pvData eType eFlag 0
          { data := pvData, type := eType.value, parent := hParent } := by
  unfold PurgingBase.allocHandle
  rcases valid.ensureFreeHandles Nat.one_pos outcome.osAllocMem with
    ⟨result, short, stuck⟩ |
    ⟨grown, result, grownValid, ensured, memory, inside⟩
  · left
    refine ⟨purging, .outOfMemory, ?_, valid, SameForest.refl _,
      Or.inl ⟨rfl, fun succeeds => ?_⟩⟩
    · rw [result]
    · have none : purging.base.ui32FreeHandCount = 0 := by omega
      have atLimit := stuck succeeds
      exact valid.full unbatched none (by omega)
  · have grow := ensured.grown
    rw [← grow.firstBatch] at grownValid
    rw [result]
    simp only
    by_cases fails : (!eFlag.multi && !outcome.hashInsert) = true
    · left
      rw [if_pos fails]
      refine ⟨grown.searched grown.base.hashTab, _, rfl,
        grownValid.searched _, grow.sameForest.trans ⟨.of_handles rfl rfl rfl,
          rfl, rfl⟩,
        Or.inr ⟨rfl, ?_⟩⟩
      simpa [Bool.and_eq_true] using fails
    · right
      have enough : outcome.Suffices purging.base eFlag.multi := by
        refine ⟨fun none => memory (by omega), ?_⟩
        simp only [Bool.and_eq_true, Bool.not_eq_true', not_and_or,
          Bool.not_eq_false] at fails
        exact fails
      obtain ⟨index, found, free⟩ :=
        PurgingBase.scan_spec grownValid.counted grownValid.first
          grownValid.sized.total_mod (inside (search enough))
          ensured.some_free
      simp only [found]
      rw [if_neg fails]
      obtain ⟨below, dead, outside⟩ :=
        grownValid.flagged.mem_freeHandles.mp free
      have unused : ¬ purging.base.Live index := fun alive =>
        ((grow.live index).mpr alive).2 dead
      have childless : kids index = [] := by
        apply List.eq_nil_iff_forall_not_mem.mpr
        intro child member
        exact unused (valid.family.parentLive index child member)
      have sameBatch : grown.base.batchWith batch index =
          purging.base.batchWith batch index := by
        unfold batchWith handlesBatched
        rw [grow.batchSize]
      let hashTab := grown.base.hashWith eFlag.multi
        { data := pvData, type := eType.value, parent := hParent }
        (indexToHandle index)
      have hashed : (if eFlag.multi then
            { grown.base with ui32FirstFreeIndex := 0 }
          else
            { grown.base with
              ui32FirstFreeIndex := 0
              hashTab := Function.update grown.base.hashTab
                { data := pvData, type := eType.value, parent := hParent }
                (some (indexToHandle index)) }) =
          (grown.searched hashTab).base := by
        simp only [PurgingBase.searched, hashTab, hashWith]
        split_ifs <;> rfl
      obtain ⟨kept, placed⟩ :=
        (grownValid.searched hashTab).place rfl free pvData eType eFlag
      have allocates : Allocates purging.base grown.base
          ((grown.searched hashTab).placeHandle index index pvData eType
            eFlag).base index pvData eType eFlag hParent :=
        ⟨grow, below, unused, placed.others, placed.eType, placed.pvData,
          placed.eFlag, placed.batched, placed.root, placed.hash,
          placed.total, placed.max, placed.batchSize⟩
      have created := allocates.created
      refine ⟨(grown.searched hashTab).placeHandle index index pvData eType
        eFlag, index, ?_, sameBatch ▸ kept, outside, childless,
        ⟨index, rfl, created.inside, fun old => ?_⟩, created⟩
      · rw [hashed]
        rfl
      · rw [← ensured.old index old]
        exact (PurgingBase.mem_freeHandles.mp free).2

theorem TakesFree.endBatchAlloc
    {hHandle : Nat}
    (takes : TakesFree purging after hHandle) :
    TakesFree purging { after with base := after.base.endBatchAlloc }
      hHandle := by
  obtain ⟨failures, ended⟩ := after.base.endBatchAlloc_eq
  rw [ended]
  exact takes

/-- There is no handle that an allocation under `key` returns. -/
def HandleBase.NoEntry (base : HandleBase) (multi : Bool) (key : HandKey) :
    Prop :=
  multi = true ∨ base.hashTab key = none

theorem noEntry_iff {base : HandleBase} {multi : Bool} {key : HandKey} :
    base.NoEntry multi key ↔ (multi = false → base.hashTab key = none) := by
  unfold HandleBase.NoEntry
  cases multi <;> simp

/-! ## The exported functions -/

/-- A base with purging that meets the invariant, with no batch left over. -/
def PurgingBase.Sound (purging : PurgingBase) : Prop :=
  ∃ batch kids rank,
    PurgingValid purging purging.base.ui32FirstBatchIndexPlusOne batch kids
        rank ∧
      BatchOrder purging.base batch ∧
      (purging.base.handlesBatched = false → batch = [])

namespace PurgingBase

variable {purging : PurgingBase}

section

variable (sound : purging.Sound)
include sound

/-- The failure count is no part of the invariant. -/
theorem Sound.withFailures
    (failures : Nat) :
    Sound { purging with
      base := { purging.base with
        ui32BatchHandAllocFailures := failures } } := by
  obtain ⟨batch, kids, rank, valid, ordered, unbatched⟩ := sound
  exact ⟨batch, kids, rank, valid.congr rfl rfl rfl rfl rfl (fun _ => rfl)
    (fun _ => rfl) (fun _ => rfl) (fun _ => rfl) valid.family,
    ordered.sameForest (SameForest.withFailures _ failures), unbatched⟩

theorem Sound.beginBatchAlloc :
    Sound { purging with base := purging.base.beginBatchAlloc } := by
  obtain ⟨failures, begin⟩ := purging.base.beginBatchAlloc_eq
  rw [begin]
  exact sound.withFailures failures

theorem Sound.endBatchAlloc :
    Sound { purging with base := purging.base.endBatchAlloc } := by
  obtain ⟨failures, ended⟩ := purging.base.endBatchAlloc_eq
  rw [ended]
  exact sound.withFailures failures

end

end PurgingBase

/-- A base in which a structure has become a handle is sound. -/
theorem PurgingValid.sound_of_created
    {otherKids : Nat → List Nat}
    {otherRank : Nat → Nat}
    (valid : PurgingValid purging purging.base.ui32FirstBatchIndexPlusOne
      batch kids rank)
    (ordered : BatchOrder purging.base batch)
    (unbatched : purging.base.handlesBatched = false → batch = [])
    {index pvData parentHandle : Nat}
    {eType : HandleType}
    {eFlag : AllocFlag}
    {key : HandKey}
    (outside : index ∉ batch)
    (created : Created purging.base after.base index pvData eType eFlag
      parentHandle key)
    (kept : PurgingValid after after.base.ui32FirstBatchIndexPlusOne
      (purging.base.batchWith batch index) otherKids otherRank) :
    after.Sound := by
  refine ⟨_, otherKids, otherRank, kept, ordered.create
    valid.family.ranked_of_parent unbatched outside created, ?_⟩
  rw [handlesBatched_congr created.batchSize]
  intro notBatched
  rw [batchWith, notBatched]
  exact unbatched notBatched

namespace PurgingBase

variable {purging : PurgingBase} (sound : purging.Sound) (pvData : Nat)
  (eType : HandleType) (eFlag : AllocFlag)
include sound pvData eType

/-- `PVRSRVAllocHandle` keeps the base sound. -/
theorem Sound.pvrsrvAllocHandle
    (outcome : AllocOutcome)
    (search : purging.base.NoEntry eFlag.multi
        { data := pvData, type := eType.value, parent := 0 } →
      outcome.Suffices purging.base eFlag.multi →
      purging.base.SearchInside) :
    ∃ after result,
      purging.pvrsrvAllocHandle pvData eType eFlag outcome =
          some (after, result) ∧
        after.Sound ∧
        AllocResult purging.base after.base pvData eType eFlag
          { data := pvData, type := eType.value, parent := 0 } 0
          (fun _ => True) outcome result ∧
        (purging.base.NoEntry eFlag.multi
            { data := pvData, type := eType.value, parent := 0 } →
          ∀ hHandle, result = .ok hHandle →
            TakesFree purging after hHandle) := by
  have begunSound := sound.beginBatchAlloc
  obtain ⟨failures, begin⟩ := purging.base.beginBatchAlloc_eq
  have sameBegun := SameForest.withFailures purging.base failures
  unfold PurgingBase.pvrsrvAllocHandle
  simp only [begin] at begunSound ⊢
  rcases existing_cases purging.base eFlag
      { data := pvData, type := eType.value, parent := 0 } with
    ⟨absent, fresh⟩ | ⟨hHandle, present, single, entry⟩
  · rw [absent]
    have inside := search (noEntry_iff.mpr fresh)
    obtain ⟨batch, kids, rank, valid, ordered, unbatched⟩ := begunSound
    rcases valid.allocHandle unbatched pvData eType eFlag 0 outcome inside
      with ⟨after, error, result, kept, same, reason⟩ |
        ⟨after, index, result, kept, outside, _, takes, created⟩
    · simp only [result]
      refine ⟨after, _, rfl, ⟨batch, kids, rank, kept,
        ordered.sameForest same, ?_⟩,
        .failed fresh reason (sameBegun.trans same),
        fun _ _ impossible => ?_⟩
      · rw [handlesBatched_congr same.batchSize]
        exact unbatched
      · cases impossible
    · simp only [result]
      refine ⟨_, _, rfl, (valid.sound_of_created ordered unbatched outside
        created kept).endBatchAlloc,
        .created fresh (created.after_same sameBegun).endBatchAlloc,
        fun _ hHandle same => ?_⟩
      cases same
      exact TakesFree.endBatchAlloc takes
  · rw [present]
    have noSearch : ¬ purging.base.NoEntry eFlag.multi
        { data := pvData, type := eType.value, parent := 0 } := by
      rw [noEntry_iff]
      intro fresh
      cases entry.symm.trans (fresh single)
    have lookup : ∀ eType, HandleBase.getHandleStructure
        { purging.base with ui32BatchHandAllocFailures := failures }
        hHandle eType = purging.base.getHandleStructure hHandle eType :=
      fun _ => rfl
    simp only [lookup]
    cases found : purging.base.getHandleStructure hHandle eType.value with
    | error error =>
      exact ⟨_, _, rfl, begunSound, .stale single entry found sameBegun,
        fun none => absurd none noSearch⟩
    | ok index =>
      simp only
      split_ifs with both
      · rw [Bool.and_eq_true] at both
        exact ⟨_, _, rfl, begunSound.endBatchAlloc,
          .shared single entry found both trivial
            (sameBegun.trans (SameForest.endBatchAlloc _)),
          fun none => absurd none noSearch⟩
      · rw [Bool.and_eq_true] at both
        exact ⟨_, _, rfl, begunSound,
          .notShareable single entry found (fun shared => both shared.1)
            sameBegun, fun none => absurd none noSearch⟩

/-- `PVRSRVAllocSubHandle` keeps the base sound. -/
theorem Sound.pvrsrvAllocSubHandle
    (hParent : Nat)
    (outcome : AllocOutcome)
    (search : (∃ parent, purging.base.getHandleStructure hParent
        handleTypeNone = .ok parent) →
      purging.base.NoEntry eFlag.multi
        (subHandleKey pvData eType eFlag hParent) →
      outcome.Suffices purging.base eFlag.multi →
      purging.base.SearchInside) :
    ∃ after result,
      purging.pvrsrvAllocSubHandle pvData eType eFlag hParent outcome =
          some (after, result) ∧
        after.Sound ∧
        CallEffect purging.base after.base
          (.allocSub pvData eType eFlag hParent outcome)
          (result.map .handle) ∧
        (purging.base.NoEntry eFlag.multi
            (subHandleKey pvData eType eFlag hParent) →
          ∀ hHandle, result = .ok hHandle →
            TakesFree purging after hHandle) := by
  have begunSound := sound.beginBatchAlloc
  obtain ⟨failures, begin⟩ := purging.base.beginBatchAlloc_eq
  have sameBegun := SameForest.withFailures purging.base failures
  have cases := existing_cases purging.base eFlag
    (subHandleKey pvData eType eFlag hParent)
  have lookup : ∀ hHandle eType, HandleBase.getHandleStructure
      { purging.base with ui32BatchHandAllocFailures := failures } hHandle
        eType = purging.base.getHandleStructure hHandle eType :=
    fun _ _ => rfl
  unfold PurgingBase.pvrsrvAllocSubHandle
  simp only [begin, lookup] at begunSound ⊢
  cases parentFound :
      purging.base.getHandleStructure hParent handleTypeNone with
  | error error =>
    refine ⟨_, _, rfl, begunSound, .noParent parentFound sameBegun,
      fun _ _ impossible => ?_⟩
    cases impossible
  | ok parent =>
    have parentLive : purging.base.Live parent :=
      (getHandleStructure_ok.mp parentFound).2.1
    simp only
    rcases cases with ⟨absent, fresh⟩ | ⟨hHandle, present, single, entry⟩
    · rw [subHandleKey] at absent
      rw [absent]
      have inside := search ⟨parent, parentFound⟩ (noEntry_iff.mpr fresh)
      obtain ⟨batch, kids, rank, valid, ordered, unbatched⟩ := begunSound
      rcases valid.allocHandle unbatched pvData eType eFlag
          (if eFlag.priv then hParent else 0) outcome inside
        with ⟨after, error, result, kept, same, reason⟩ |
          ⟨after, index, result, kept, outside, childless, takes, created⟩
      · simp only [result]
        refine ⟨after, _, rfl, ⟨batch, kids, rank, kept,
          ordered.sameForest same, ?_⟩, .allocSub parentFound
          (.failed fresh reason (sameBegun.trans same)),
          fun _ _ impossible => ?_⟩
        · rw [handlesBatched_congr same.batchSize]
          exact unbatched
        · cases impossible
      · simp only [result]
        have alive : after.base.Live index :=
          (created.live index).mpr (Or.inr rfl)
        have aliveParent : after.base.Live parent :=
          (created.live parent).mpr (Or.inl parentLive)
        have different : index ≠ parent := fun same =>
          created.unused (same ▸ parentLive)
        have sameIndex : handleToIndex (indexToHandle index) = index :=
          handleToIndex_indexToHandle
            (kept.family.bounded index (Or.inl alive))
        have fields := (SameData.adoptChild after.base parent index).fields
        have adopted := kept.sameData
          (SameData.adoptChild after.base parent index)
          (kept.family.adopt aliveParent alive created.parent childless
            different)
        have firstBatch : (after.base.adoptChild parent
            index).ui32FirstBatchIndexPlusOne =
            after.base.ui32FirstBatchIndexPlusOne := by
          rw [fields]
        rw [← firstBatch] at adopted
        have createdBelow := created.adopt kept.family parentLive
        rw [sameIndex]
        refine ⟨_, _, rfl, (valid.sound_of_created ordered unbatched outside
          createdBelow adopted).endBatchAlloc, .allocSub parentFound
          (.created fresh (createdBelow.after_same sameBegun).endBatchAlloc),
          fun _ hHandle same => ?_⟩
        cases same
        obtain ⟨taken, sameTaken, below, free⟩ := takes
        have takesBelow : TakesFree purging
            { after with base := after.base.adoptChild parent index }
            (indexToHandle index) := by
          refine ⟨taken, sameTaken, ?_, free⟩
          rw [fields]
          exact below
        exact takesBelow.endBatchAlloc
    · have noSearch : ¬ purging.base.NoEntry eFlag.multi
          (subHandleKey pvData eType eFlag hParent) := by
        rw [noEntry_iff]
        intro fresh
        cases entry.symm.trans (fresh single)
      rw [subHandleKey] at present
      rw [present]
      cases found : purging.base.getHandleStructure hHandle eType.value with
      | error error =>
        simp only [found]
        exact ⟨_, _, rfl, begunSound, .allocSub parentFound
          (.stale single entry found sameBegun),
          fun none => absurd none noSearch⟩
      | ok index =>
        simp only [found]
        split_ifs with both
        · simp only [Bool.and_eq_true, decide_eq_true_eq] at both
          exact ⟨_, _, rfl, begunSound.endBatchAlloc, .allocSub parentFound
            (.shared single entry found both.1 both.2
              (sameBegun.trans (SameForest.endBatchAlloc _))),
            fun none => absurd none noSearch⟩
        · simp only [Bool.and_eq_true, decide_eq_true_eq] at both
          exact ⟨_, _, rfl, begunSound, .allocSub parentFound
            (.notShareable single entry found both sameBegun),
            fun none => absurd none noSearch⟩

end PurgingBase

end PvrServices.Handles
