import PvrServices.Handles.PurgingBatches

/-!
# Runs with purging

The free counts are right in every state of a run, as long as no batch ends of
which a handle has been released before, and no allocation searches from an
index behind the array, where only a purge leaves it.  A handle that is
released within its batch keeps the flags of the batch at its end: it is
counted as free then, but no allocation takes it.
-/

namespace PvrServices.Handles

open HandleBase
open List (not_mem_nil)

variable {purging : PurgingBase} {index count : Nat} {rank : Nat → Nat}

namespace PurgingBase

section

variable (sound : purging.Sound)
include sound

/-- `PVRSRVNewHandleBatch` keeps the base sound. -/
theorem Sound.pvrsrvNewHandleBatch
    (ui32BatchSize : Nat)
    (outcome : AllocOutcome) :
    let after := (purging.pvrsrvNewHandleBatch ui32BatchSize outcome).1
    after.Sound ∧ KeepsHandles purging.base after.base := by
  have unchanged : purging.Sound ∧ KeepsHandles purging.base purging.base :=
    ⟨sound, KeepsHandles.refl _⟩
  obtain ⟨batch, kids, rank, valid, ordered, unbatched⟩ := sound
  unfold PurgingBase.pvrsrvNewHandleBatch
  split_ifs with batched zero
  · exact unchanged
  · exact unchanged
  · rcases valid.ensureFreeHandles (Nat.pos_of_ne_zero zero)
        outcome.osAllocMem with
      ⟨result, _⟩ | ⟨grown, result, grownValid, ensured, _⟩
    · rw [result]
      exact unchanged
    · rw [result]
      have grow := ensured.grown
      have keeps := grow.sameForest.toKeepsHandles
      rw [← grow.firstBatch] at grownValid
      refine ⟨⟨batch, kids, rank, grownValid.congr rfl rfl rfl rfl rfl
        (fun _ => rfl) (fun _ => rfl) (fun _ => rfl) (fun _ => rfl)
        grownValid.family, (ordered.sameForest grow.sameForest).fewer
        (fun _ alive => alive) (fun _ _ => rfl), fun _ => ?_⟩,
        keeps.trans (.of_handles rfl rfl rfl)⟩
      exact unbatched (by simpa using batched)

/-- The end of a batch, whatever has been released of it. -/
theorem Sound.batchEnds
    (bCommit : Bool) :
    ∃ after result,
      purging.handleBatchCommitOrRelease bCommit = some (after, result) ∧
        BatchEnds purging.base after.base := by
  unfold PurgingBase.handleBatchCommitOrRelease
  split_ifs with notBatched
  · exact ⟨_, _, rfl, purging.base, fun _ _ holds => holds, rfl, rfl, rfl⟩
  · obtain ⟨batch, kids, rank, valid, _, _⟩ := sound
    have walks : KeptByWalk
        (bCommit && decide (purging.base.ui32BatchHandAllocFailures = 0))
        rank fun current _ => Walked purging.base current :=
      (keptByLoop_walked purging.base).walks
    obtain ⟨middle, result, walked⟩ :=
      valid.walkable.commitOrReleaseLoop walks (fun _ _ holds => holds)
        (Nat.le_succ_of_le
          (batch_length_le valid.flagged.distinct valid.flagged.inside))
    simp only [result]
    exact ⟨_, _, rfl, middle.base, walked, rfl, rfl, rfl⟩

/-- The end of a batch none of whose handles has been released keeps the base
sound. -/
theorem Sound.handleBatchCommitOrRelease
    (intact : ∀ index, index < purging.base.ui32TotalHandCount →
      (purging.base.handles index).partiallyFree = false)
    (bCommit : Bool) :
    ∃ after result,
      purging.handleBatchCommitOrRelease bCommit = some (after, result) ∧
        after.Sound := by
  unfold PurgingBase.handleBatchCommitOrRelease
  split_ifs with notBatched
  · exact ⟨_, _, rfl, sound⟩
  · obtain ⟨batch, kids, rank, valid, ordered, _⟩ := sound
    have flagged := valid.flagged
    have alive : ∀ index ∈ batch, purging.base.Live index := by
      intro index member
      have inside := flagged.inside index member
      refine ⟨inside, fun dead => ?_⟩
      have partly := (flagged.own index member).2.mpr dead
      rw [intact index inside] at partly
      cases partly
    have enough := Nat.le_succ_of_le
      (batch_length_le flagged.distinct flagged.inside)
    have closed : ∀ {middle : PurgingBase} {kids : Nat → List Nat},
        PurgingValid middle 0 [] kids rank →
          Sound { middle with base := middle.base.closeBatch } := by
      intro middle kids kept
      have rest : PurgingValid
          { middle with base := middle.base.closeBatch } 0 [] kids rank :=
        kept.congr rfl rfl rfl rfl rfl (fun _ => rfl) (fun _ => rfl)
          (fun _ => rfl) (fun _ => rfl) kept.family
      exact ⟨[], kids, rank, rest, BatchOrder.nil _, fun _ => rfl⟩
    simp only
    generalize (bCommit &&
      decide (purging.base.ui32BatchHandAllocFailures = 0)) = bCommitBatch
    cases bCommitBatch with
    | true =>
      obtain ⟨middle, result, kept⟩ := valid.commitLoop alive enough
      rw [result]
      exact ⟨_, _, rfl, closed kept⟩
    | false =>
      obtain ⟨middle, _, result, kept⟩ :=
        valid.releaseLoop ordered alive enough
      rw [result]
      exact ⟨_, _, rfl, closed kept⟩

/-- `FreeHandle` keeps the base sound. -/
theorem Sound.freeHandle
    (alive : purging.base.Live index) :
    ∃ after rank removed, purging.freeHandle index = some after ∧
      after.Sound ∧ Freed purging.base after.base rank [index] removed := by
  obtain ⟨batch, kids, rank, valid, ordered, unbatched⟩ := sound
  obtain ⟨after, otherKids, removed, result, kept, freed⟩ :=
    valid.freeHandle alive
  rw [← freed.firstBatch] at kept
  refine ⟨after, rank, removed, result, ⟨batch, otherKids, rank, kept,
    ordered.fewer
      (fun other aliveAfter => ((freed.live other).mp aliveAfter).1)
      freed.parentKept, ?_⟩, freed⟩
  rw [handlesBatched_congr freed.batchSize]
  exact unbatched

end

end PurgingBase

/-! ## Purging -/

/-- The structures of a block that is counted as free are free. -/
theorem Counted.free_of_full
    (counted : Counted purging)
    (inside : indexToBlockIndex index <
      indexToBlockIndex purging.base.ui32TotalHandCount)
    (full : purging.ui32FreeHandBlockCount (indexToBlockIndex index) =
      handleBlockSize) :
    (purging.base.handles index).isFree = true := by
  have count := counted.blocks _ inside
  rw [full] at count
  have subset : purging.freeInBlock (indexToBlockIndex index) ⊆
      Finset.Ico (indexToBlockIndex index * handleBlockSize)
        (indexToBlockIndex index * handleBlockSize + handleBlockSize) := by
    intro other member
    have inBlock := (PurgingBase.mem_freeInBlock.mp member).2
    rw [Finset.mem_Ico]
    simp only [indexToBlockIndex, handleBlockSize] at inBlock ⊢
    omega
  have whole := Finset.eq_of_subset_of_card_le subset (by
    rw [Nat.card_Ico, Nat.add_sub_cancel_left, ← count])
  have member : index ∈ purging.freeInBlock (indexToBlockIndex index) := by
    rw [whole, Finset.mem_Ico]
    simp only [indexToBlockIndex, handleBlockSize]
    omega
  exact (PurgingBase.mem_freeHandles.mp
    (PurgingBase.mem_freeInBlock.mp member).1).2

namespace PurgingBase

/-- The blocks from the last one in use on are counted as free. -/
theorem usedBlocks_spec (purging : PurgingBase) (blocks : Nat) :
    purging.usedBlocks blocks ≤ blocks ∧
      ∀ block, purging.usedBlocks blocks ≤ block → block < blocks →
        purging.ui32FreeHandBlockCount block = handleBlockSize := by
  induction blocks with
  | zero => exact ⟨le_rfl, fun block _ impossible => by omega⟩
  | succ last ih =>
    obtain ⟨le, free⟩ := ih
    rw [usedBlocks]
    split_ifs with used
    · exact ⟨le_rfl, fun block beyond inside => by omega⟩
    · refine ⟨Nat.le_succ_of_le le, fun block beyond inside => ?_⟩
      rcases Nat.lt_succ_iff_lt_or_eq.mp inside with below | rfl
      · exact free block beyond below
      · exact not_not.mp used

end PurgingBase

/-- The array without its last structures. -/
def PurgingBase.withoutBlocks (purging : PurgingBase) (count : Nat) :
    PurgingBase :=
  { purging with
    base := { purging.base with
      ui32TotalHandCount := count
      ui32FreeHandCount := purging.base.ui32FreeHandCount -
        (purging.base.ui32TotalHandCount - count)
      ui32FirstFreeIndex :=
        if count = 0 then 0 else purging.base.ui32FirstFreeIndex
      ui32LastFreeIndexPlusOne :=
        if count = 0 then 0 else purging.base.ui32LastFreeIndexPlusOne } }

/-- A smaller array has the first structures of the old one, unless there is no
memory for it. -/
theorem PurgingBase.reallocHandleArray_shrink
    (sized : Sized purging.base)
    (fewer : count < purging.base.ui32TotalHandCount)
    (aligned : count % handleBlockSize = 0)
    (osAllocMem : Bool) :
    purging.reallocHandleArray count osAllocMem = .error .outOfMemory ∨
      purging.reallocHandleArray count osAllocMem =
        .ok (purging.withoutBlocks count) := by
  unfold reallocHandleArray
  simp only
  rw [if_neg (Nat.ne_of_lt fewer), if_neg (by simp [sized.total_mod, aligned])]
  by_cases noMemory : (decide (count ≠ 0) && !osAllocMem) = true
  · exact Or.inl (if_pos noMemory)
  · rw [if_neg noMemory, if_neg (Nat.not_lt.mpr (Nat.le_of_lt fewer))]
    exact Or.inr rfl

/-- Giving back free blocks keeps the invariant. -/
theorem PurgingValid.withoutBlocks
    {start : Nat}
    {kids : Nat → List Nat}
    (valid : PurgingValid purging start [] kids rank)
    (fewer : count ≤ purging.base.ui32TotalHandCount)
    (aligned : count % handleBlockSize = 0)
    (gone : ∀ index, count ≤ index →
      index < purging.base.ui32TotalHandCount →
        (purging.base.handles index).isFree = true) :
    PurgingValid (purging.withoutBlocks count) start [] kids rank ∧
      ∀ index, (purging.withoutBlocks count).base.Live index ↔
        purging.base.Live index := by
  have live : ∀ index, (purging.withoutBlocks count).base.Live index ↔
      purging.base.Live index := by
    intro index
    refine ⟨fun alive => ⟨lt_of_lt_of_le alive.1 fewer, alive.2⟩,
      fun alive => ⟨?_, alive.2⟩⟩
    by_contra beyond
    exact alive.2 (isFree_iff.mp (gone index (Nat.not_lt.mp beyond) alive.1)).1
  refine ⟨⟨⟨fewer.trans valid.sized.total_le, aligned, valid.sized.max_mod,
    valid.sized.max_le⟩, ?_, ?_, ?_, ?_, ?_⟩, live⟩
  · exact valid.counted.shrink aligned fewer (fun _ => rfl) gone rfl rfl
  · by_cases none : count = 0
    · have first : (purging.withoutBlocks count).base.ui32FirstFreeIndex =
          0 := if_pos none
      exact ⟨by rw [first, Nat.zero_mod], fun nonzero => absurd first nonzero⟩
    · exact valid.first.congr (if_neg none) fewer fun _ _ free => free
  · exact valid.links.congr fun _ member => absurd member not_mem_nil
  · exact ⟨fun _ member => absurd member not_mem_nil, List.nodup_nil,
      fun _ member => absurd member not_mem_nil,
      fun index inside outside =>
        valid.flagged.others index (lt_of_lt_of_le inside fewer) outside⟩
  · exact valid.family.congr live fun index => or_congr_left (live index)

/-- `PVRSRVPurgeHandles` keeps the base sound and the handles as they are. -/
theorem PurgingBase.Sound.pvrsrvPurgeHandles
    (sound : purging.Sound)
    (osAllocMem : Bool) :
    let after := (purging.pvrsrvPurgeHandles osAllocMem).1
    after.Sound ∧ after.base.handles = purging.base.handles ∧
      KeepsHandles purging.base after.base := by
  have unchanged : purging.Sound ∧
      purging.base.handles = purging.base.handles ∧
      KeepsHandles purging.base purging.base :=
    ⟨sound, rfl, KeepsHandles.refl _⟩
  obtain ⟨batch, kids, rank, valid, ordered, unbatched⟩ := sound
  unfold PurgingBase.pvrsrvPurgeHandles
  simp only
  split_ifs with batched few
  · exact unchanged
  · obtain rfl : batch = [] := unbatched (by simpa using batched)
    obtain ⟨le, full⟩ := purging.usedBlocks_spec
      (indexToBlockIndex purging.base.ui32TotalHandCount)
    generalize purging.usedBlocks
      (indexToBlockIndex purging.base.ui32TotalHandCount) = blocks at *
    have aligned : blocks * handleBlockSize % handleBlockSize = 0 :=
      Nat.mul_mod_left blocks handleBlockSize
    have totalMod := valid.sized.total_mod
    have fewer : blocks * handleBlockSize ≤
        purging.base.ui32TotalHandCount := by
      simp only [indexToBlockIndex, handleBlockSize] at *
      omega
    by_cases same : blocks * handleBlockSize = purging.base.ui32TotalHandCount
    · rw [PurgingBase.reallocHandleArray, if_pos same]
      exact unchanged
    · rcases PurgingBase.reallocHandleArray_shrink valid.sized
          (lt_of_le_of_ne fewer same) aligned osAllocMem with
        result | result
      · rw [result]
        exact unchanged
      · rw [result]
        obtain ⟨kept, live⟩ := valid.withoutBlocks fewer aligned (by
          intro index beyond inside
          have inBlocks : blocks ≤ indexToBlockIndex index ∧
              indexToBlockIndex index <
                indexToBlockIndex purging.base.ui32TotalHandCount := by
            simp only [indexToBlockIndex, handleBlockSize] at *
            omega
          exact valid.counted.free_of_full inBlocks.2
            (full _ inBlocks.1 inBlocks.2))
        exact ⟨⟨[], kids, rank, kept, BatchOrder.nil _, fun _ => rfl⟩, rfl,
          ⟨live, fun _ _ => ⟨rfl, rfl, rfl, rfl⟩, rfl⟩, fun _ _ => rfl⟩
  · exact unchanged

/-! ## What runs need and what they keep -/

/-- The call comes to `AllocHandle`: no handle is there to be returned. -/
def PurgingOp.Allocates (op : PurgingOp) (base : HandleBase) : Prop :=
  match op with
  | .call (.alloc pvData eType eFlag _) =>
    base.NoEntry eFlag.multi
      { data := pvData, type := eType.value, parent := 0 }
  | .call (.allocSub pvData eType eFlag hParent _) =>
    (∃ parent,
      base.getHandleStructure hParent handleTypeNone = .ok parent) ∧
      base.NoEntry eFlag.multi (subHandleKey pvData eType eFlag hParent)
  | _ => False

/-- The allocators give an allocation what it needs. -/
def PurgingOp.Suffices (op : PurgingOp) (base : HandleBase) : Prop :=
  match op with
  | .call (.alloc _ _ eFlag outcome) => outcome.Suffices base eFlag.multi
  | .call (.allocSub _ _ eFlag _ outcome) => outcome.Suffices base eFlag.multi
  | _ => False

/-- The call ends a batch. -/
def PurgingOp.EndsBatch : PurgingOp → Prop
  | .call .commitBatch => True
  | .call .releaseBatch => True
  | _ => False

/-- The call does not search behind the array, and does not end a batch with a
handle that has been released. -/
structure PurgingOp.Safe (op : PurgingOp) (base : HandleBase) : Prop where
  search : op.Allocates base → op.Suffices base → base.SearchInside
  intact : op.EndsBatch → ∀ index, index < base.ui32TotalHandCount →
    (base.handles index).partiallyFree = false

/-- Each call of the run is safe in the state it meets. -/
def PurgingSafeRun : PurgingBase → List PurgingOp → Prop
  | _, [] => True
  | purging, op :: ops =>
    op.Safe purging.base ∧
      ∀ after result, purging.step op = some (after, result) →
        PurgingSafeRun after ops

/-- The count of each block is the number of its structures that `AllocHandle`
takes for free, and the count of the base their sum. -/
structure CountsExact (purging : PurgingBase) : Prop where
  blocks : ∀ block,
    block < indexToBlockIndex purging.base.ui32TotalHandCount →
      purging.ui32FreeHandBlockCount block = (purging.freeInBlock block).card
  total : purging.base.ui32FreeHandCount =
    ∑ block ∈ Finset.range
      (indexToBlockIndex purging.base.ui32TotalHandCount),
      purging.ui32FreeHandBlockCount block

/-- An allocation takes a free structure, and a purge removes no handle. -/
structure PurgingStepExact
    (op : PurgingOp) (before after : PurgingBase) (result : HandleResult) :
    Prop where
  takes : op.Allocates before.base → ∀ hHandle,
    result = .ok (.handle hHandle) → TakesFree before after hHandle
  keeps : ∀ osAllocMem, op = .purge osAllocMem → ∀ index,
    before.base.Live index →
      after.base.Live index ∧
        after.base.handles index = before.base.handles index

/-- What a call does to the handles.  A purge leaves them as they are. -/
def PurgingOp.Effect
    (op : PurgingOp) (before after : HandleBase) (result : HandleResult) :
    Prop :=
  match op with
  | .call op => CallEffect before after op result
  | .purge _ => KeepsHandles before after

/-- The calls return, and are exact, and the counts are in every state. -/
def CountedRun : PurgingBase → List PurgingOp → Prop
  | purging, [] => CountsExact purging
  | purging, op :: ops =>
    CountsExact purging ∧
      ∃ after result, purging.step op = some (after, result) ∧
        PurgingStepExact op purging after result ∧ CountedRun after ops

namespace PurgingBase

variable {purging : PurgingBase}

theorem Sound.countsExact (sound : purging.Sound) :
    CountsExact purging := by
  obtain ⟨batch, kids, rank, valid, _⟩ := sound
  exact ⟨valid.counted.blocks,
    valid.counted.count_eq_sum valid.sized.total_mod⟩

/-- A safe call returns, is exact, and has its effect. -/
theorem Sound.step
    (sound : purging.Sound)
    {op : PurgingOp}
    (safe : op.Safe purging.base) :
    ∃ after result, purging.step op = some (after, result) ∧
      after.Sound ∧ PurgingStepExact op purging after result ∧
        op.Effect purging.base after.base result := by
  -- a call that neither allocates nor purges
  have other : ∀ {op : HandleOp} {after : PurgingBase}
      {result : HandleResult},
      (∀ base, ¬ PurgingOp.Allocates (.call op) base) →
        PurgingStepExact (.call op) purging after result := fun noAlloc =>
    ⟨fun allocates => absurd allocates (noAlloc _), fun _ => nofun⟩
  have same := KeepsHandles.refl purging.base
  cases op with
  | call op =>
    cases op with
    | alloc pvData eType eFlag outcome =>
      obtain ⟨after, result, stepped, kept, allocated, takes⟩ :=
        sound.pvrsrvAllocHandle pvData eType eFlag outcome safe.search
      refine ⟨after, result.map .handle, ?_, kept,
        ⟨fun allocates hHandle same => ?_, fun _ isPurge => ?_⟩,
        .alloc allocated⟩
      · rw [PurgingBase.step, stepped]
        rfl
      · cases result with
        | error error => cases same
        | ok value =>
          cases same
          exact takes allocates _ rfl
      · cases isPurge
    | allocSub pvData eType eFlag hParent outcome =>
      obtain ⟨after, result, stepped, kept, effect, takes⟩ :=
        sound.pvrsrvAllocSubHandle pvData eType eFlag hParent outcome
          fun parent fresh => safe.search ⟨parent, fresh⟩
      refine ⟨after, result.map .handle, ?_, kept,
        ⟨fun allocates hHandle same => ?_, fun _ isPurge => ?_⟩, effect⟩
      · rw [PurgingBase.step, stepped]
        rfl
      · cases result with
        | error error => cases same
        | ok value =>
          cases same
          exact takes allocates.2 _ rfl
      · cases isPurge
    | lookup hHandle eType | find pvData eType | getParent hHandle eType =>
      exact ⟨_, _, rfl, sound, other (fun _ => id),
        .same rfl same⟩
    | lookupSub hHandle eType hAncestor =>
      have ⟨_, _, _, valid, _⟩ := sound
      obtain ⟨answer, found, _⟩ := valid.family.pvrsrvLookupSubHandle
        valid.sized hHandle eType hAncestor
      refine ⟨purging, answer.map .data, ?_, sound,
        other (fun _ => id), .same rfl same⟩
      rw [PurgingBase.step, found]
      rfl
    | lookupAndRelease hHandle eType | release hHandle eType =>
      simp only [PurgingBase.step, PurgingBase.pvrsrvLookupAndReleaseHandle,
        PurgingBase.pvrsrvReleaseHandle]
      cases found : purging.base.getHandleStructure hHandle eType with
      | error error =>
        exact ⟨_, _, rfl, sound, other (fun _ => id),
          .same rfl same⟩
      | ok index =>
        obtain ⟨after, _, _, result, kept, freed⟩ :=
          sound.freeHandle (getHandleStructure_ok.mp found).2.1
        simp only [result]
        exact ⟨_, _, rfl, kept, other (fun _ => id),
          .freed rfl freed⟩
    | newBatch ui32BatchSize outcome =>
      obtain ⟨kept, keeps⟩ := sound.pvrsrvNewHandleBatch ui32BatchSize outcome
      exact ⟨_, _, rfl, kept, other (fun _ => id),
        .same rfl keeps⟩
    | commitBatch =>
      obtain ⟨after, result, ended, kept⟩ :=
        sound.handleBatchCommitOrRelease (safe.intact trivial) true
      obtain ⟨_, _, same, ends⟩ := sound.batchEnds true
      cases ended.symm.trans same
      refine ⟨after, result.map fun _ => .nothing, ?_, kept,
        other (fun _ => id), .ended id ends⟩
      rw [PurgingBase.step, ended]
      rfl
    | releaseBatch =>
      obtain ⟨after, result, ended, kept⟩ :=
        sound.handleBatchCommitOrRelease (safe.intact trivial) false
      obtain ⟨_, _, same, ends⟩ := sound.batchEnds false
      cases ended.symm.trans same
      refine ⟨after, .ok .nothing, ?_, kept,
        other (fun _ => id), .ended id ends⟩
      rw [PurgingBase.step, ended]
      rfl
  | purge osAllocMem =>
    obtain ⟨kept, handles, keeps⟩ := sound.pvrsrvPurgeHandles osAllocMem
    refine ⟨_, _, rfl, kept, ⟨fun none => absurd none fun none => none,
      fun _ _ index alive => ?_⟩, keeps⟩
    exact ⟨(keeps.live index).mpr alive, congrFun handles index⟩

/-- A safe run from a sound base is exact. -/
theorem Sound.countedRun
    (sound : purging.Sound)
    {ops : List PurgingOp}
    (safe : PurgingSafeRun purging ops) :
    CountedRun purging ops := by
  induction ops generalizing purging with
  | nil => exact sound.countsExact
  | cons op ops ih =>
    obtain ⟨after, result, stepped, kept, isExact, _⟩ := sound.step safe.1
    exact ⟨sound.countsExact, after, result, stepped, isExact,
      ih kept (safe.2 after result stepped)⟩

/-- A new base is sound. -/
theorem sound_create (memory : Nat → Handle) (ui32MaxHandle : Nat) :
    (create memory ui32MaxHandle).Sound := by
  obtain ⟨chain, batch, kids, rank, valid, emptied⟩ :=
    (Handles.sound_create memory ui32MaxHandle).1
  obtain rfl := emptied (Handles.sound_create memory ui32MaxHandle).2.2.1
  obtain ⟨max, fields, _⟩ := create_fields memory ui32MaxHandle
  have none : (create memory ui32MaxHandle).base.ui32TotalHandCount = 0 :=
    congrArg HandleBase.ui32TotalHandCount fields
  have first : (create memory ui32MaxHandle).base.ui32FirstFreeIndex = 0 :=
    congrArg HandleBase.ui32FirstFreeIndex fields
  have count : (create memory ui32MaxHandle).base.ui32FreeHandCount = 0 :=
    congrArg HandleBase.ui32FreeHandCount fields
  have noFree : (create memory ui32MaxHandle).freeHandles = ∅ := by
    rw [freeHandles, none]
    rfl
  refine ⟨[], kids, rank, ⟨valid.sized, ⟨fun block inside => ?_, ?_⟩,
    ⟨by rw [first, Nat.zero_mod], fun nonzero => absurd first nonzero⟩,
    valid.links, ?_, valid.family⟩, BatchOrder.nil _, fun _ => rfl⟩
  · rw [none] at inside
    exact absurd inside (Nat.not_lt_zero _)
  · rw [count, noFree]
    rfl
  · refine ⟨fun _ member => absurd member not_mem_nil, List.nodup_nil,
      fun _ member => absurd member not_mem_nil,
      fun index inside => ?_⟩
    rw [none] at inside
    exact absurd inside (Nat.not_lt_zero _)

end PurgingBase

/-- A safe run from a new base with purging is exact. -/
theorem countedRun_of_safe
    (memory : Nat → Handle)
    (ui32MaxHandle : Nat)
    (ops : List PurgingOp)
    (safe : PurgingSafeRun (PurgingBase.create memory ui32MaxHandle) ops) :
    CountedRun (PurgingBase.create memory ui32MaxHandle) ops :=
  (PurgingBase.sound_create memory ui32MaxHandle).countedRun safe

/-- A handle is released, its block is given back, and a batch is opened. -/
theorem countedRun_of_safe_purge :
    CountedRun (PurgingBase.create (fun _ => clearedHandle) defaultMaxHandle)
      [.call (.alloc 7 ⟨1, by decide⟩ ⟨false, false, false⟩ ⟨true, true⟩),
        .call (.release 1 1), .purge true,
        .call (.newBatch 2 ⟨true, true⟩)] := by
  apply countedRun_of_safe
  refine ⟨⟨fun _ _ => Or.inr ⟨rfl, rfl⟩, fun none => absurd none id⟩,
    fun _ _ _ => ?_⟩
  refine ⟨⟨fun none => absurd none id, fun none => absurd none id⟩,
    fun _ _ _ => ?_⟩
  refine ⟨⟨fun none => absurd none id, fun none => absurd none id⟩,
    fun _ _ _ => ?_⟩
  exact ⟨⟨fun none => absurd none id, fun none => absurd none id⟩,
    fun _ _ _ => trivial⟩

/-- The counts are right at the end of an exact run. -/
theorem CountedRun.last
    {ops : List PurgingOp}
    (isExact : CountedRun purging ops) :
    ∃ last, purging.run ops = some last ∧ CountsExact last := by
  induction ops generalizing purging with
  | nil => exact ⟨purging, rfl, isExact⟩
  | cons op ops ih =>
    obtain ⟨_, after, result, stepped, _, rest⟩ := isExact
    simp only [PurgingBase.run, stepped]
    exact ih rest

/-- A handle that is released in its batch is counted as free when the batch
ends, but no allocation takes it.  And a purge leaves the first free index
behind the array, where the next allocation finds no structure. -/
theorem not_countedRun :
    ¬ CountedRun (PurgingBase.create (fun _ => clearedHandle) defaultMaxHandle)
        [.call (.newBatch 2 ⟨true, true⟩),
          .call (.alloc 7 ⟨1, by decide⟩ ⟨false, false, false⟩
            ⟨true, true⟩),
          .call (.release 1 1), .call .commitBatch] ∧
      ¬ CountedRun (PurgingBase.create (fun _ => clearedHandle)
          defaultMaxHandle)
        [.call (.alloc 7 ⟨1, by decide⟩ ⟨false, false, false⟩
            ⟨true, true⟩),
          .call (.newBatch 300 ⟨true, true⟩), .call .releaseBatch,
          .purge true,
          .call (.alloc 8 ⟨1, by decide⟩ ⟨false, false, false⟩
            ⟨true, true⟩)] := by
  constructor
  · intro isExact
    obtain ⟨last, ran, counts⟩ := isExact.last
    have evaluated : ((PurgingBase.create (fun _ => clearedHandle)
        defaultMaxHandle).run
          [.call (.newBatch 2 ⟨true, true⟩),
            .call (.alloc 7 ⟨1, by decide⟩ ⟨false, false, false⟩
              ⟨true, true⟩),
            .call (.release 1 1), .call .commitBatch]).all (fun last =>
        decide (0 < indexToBlockIndex last.base.ui32TotalHandCount ∧
          last.ui32FreeHandBlockCount 0 ≠ (last.freeInBlock 0).card)) =
        true := by
      decide +kernel
    rw [ran, Option.all_some, decide_eq_true_eq] at evaluated
    exact evaluated.2 (counts.blocks 0 evaluated.1)
  · intro isExact
    obtain ⟨last, ran, _⟩ := isExact.last
    have evaluated : ((PurgingBase.create (fun _ => clearedHandle)
        defaultMaxHandle).run
          [.call (.alloc 7 ⟨1, by decide⟩ ⟨false, false, false⟩
              ⟨true, true⟩),
            .call (.newBatch 300 ⟨true, true⟩), .call .releaseBatch,
            .purge true,
            .call (.alloc 8 ⟨1, by decide⟩ ⟨false, false, false⟩
              ⟨true, true⟩)]).isNone = true := by
      decide +kernel
    rw [ran] at evaluated
    cases evaluated

end PvrServices.Handles
