import PvrServices.Handles.Effects
import Mathlib.Data.List.Iterate

/-!
# The chain of free structures

In every state of a run the chain of free structures holds each of them once,
as long as no batch makes the array grow while the chain starts at structure
0.  Such a batch loses the chain: `ReallocHandleArray` takes the first index 0
for an empty chain and starts the chain anew at the first new structure.
-/

namespace PvrServices.Handles

open HandleBase Links

/-! ## What the code relies on -/

namespace HandleBase

/-- The structures that allocations would hand out, one after the other. -/
def freeChain (base : HandleBase) : List Nat :=
  List.iterate base.nextFree base.ui32FirstFreeIndex base.ui32FreeHandCount

/-- The structures of a batch, with a bound on their number. -/
def batchChain : Nat → HandleBase → Nat → List Nat
  | _, _, 0 => []
  | 0, _, _ + 1 => []
  | fuel + 1, base, index + 1 =>
    index :: batchChain fuel base (base.handles index).ui32NextIndexPlusOne

/-- The structures of the batch that is open. -/
def batchPending (base : HandleBase) : List Nat :=
  batchChain base.ui32TotalHandCount base base.ui32FirstBatchIndexPlusOne

/-- The chain of free structures is what it should be. -/
structure FreeListOk (base : HandleBase) : Prop where
  once : base.freeChain.Nodup
  mem_freeChain : ∀ index, index ∈ base.freeChain ↔
    index < base.ui32TotalHandCount ∧
      (base.handles index).eType = handleTypeNone ∧
      index ∉ base.batchPending
  length_freeChain : base.freeChain.length = base.ui32FreeHandCount
  last : ∀ index ∈ base.freeChain.getLast?,
    base.ui32LastFreeIndexPlusOne = index + 1 ∧
      (base.handles index).ui32NextIndexPlusOne = 0
  empty : base.freeChain = [] →
    base.ui32FirstFreeIndex = 0 ∧ base.ui32LastFreeIndexPlusOne = 0

/-- `AllocHandle` stays inside the array, and hands out a structure that was
neither live nor pending. -/
def AllocSafe (base : HandleBase) : Prop :=
  ∀ pvData eType eFlag hParent outcome after result,
    base.beginBatchAlloc.allocHandle pvData eType eFlag hParent outcome =
        (after, result) →
      (∀ index, after.ui32TotalHandCount ≤ index →
        after.handles index = base.handles index) ∧
      ∀ hHandle, result = .ok hHandle →
        ∃ index, hHandle = indexToHandle index ∧
          index < after.ui32TotalHandCount ∧
          ¬ base.Live index ∧ index ∉ base.batchPending

end HandleBase

/-! ## Sound bases -/

variable {base after : HandleBase} {count : Nat}

theorem batchChain_eq
    {start fuel : Nat}
    {batch : List Nat}
    (links : BatchFrom base start batch)
    (enough : batch.length ≤ fuel) :
    batchChain fuel base start = batch := by
  induction batch generalizing start fuel with
  | nil =>
    obtain rfl : start = 0 := links
    cases fuel <;> rfl
  | cons index rest ih =>
    obtain ⟨rfl, others⟩ := links
    rw [List.length_cons] at enough
    obtain ⟨fuel, rfl⟩ : ∃ less, fuel = less + 1 := ⟨fuel - 1, by omega⟩
    rw [batchChain, ih others (by omega)]

namespace Valid

variable {base : HandleBase} {chain batch : List Nat}
  {kids : Nat → List Nat} {rank : Nat → Nat}

theorem freeChain_eq
    {start : Nat}
    (valid : Valid base chain start batch kids rank) :
    base.freeChain = chain := by
  rw [freeChain, valid.free.count, valid.free.first]
  exact iterate_chain valid.free.links

theorem batchPending_eq
    (valid : Valid base chain base.ui32FirstBatchIndexPlusOne batch kids
      rank) :
    base.batchPending = batch :=
  batchChain_eq valid.links valid.batch_length_le

end Valid

theorem HandleBase.Sound.freeListOk
    (sound : base.Sound) :
    base.FreeListOk := by
  obtain ⟨chain, batch, kids, rank, valid, _⟩ := sound
  have free := valid.free
  refine ⟨?_, ?_, ?_, ?_, ?_⟩
  · rw [valid.freeChain_eq]
    exact free.distinct
  · rw [valid.freeChain_eq, valid.batchPending_eq]
    exact valid.occupancy.mem_chain
  · rw [valid.freeChain_eq, free.count]
  · rw [valid.freeChain_eq]
    exact free.last
  · rw [valid.freeChain_eq]
    intro none
    refine ⟨?_, free.empty none⟩
    rw [free.first, none]
    rfl

theorem HandleBase.Sound.allocSafe
    (sound : base.Sound) :
    base.AllocSafe := by
  intro pvData eType eFlag hParent outcome after result allocated
  obtain ⟨chain, batch, kids, rank, valid, _⟩ := sound
  obtain ⟨failures, begin⟩ := base.beginBatchAlloc_eq
  rw [begin] at allocated
  rw [valid.batchPending_eq]
  rcases (valid.withFailures failures).allocHandle pvData eType eFlag hParent
      outcome with
    ⟨_, _, error, returned, _, fails⟩ |
    ⟨grown, _, _, index, returned, _, notBatched, _, allocates⟩
  · obtain ⟨rfl, rfl⟩ := Prod.mk.inj (returned.symm.trans allocated)
    refine ⟨fails.grown.outside, ?_⟩
    intro hHandle impossible
    cases impossible
  · obtain ⟨rfl, rfl⟩ := Prod.mk.inj (returned.symm.trans allocated)
    have total := allocates.placed.total
    refine ⟨?_, ?_⟩
    · intro other beyond
      rw [total] at beyond
      have different : other ≠ index := fun same =>
        Nat.not_lt.mpr beyond (same ▸ allocates.inside)
      rw [allocates.placed.others other different]
      exact allocates.grow.outside other beyond
    · intro hHandle same
      obtain rfl := Except.ok.inj same
      refine ⟨index, rfl, ?_, allocates.unused, notBatched⟩
      rw [total]
      exact allocates.inside

/-! ## Runs -/

/-- A call that does not lose the chain of free structures. -/
def HandleOp.GrowthSafe (base : HandleBase) : HandleOp → Prop
  | .newBatch ui32BatchSize outcome => base.GrowthSafe ui32BatchSize outcome
  | _ => True

/-- Each call of the sequence meets the condition where it is made. -/
def GrowthSafeRun : HandleBase → List HandleOp → Prop
  | _, [] => True
  | base, op :: ops =>
    op.GrowthSafe base ∧
      ∀ after result, base.step op = some (after, result) →
        GrowthSafeRun after ops

/-- Every call returns, has its effect, and keeps the base sound. -/
theorem HandleBase.Sound.step
    {base : HandleBase}
    (sound : base.Sound)
    {op : HandleOp}
    (safe : op.GrowthSafe base) :
    ∃ after result, base.step op = some (after, result) ∧ after.Sound ∧
      CallEffect base after op result := by
  have unchanged : ∀ {op result}, op.allocates = false →
      base.Sound ∧ CallEffect base base op result := fun noAlloc =>
    ⟨sound, .same noAlloc (KeepsHandles.refl base)⟩
  cases op with
  | alloc pvData eType eFlag outcome =>
    obtain ⟨after, result, returned, kept, allocated⟩ :=
      sound.pvrsrvAllocHandle pvData eType eFlag outcome
    refine ⟨after, result.map .handle, ?_, kept, .alloc allocated⟩
    simp only [HandleBase.step, returned]
  | allocSub pvData eType eFlag hParent outcome =>
    obtain ⟨after, result, returned, kept, effect⟩ :=
      sound.pvrsrvAllocSubHandle pvData eType eFlag hParent outcome
    refine ⟨after, result.map .handle, ?_, kept, ?_⟩
    · simp only [HandleBase.step, returned]
    · rcases effect with ⟨error, lost, rfl, same⟩ | ⟨parent, found, allocated⟩
      · exact .noParent lost same
      · exact .allocSub found allocated
  | lookup hHandle eType | find pvData eType | getParent hHandle eType =>
    exact ⟨base, _, rfl, unchanged rfl⟩
  | lookupSub hHandle eType hAncestor =>
    have ⟨_, _, _, _, valid, _⟩ := sound
    obtain ⟨result, returned, _⟩ := valid.family.pvrsrvLookupSubHandle
      valid.sized hHandle eType hAncestor
    refine ⟨base, result.map .data, ?_, unchanged rfl⟩
    simp only [HandleBase.step, returned, Option.map_some]
  | lookupAndRelease hHandle eType | release hHandle eType =>
    simp only [HandleBase.step, HandleBase.pvrsrvLookupAndReleaseHandle,
      HandleBase.pvrsrvReleaseHandle]
    cases found : base.getHandleStructure hHandle eType with
    | error error => exact ⟨base, _, rfl, unchanged rfl⟩
    | ok index =>
      obtain ⟨after, _, _, result, kept, _, freed⟩ :=
        sound.freeHandle (getHandleStructure_ok.mp found).2.1
      simp only [result]
      exact ⟨after, _, rfl, kept, .freed rfl freed⟩
  | newBatch ui32BatchSize outcome =>
    obtain ⟨after, result, returned, kept, keeps⟩ :=
      sound.pvrsrvNewHandleBatch safe
    refine ⟨after, result.map fun _ => .nothing, ?_, kept, .same rfl keeps⟩
    simp only [HandleBase.step, returned]
  | commitBatch =>
    obtain ⟨after, result, returned, kept, ends⟩ :=
      sound.handleBatchCommitOrRelease true
    exact ⟨after, _, by simp only [HandleBase.step, returned]; rfl, kept,
      .ended id ends⟩
  | releaseBatch =>
    obtain ⟨after, result, returned, kept, ends⟩ :=
      sound.handleBatchCommitOrRelease false
    exact ⟨after, _, by simp only [HandleBase.step, returned]; rfl, kept,
      .ended id ends⟩

theorem HandleBase.Sound.run
    (sound : base.Sound)
    {ops : List HandleOp}
    (safe : GrowthSafeRun base ops) :
    ∃ after, base.run ops = some after ∧ after.Sound := by
  induction ops generalizing base with
  | nil => exact ⟨base, rfl, sound⟩
  | cons op ops ih =>
    obtain ⟨first, others⟩ := safe
    obtain ⟨middle, result, returned, kept, _⟩ := sound.step first
    obtain ⟨after, ran, stillSound⟩ := ih kept (others middle result returned)
    refine ⟨after, ?_, stillSound⟩
    simp only [HandleBase.run, returned]
    exact ran

/-- Every run without unsafe growth returns, and leaves the chain of free
structures as it should be. -/
theorem run_freeListOk
    (memory : Nat → Handle)
    (ui32MaxHandle : Nat)
    (ops : List HandleOp)
    (safe : GrowthSafeRun (create memory ui32MaxHandle) ops) :
    ∃ base, (create memory ui32MaxHandle).run ops = some base ∧
      base.FreeListOk ∧ base.AllocSafe := by
  obtain ⟨base, ran, sound⟩ := (sound_create memory ui32MaxHandle).1.run safe
  exact ⟨base, ran, sound.freeListOk, sound.allocSafe⟩

/-! ## Unsafe growth -/

/-- From the first new structure on, the links lead through the new blocks. -/
theorem iterate_nextFree_withBlocks
    (handles : after.handles = (base.withBlocks count).handles)
    {steps : Nat}
    (inside : base.ui32TotalHandCount + steps ≤ count) :
    after.nextFree^[steps] base.ui32TotalHandCount =
      base.ui32TotalHandCount + steps := by
  induction steps with
  | zero => rfl
  | succ steps ih =>
    rw [Function.iterate_succ_apply', ih (by omega),
      HandleBase.nextFree, handles,
      base.withBlocks_new (by omega) (by omega)]
    rfl

/-- A chain that starts anew at the new blocks, but counts more structures than
they have, leads out of the array. -/
theorem not_freeListOk_of_restart
    (more : base.ui32TotalHandCount < count)
    (some : 0 < base.ui32FreeHandCount)
    (handles : after.handles = (base.withBlocks count).handles)
    (total : after.ui32TotalHandCount = count)
    (first : after.ui32FirstFreeIndex = base.ui32TotalHandCount)
    (free : after.ui32FreeHandCount =
      base.ui32FreeHandCount + (count - base.ui32TotalHandCount)) :
    ¬ after.FreeListOk := by
  intro listOk
  have reached := iterate_nextFree_withBlocks handles
    (show base.ui32TotalHandCount + (count - base.ui32TotalHandCount) ≤ count
      by omega)
  have member : count ∈ after.freeChain := by
    rw [HandleBase.freeChain, List.mem_iterate, first, free]
    refine ⟨count - base.ui32TotalHandCount, by omega, ?_⟩
    rw [reached]
    omega
  have inside := ((listOk.mem_freeChain count).mp member).1
  rw [total] at inside
  exact Nat.lt_irrefl count inside

/-- A batch that makes the array grow while structure 0 is the first free one
loses the chain. -/
theorem HandleBase.Sound.pvrsrvNewHandleBatch_unsafe
    (sound : base.Sound)
    {ui32BatchSize : Nat}
    {outcome : AllocOutcome}
    (growth : ¬ base.GrowthSafe ui32BatchSize outcome) :
    ∃ after,
      base.pvrsrvNewHandleBatch ui32BatchSize outcome = (after, .ok ()) ∧
        ¬ after.FreeListOk := by
  simp only [HandleBase.GrowthSafe, Classical.not_imp] at growth
  obtain ⟨first, some, short, notBatched, succeeds, grows⟩ := growth
  obtain ⟨count, increased⟩ := Option.ne_none_iff_exists'.mp grows
  obtain ⟨chain, batch, kids, rank, valid, _⟩ := sound
  obtain ⟨more, _, aligned⟩ := increasedCount_bounds valid.sized
    (Nat.sub_pos_of_lt short) increased
  have grown := HandleBase.reallocHandleArray_eq valid.sized more aligned
  rw [if_pos first] at grown
  have positive : ui32BatchSize ≠ 0 := by omega
  unfold HandleBase.pvrsrvNewHandleBatch
  simp only [notBatched, Bool.false_eq_true, if_false, if_neg positive,
    HandleBase.ensureFreeHandles, gt_iff_lt, if_pos short,
    HandleBase.increaseHandleArraySize, increased, succeeds, grown]
  exact ⟨_, rfl, not_freeListOk_of_restart more some rfl rfl rfl rfl⟩

/-- A handle structure of memory that is cleared. -/
def clearedHandle : Handle where
  eType := 0
  pvData := 0
  ui32NextIndexPlusOne := 0
  batched := false
  partiallyFree := false
  eFlag := ⟨false, false, false⟩
  sChildren := ⟨0, 0, 0⟩
  sSiblings := ⟨0, 0, 0⟩

/-- A batch of 1 that is released unused, and a batch of 257: structure 0 is
free, but not in the chain any more. -/
theorem run_freeList_lost :
    ∃ base,
      (create (fun _ => clearedHandle) defaultMaxHandle).run
          [.newBatch 1 ⟨true, true⟩, .releaseBatch,
            .newBatch 257 ⟨true, true⟩] = some base ∧
        ¬ base.FreeListOk := by
  have evaluated :
      ((create (fun _ => clearedHandle) defaultMaxHandle).run
          [.newBatch 1 ⟨true, true⟩, .releaseBatch,
            .newBatch 257 ⟨true, true⟩]).map (fun base =>
        decide (0 < base.ui32TotalHandCount ∧
          (base.handles 0).eType = handleTypeNone ∧
          0 ∉ base.batchPending ∧ 0 ∉ base.freeChain)) = some true := by
    decide +kernel
  obtain ⟨base, ran, lost⟩ := Option.map_eq_some_iff.mp evaluated
  obtain ⟨inside, free, notPending, missing⟩ := of_decide_eq_true lost
  refine ⟨base, ran, fun listOk => missing ?_⟩
  exact (listOk.mem_freeChain 0).mpr ⟨inside, free, notPending⟩

/-- The condition is met by a batch on a new base, a handle in it, and its
release. -/
theorem run_freeListOk_batch :
    ∃ base,
      (create (fun _ => clearedHandle) defaultMaxHandle).run
          [.newBatch 3 ⟨true, true⟩, .alloc 7 ⟨1, by decide⟩
            ⟨false, false, false⟩ ⟨true, true⟩, .releaseBatch] = some base ∧
        base.FreeListOk ∧ base.AllocSafe := by
  apply run_freeListOk
  refine ⟨?_, fun after result _ => ⟨trivial, fun after result _ =>
    ⟨trivial, fun after result _ => trivial⟩⟩⟩
  intro _ some
  exact absurd some (by decide)

end PvrServices.Handles
