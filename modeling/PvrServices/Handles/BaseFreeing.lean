import PvrServices.Handles.Keys

/-!
# Freeing a handle base

`FreeHandleBase` releases a batch that was left open, frees the live handles
from the first structure on, and gives up the array.  The loop over the
structures ends early when all of them are free.
-/

namespace PvrServices.Handles

namespace HandleBase

/-- The loop of `FreeAllHandles` from structure `i` on, with the number of
structures it has left. -/
def freeAllLoop : Nat → HandleBase → Nat → Option HandleBase
  | 0, base, _ => some base
  | left + 1, base, i =>
    if (base.handles i).eType = handleTypeNone then
      freeAllLoop left base (i + 1)
    else
      match base.freeHandle i with
      | none => none
      | some base =>
        if base.ui32FreeHandCount = base.ui32TotalHandCount then
          some base
        else freeAllLoop left base (i + 1)

/-- `FreeAllHandles`. -/
def freeAllHandles (base : HandleBase) : Option HandleBase :=
  if base.ui32FreeHandCount = base.ui32TotalHandCount then some base
  else freeAllLoop base.ui32TotalHandCount base 0

/-- `FreeHandleArray`, which is `ReallocHandleArray` for no structures. -/
def freeHandleArray (base : HandleBase) :
    HandleBase × Except HandleError Unit :=
  if base.ui32TotalHandCount = 0 then
    (base, .ok ())
  else if base.ui32TotalHandCount % handleBlockSize ≠ 0 then
    (base, .error .invalidParams)
  else
    ({ base with
      ui32TotalHandCount := 0
      ui32FreeHandCount := base.ui32FreeHandCount - base.ui32TotalHandCount
      ui32FirstFreeIndex := 0
      ui32LastFreeIndexPlusOne := 0 }, .ok ())

/-- The batch that `FreeHandleBase` releases first.  It ignores the result. -/
def releaseLeftBatch (base : HandleBase) : Option HandleBase :=
  if base.handlesBatched then
    (base.handleBatchCommitOrRelease false).map Prod.fst
  else some base

/-- `FreeHandleBase`, with the base as it is when its hash table and its own
memory are given up. -/
def freeHandleBase (base : HandleBase) :
    Option (HandleBase × Except HandleError Unit) :=
  match base.releaseLeftBatch with
  | none => none
  | some base => base.freeAllHandles.map freeHandleArray

end HandleBase

open HandleBase

variable {base : HandleBase} {chain : List Nat} {start left i : Nat}
  {kids : Nat → List Nat} {rank : Nat → Nat}

/-- Without a batch, all structures are counted as free when no handle is
live. -/
theorem Valid.count_eq_iff
    (valid : Valid base chain start [] kids rank) :
    base.ui32FreeHandCount = base.ui32TotalHandCount ↔
      ∀ index, ¬ base.Live index := by
  have count : chain.toFinset.card = base.ui32FreeHandCount := by
    rw [List.toFinset_card_of_nodup valid.free.distinct, valid.free.count]
  have mem_chain : ∀ index, index ∈ chain.toFinset ↔ _ := fun index =>
    List.mem_toFinset.trans (valid.occupancy.mem_chain index)
  have inside : chain.toFinset ⊆ Finset.range base.ui32TotalHandCount :=
    fun other member => Finset.mem_range.mpr ((mem_chain other).mp member).1
  constructor
  · intro all index alive
    have full := Finset.eq_of_subset_of_card_le inside
      (by rw [Finset.card_range, count, all])
    have member : index ∈ chain.toFinset := by
      rw [full, Finset.mem_range]
      exact alive.1
    exact alive.2 ((mem_chain index).mp member).2.1
  · intro none
    rw [← count, ← Finset.card_range base.ui32TotalHandCount]
    refine congrArg Finset.card (inside.antisymm fun index below => ?_)
    have below := Finset.mem_range.mp below
    refine (mem_chain index).mpr ⟨below, ?_, List.not_mem_nil⟩
    by_contra some
    exact none index ⟨below, some⟩

/-- What is left of a base whose handles are freed. -/
structure Emptied (base : HandleBase) : Prop where
  valid : ∃ chain start kids rank, Valid base chain start [] kids rank
  noneLive : ∀ index, ¬ base.Live index
  hashOk : base.HashOk

/-- The loop frees the live handles from structure `i` on. -/
theorem Valid.freeAllLoop
    (valid : Valid base chain start [] kids rank)
    (hashOk : base.HashOk)
    (freedBelow : ∀ index < i, ¬ base.Live index)
    (reaches : i + left = base.ui32TotalHandCount) :
    ∃ after, HandleBase.freeAllLoop left base i = some after ∧
      Emptied after := by
  induction left generalizing base chain kids i with
  | zero =>
    refine ⟨base, rfl, ⟨chain, start, kids, rank, valid⟩, ?_, hashOk⟩
    intro index alive
    exact freedBelow index (by have := alive.1; omega) alive
  | succ left ih =>
    unfold HandleBase.freeAllLoop
    split_ifs with free
    · apply ih valid hashOk _ (by omega)
      intro index below alive
      rcases Nat.lt_succ_iff_lt_or_eq.mp below with earlier | rfl
      · exact freedBelow index earlier alive
      · exact alive.2 free
    · obtain ⟨after, otherChain, otherKids, removed, result, kept, freed⟩ :=
        valid.freeHandle ⟨by omega, free⟩
      simp only [result]
      have right := hashOk.freed freed
      split_ifs with all
      · exact ⟨after, rfl, ⟨_, _, _, _, kept⟩, kept.count_eq_iff.mp all, right⟩
      · have total := freed.total
        apply ih kept right _ (by omega)
        intro index below alive
        obtain ⟨before, notRemoved⟩ := (freed.live index).mp alive
        rcases Nat.lt_succ_iff_lt_or_eq.mp below with earlier | rfl
        · exact freedBelow index earlier before
        · exact notRemoved
            (freed.roots_subset index (List.mem_singleton_self _))

/-- A released batch is closed. -/
theorem handlesBatched_of_release
    {after : HandleBase}
    (released : base.releaseLeftBatch = some after) :
    after.handlesBatched = false := by
  unfold releaseLeftBatch at released
  split_ifs at released with batched
  · obtain ⟨⟨closed, result⟩, returned, rfl⟩ :=
      Option.map_eq_some_iff.mp released
    unfold handleBatchCommitOrRelease at returned
    simp only [batched, Bool.not_true, Bool.false_eq_true, if_false]
      at returned
    split at returned
    · cases returned
    · cases returned
      rfl
  · cases released
    simpa using batched

/-- Releasing the batch that was left open keeps the invariant and the entries
right. -/
theorem HandleBase.Sound.releaseLeftBatch
    (sound : base.Sound)
    (hashOk : base.HashOk) :
    ∃ after, base.releaseLeftBatch = some after ∧ after.Sound ∧
      after.HashOk := by
  unfold HandleBase.releaseLeftBatch
  split_ifs
  · obtain ⟨after, result, returned, kept, ends⟩ :=
      sound.handleBatchCommitOrRelease false
    exact ⟨after, by rw [returned]; rfl, kept, (ends.hashOk hashOk).1⟩
  · exact ⟨base, rfl, sound, hashOk⟩

/-- An emptied base gives up its array, and its hash table has no entries. -/
theorem Emptied.freeHandleArray
    (emptied : Emptied base) :
    ∃ after, base.freeHandleArray = (after, .ok ()) ∧
      after.ui32TotalHandCount = 0 ∧ after.ui32FreeHandCount = 0 ∧
      after.hashTab = fun _ => none := by
  obtain ⟨chain, start, kids, rank, valid⟩ := emptied.valid
  have noEntries : base.hashTab = fun _ => none := by
    funext key
    rw [Option.eq_none_iff_forall_ne_some]
    intro hHandle entry
    obtain ⟨index, _, alive, _⟩ := (emptied.hashOk key hHandle).mp entry
    exact emptied.noneLive index alive
  have all := valid.count_eq_iff.mpr emptied.noneLive
  unfold HandleBase.freeHandleArray
  rw [if_neg (not_not.mpr valid.sized.total_mod)]
  split_ifs with zero
  · exact ⟨base, rfl, zero, all.trans zero, noEntries⟩
  · exact ⟨_, rfl, rfl, Nat.sub_eq_zero_of_le all.le, noEntries⟩

/-- Freeing a sound base gives up all its structures and entries. -/
theorem HandleBase.Sound.freeHandleBase
    (sound : base.Sound)
    (hashOk : base.HashOk) :
    ∃ after, base.freeHandleBase = some (after, .ok ()) ∧
      after.ui32TotalHandCount = 0 ∧ after.ui32FreeHandCount = 0 ∧
      after.hashTab = fun _ => none := by
  obtain ⟨closed, released, kept, right⟩ := sound.releaseLeftBatch hashOk
  obtain ⟨chain, batch, kids, rank, valid, noBatch⟩ := kept
  obtain rfl := noBatch (handlesBatched_of_release released)
  have freesAll : ∃ empty, closed.freeAllHandles = some empty ∧
      Emptied empty := by
    unfold HandleBase.freeAllHandles
    split_ifs with all
    · exact ⟨closed, rfl, ⟨_, _, _, _, valid⟩,
        valid.count_eq_iff.mp all, right⟩
    · exact valid.freeAllLoop right (fun _ below => by cases below)
        (Nat.zero_add _)
  obtain ⟨empty, freed, emptied⟩ := freesAll
  obtain ⟨after, returned, fields⟩ := emptied.freeHandleArray
  refine ⟨after, ?_, fields⟩
  simp only [HandleBase.freeHandleBase, released, freed, Option.map_some,
    returned]

/-- A run whose values are exact keeps the hash table right. -/
theorem HandleBase.Sound.exactRun
    (sound : base.Sound)
    (hashOk : base.HashOk)
    {ops : List HandleOp}
    (exact : ExactRun base ops) :
    ∃ after, base.run ops = some after ∧ after.Sound ∧ after.HashOk := by
  induction ops generalizing base with
  | nil => exact ⟨base, rfl, sound, hashOk⟩
  | cons op ops ih =>
    obtain ⟨safe, isExact, others⟩ := exact
    obtain ⟨middle, result, taken⟩ := sound.keysStep hashOk safe isExact
    obtain ⟨after, ran, kept⟩ := ih taken.sound taken.hashOk
      (others middle result taken.returned)
    refine ⟨after, ?_, kept⟩
    simp only [HandleBase.run, taken.returned]
    exact ran

/-- After every run whose values are exact, with a batch open or not, the base
can be freed: the loop returns, no entry is left in the hash table when it is
deleted, and the array is given up. -/
theorem run_freeHandleBase
    (memory : Nat → Handle)
    (ui32MaxHandle : Nat)
    (ops : List HandleOp)
    (exact : ExactRun (create memory ui32MaxHandle) ops) :
    ∃ base after, (create memory ui32MaxHandle).run ops = some base ∧
      base.freeHandleBase = some (after, .ok ()) ∧
      after.ui32TotalHandCount = 0 ∧ after.ui32FreeHandCount = 0 ∧
      after.hashTab = fun _ => none := by
  obtain ⟨base, ran, sound, hashOk⟩ :=
    (sound_create memory ui32MaxHandle).1.exactRun
      (hashOk_create memory ui32MaxHandle) exact
  obtain ⟨after, freed⟩ := sound.freeHandleBase hashOk
  exact ⟨base, after, ran, freed⟩

/-- A handle and one below it, in a batch that is left open. -/
def openBatchOps (eType eSubType : HandleType) : List HandleOp :=
  [.newBatch 2 ⟨true, true⟩,
    .alloc 5 eType ⟨false, false, false⟩ ⟨true, true⟩,
    .allocSub 6 eSubType ⟨false, false, false⟩ 1 ⟨true, true⟩]

theorem run_freeHandleBase_openBatch :
    ∃ base after,
      (create (fun _ => clearedHandle) defaultMaxHandle).run
          (openBatchOps ⟨1, by decide⟩ ⟨2, by decide⟩) = some base ∧
        base.freeHandleBase = some (after, .ok ()) ∧
        after.ui32TotalHandCount = 0 ∧ after.ui32FreeHandCount = 0 ∧
        after.hashTab = fun _ => none := by
  apply run_freeHandleBase
  refine ⟨?_, by simp [HandleOp.Exact, HandleOp.handles], fun _ _ _ =>
    ⟨trivial, by simp [HandleOp.Exact, HandleOp.handles], fun _ _ _ =>
      ⟨trivial, by simp [HandleOp.Exact, HandleOp.handles],
        fun _ _ _ => trivial⟩⟩⟩
  intro _ some
  exact absurd some (by decide)

end PvrServices.Handles
