import PvrServices.Handles.AnyBase

/-!
# The failure count of a batch

An allocation in a batch counts as failed until it succeeds.  No other call in
a batch changes its size or its failure count, on any base.
-/

namespace PvrServices.Handles

open Option (map_eq_some_iff)
open HandleBase

/-! ## Calls in a batch -/

/-- The call is an allocation, and its result an error. -/
def allocFails (op : HandleOp) : HandleResult → Bool
  | .error _ => op.allocates
  | .ok _ => false

namespace PurgingOp

/-- A call that neither commits nor releases the batch. -/
def InsideBatch : PurgingOp → Prop
  | .call op => op.InsideBatch
  | .purge _ => True

/-- `PVRSRVAllocHandle` and `PVRSRVAllocSubHandle`. -/
def allocates : PurgingOp → Bool
  | .call op => op.allocates
  | .purge _ => false

/-- The call is an allocation, and its result an error. -/
def allocFails : PurgingOp → HandleResult → Bool
  | .call op, result => Handles.allocFails op result
  | .purge _, _ => false

end PurgingOp

/-- Some allocation of the calls fails. -/
def HandleBase.someAllocFails : HandleBase → List HandleOp → Bool
  | _, [] => false
  | base, op :: ops =>
    match base.step op with
    | none => false
    | some (after, result) =>
      allocFails op result || after.someAllocFails ops

/-- Some allocation of the calls fails. -/
def AnyBase.someAllocFails : AnyBase → List PurgingOp → Bool
  | _, [] => false
  | any, op :: ops =>
    match any.step op with
    | none => false
    | some (after, result) =>
      op.allocFails result || after.someAllocFails ops

/-! ## The size of the batch and its failure count -/

/-- The bases agree in the size of the batch and in its failure count. -/
structure SameBatch (before after : HandleBase) : Prop where
  size : after.ui32HandBatchSize = before.ui32HandBatchSize
  failures : after.ui32BatchHandAllocFailures =
    before.ui32BatchHandAllocFailures

namespace SameBatch

variable {before middle after base : HandleBase} {osAllocMem : Bool}

theorem refl (base : HandleBase) : SameBatch base base :=
  ⟨rfl, rfl⟩

theorem trans
    (first : SameBatch before middle)
    (second : SameBatch middle after) :
    SameBatch before after where
  size := second.size.trans first.size
  failures := second.failures.trans first.failures

theorem of_sameData
    (same : SameData before after) :
    SameBatch before after := by
  rw [same.fields]
  exact ⟨rfl, rfl⟩

theorem handlesBatched
    (same : SameBatch before after) :
    after.handlesBatched = before.handlesBatched :=
  handlesBatched_congr same.size

theorem removeFromHash (base : HandleBase) (index : Nat) :
    SameBatch base (base.removeFromHash index) := by
  unfold HandleBase.removeFromHash
  split_ifs
  · exact ⟨rfl, rfl⟩
  · exact refl base

theorem appendFree (base : HandleBase) (index : Nat) :
    SameBatch base (base.appendFree index) := by
  unfold HandleBase.appendFree
  split_ifs
  · exact ⟨rfl, rfl⟩
  · exact ⟨rfl, rfl⟩

theorem retireHandle (base : HandleBase) (index : Nat) :
    SameBatch base (base.retireHandle index) := by
  unfold HandleBase.retireHandle
  simp only
  split_ifs
  · exact ⟨rfl, rfl⟩
  · refine trans ?_ (appendFree _ index)
    exact ⟨rfl, rfl⟩

theorem freeHandle
    {index : Nat}
    (freed : base.freeHandle index = some after) :
    SameBatch base after :=
  HandleBase.freeHandle_frame refl trans
    (fun base index => (removeFromHash base index).trans
      (of_sameData (SameData.unlinkFromParent _ index)))
    retireHandle freed

theorem reallocHandleArray
    {ui32NewCount : Nat}
    (grown : base.reallocHandleArray ui32NewCount osAllocMem = .ok after) :
    SameBatch base after := by
  unfold HandleBase.reallocHandleArray at grown
  simp only at grown
  split_ifs at grown with same
  · cases grown
    exact refl _
  · cases grown
    exact ⟨rfl, rfl⟩
  · cases grown
    exact ⟨rfl, rfl⟩

theorem ensureFreeHandles
    {ui32Free : Nat}
    (ensured : base.ensureFreeHandles ui32Free osAllocMem = .ok after) :
    SameBatch base after := by
  unfold HandleBase.ensureFreeHandles HandleBase.increaseHandleArraySize
    at ensured
  split_ifs at ensured with short
  · split at ensured
    · cases ensured
    · exact reallocHandleArray ensured
  · cases ensured
    exact refl _

theorem takeFirstFree (base : HandleBase) :
    SameBatch base base.takeFirstFree := by
  unfold HandleBase.takeFirstFree
  simp only
  split_ifs
  · exact ⟨rfl, rfl⟩
  · exact ⟨rfl, rfl⟩

theorem initHandle
    (base : HandleBase)
    (index pvData : Nat)
    (eType : HandleType)
    (eFlag : AllocFlag) :
    SameBatch base (base.initHandle index pvData eType eFlag) := by
  unfold HandleBase.initHandle
  simp only
  split_ifs
  · exact ⟨rfl, rfl⟩
  · exact ⟨rfl, rfl⟩

theorem allocHandle
    (base : HandleBase)
    (pvData : Nat)
    (eType : HandleType)
    (eFlag : AllocFlag)
    (hParent : Nat)
    (outcome : AllocOutcome) :
    SameBatch base
      (base.allocHandle pvData eType eFlag hParent outcome).1 := by
  unfold HandleBase.allocHandle
  cases ensured : base.ensureFreeHandles 1 outcome.osAllocMem with
  | error error => exact refl base
  | ok grown =>
    have same := ensureFreeHandles ensured
    simp only
    split_ifs
    · exact same
    · exact (same.trans (takeFirstFree grown)).trans (initHandle ..)
    · refine (same.trans ?_).trans (initHandle ..)
      refine trans ?_ (takeFirstFree _)
      exact ⟨rfl, rfl⟩

end SameBatch

namespace SameBatch

variable {purging after : PurgingBase} {osAllocMem : Bool}

theorem retirePurging (purging : PurgingBase) (index : Nat) :
    SameBatch purging.base (purging.retireHandle index).base := by
  unfold PurgingBase.retireHandle
  simp only
  split_ifs
  · exact ⟨rfl, rfl⟩
  · exact ⟨rfl, rfl⟩

theorem freePurging
    {index : Nat}
    (freed : purging.freeHandle index = some after) :
    SameBatch purging.base after.base := by
  let related (before after : PurgingBase) : Prop :=
    SameBatch before.base after.base
  have reflexive : ∀ now, related now now := fun now => refl now.base
  have detach : ∀ now index,
      related now (PurgingBase.freeSteps.detach now index) :=
    fun now index => (removeFromHash now.base index).trans
      (of_sameData (SameData.unlinkFromParent _ index))
  have retire : ∀ now index,
      related now (PurgingBase.freeSteps.retire now index) := retirePurging
  exact (TreeRelease.release_frame reflexive trans detach retire _).1 _ _ _
    freed

theorem reallocPurging
    {ui32NewCount : Nat}
    (changed : purging.reallocHandleArray ui32NewCount osAllocMem =
      .ok after) :
    SameBatch purging.base after.base := by
  unfold PurgingBase.reallocHandleArray at changed
  simp only at changed
  split_ifs at changed
  · cases changed
    exact refl _
  -- an array that grows, one that is given back, and one that gets smaller
  · cases changed
    exact ⟨rfl, rfl⟩
  · cases changed
    exact ⟨rfl, rfl⟩
  · cases changed
    exact ⟨rfl, rfl⟩
  · cases changed
    exact ⟨rfl, rfl⟩

theorem ensurePurging
    {ui32Free : Nat}
    (ensured : purging.ensureFreeHandles ui32Free osAllocMem = .ok after) :
    SameBatch purging.base after.base := by
  unfold PurgingBase.ensureFreeHandles PurgingBase.increaseHandleArraySize
    at ensured
  split_ifs at ensured with short
  · split at ensured
    · cases ensured
    · exact reallocPurging ensured
  · cases ensured
    exact refl _

theorem purge (purging : PurgingBase) (osAllocMem : Bool) :
    SameBatch purging.base (purging.pvrsrvPurgeHandles osAllocMem).1.base := by
  unfold PurgingBase.pvrsrvPurgeHandles
  simp only
  split_ifs
  · exact refl _
  · split
    · exact refl _
    · rename_i shrunk
      exact reallocPurging shrunk
  · exact refl _

theorem placeHandle
    (purging : PurgingBase)
    (ui32NewIndex pointed pvData : Nat)
    (eType : HandleType)
    (eFlag : AllocFlag) :
    SameBatch purging.base
      (purging.placeHandle ui32NewIndex pointed pvData eType eFlag).base := by
  have placed := initHandle { purging.base with
    ui32FreeHandCount := oneLess purging.base.ui32FreeHandCount } pointed
      pvData eType eFlag
  exact ⟨placed.size, placed.failures⟩

theorem allocPurging
    {pvData hParent : Nat}
    {eType : HandleType}
    {eFlag : AllocFlag}
    {outcome : AllocOutcome}
    {result : Except HandleError Nat}
    (allocated : purging.allocHandle pvData eType eFlag hParent outcome =
      some (after, result)) :
    SameBatch purging.base after.base := by
  unfold PurgingBase.allocHandle at allocated
  cases ensured : purging.ensureFreeHandles 1 outcome.osAllocMem with
  | error error =>
    rw [ensured] at allocated
    cases allocated
    exact refl _
  | ok grown =>
    have same := ensurePurging ensured
    rw [ensured] at allocated
    simp only at allocated
    split_ifs at allocated
    · cases allocated
      exact same.trans ⟨rfl, rfl⟩
    all_goals
      split at allocated
      · cases allocated
      · cases allocated
        refine (same.trans ?_).trans (placeHandle ..)
        exact ⟨rfl, rfl⟩

end SameBatch

/-- An allocation counts itself as failed, and takes that back when it
succeeds. -/
inductive Bracketed (base : HandleBase) :
    HandleBase → Except HandleError Nat → Prop where
  | fails
      {after : HandleBase} {error : HandleError}
      (same : SameBatch base.beginBatchAlloc after) :
      Bracketed base after (.error error)
  | works
      {middle : HandleBase} {hHandle : Nat}
      (same : SameBatch base.beginBatchAlloc middle) :
      Bracketed base middle.endBatchAlloc (.ok hHandle)

namespace Bracketed

section

variable (base : HandleBase) (pvData : Nat) (eType : HandleType)
  (eFlag : AllocFlag)

theorem pvrsrvAllocHandle
    (outcome : AllocOutcome) :
    Bracketed base (base.pvrsrvAllocHandle pvData eType eFlag outcome).1
      (base.pvrsrvAllocHandle pvData eType eFlag outcome).2 := by
  have begun := SameBatch.refl base.beginBatchAlloc
  have allocated := SameBatch.allocHandle base.beginBatchAlloc pvData eType
    eFlag 0 outcome
  unfold HandleBase.pvrsrvAllocHandle
  simp only
  split
  · split
    · exact .fails begun
    · split_ifs
      · exact .works begun
      · exact .fails begun
  · rcases result : base.beginBatchAlloc.allocHandle pvData eType eFlag 0
      outcome with ⟨after, error | hHandle⟩
    · rw [result] at allocated
      exact .fails allocated
    · rw [result] at allocated
      exact .works allocated

theorem pvrsrvAllocSubHandle
    (hParent : Nat)
    (outcome : AllocOutcome) :
    Bracketed base
      (base.pvrsrvAllocSubHandle pvData eType eFlag hParent outcome).1
      (base.pvrsrvAllocSubHandle pvData eType eFlag hParent outcome).2 := by
  have begun := SameBatch.refl base.beginBatchAlloc
  have allocated := SameBatch.allocHandle base.beginBatchAlloc pvData eType
    eFlag (if eFlag.priv then hParent else 0) outcome
  unfold HandleBase.pvrsrvAllocSubHandle
  simp only
  split
  · exact .fails begun
  · rename_i parent _
    split
    · split
      · exact .fails begun
      · split_ifs
        · exact .works begun
        · exact .fails begun
    · rcases result : base.beginBatchAlloc.allocHandle pvData eType eFlag
        (if eFlag.priv then hParent else 0) outcome with
        ⟨after, error | hHandle⟩
      · rw [result] at allocated
        exact .fails allocated
      · rw [result] at allocated
        have adopted := SameBatch.of_sameData
          (SameData.adoptChild after parent (handleToIndex hHandle))
        exact .works (allocated.trans adopted)

end

section

variable {purging after : PurgingBase} {pvData : Nat} {eType : HandleType}
  {eFlag : AllocFlag} {outcome : AllocOutcome}
  {result : Except HandleError Nat}

theorem allocPurging
    (allocated : purging.pvrsrvAllocHandle pvData eType eFlag outcome =
      some (after, result)) :
    Bracketed purging.base after.base result := by
  have begun := SameBatch.refl purging.base.beginBatchAlloc
  unfold PurgingBase.pvrsrvAllocHandle at allocated
  simp only at allocated
  split at allocated
  · split at allocated
    · cases allocated
      exact .fails begun
    · split_ifs at allocated
      · cases allocated
        exact .works begun
      · cases allocated
        exact .fails begun
  · split at allocated
    · cases allocated
    · rename_i tried
      cases allocated
      exact .fails (SameBatch.allocPurging tried)
    · rename_i made
      cases allocated
      exact .works (SameBatch.allocPurging made)

theorem allocSubPurging
    {hParent : Nat}
    (allocated : purging.pvrsrvAllocSubHandle pvData eType eFlag hParent
      outcome = some (after, result)) :
    Bracketed purging.base after.base result := by
  have begun := SameBatch.refl purging.base.beginBatchAlloc
  unfold PurgingBase.pvrsrvAllocSubHandle at allocated
  simp only at allocated
  split at allocated
  · cases allocated
    exact .fails begun
  · rename_i parent _
    split at allocated
    · split at allocated
      · cases allocated
        exact .fails begun
      · split_ifs at allocated
        · cases allocated
          exact .works begun
        · cases allocated
          exact .fails begun
    · split at allocated
      · cases allocated
      · rename_i tried
        cases allocated
        exact .fails (SameBatch.allocPurging tried)
      · rename_i middle hHandle made
        cases allocated
        have adopted := SameBatch.of_sameData
          (SameData.adoptChild middle.base parent (handleToIndex hHandle))
        exact .works ((SameBatch.allocPurging made).trans adopted)

end

variable {base after : HandleBase} {result : Except HandleError Nat}

theorem beginBatchAlloc_size (base : HandleBase) :
    base.beginBatchAlloc.ui32HandBatchSize = base.ui32HandBatchSize := by
  obtain ⟨failures, begin⟩ := base.beginBatchAlloc_eq
  rw [begin]

theorem size (bracketed : Bracketed base after result) :
    after.ui32HandBatchSize = base.ui32HandBatchSize := by
  cases bracketed with
  | fails same => rw [same.size, beginBatchAlloc_size]
  | @works middle _ same =>
    obtain ⟨failures, ended⟩ := middle.endBatchAlloc_eq
    rw [ended]
    exact same.size.trans (beginBatchAlloc_size base)

/-- Without a batch there is no count. -/
theorem unbatched
    (bracketed : Bracketed base after result)
    (notBatched : base.handlesBatched = false) :
    after.ui32BatchHandAllocFailures = base.ui32BatchHandAllocFailures := by
  have begun : base.beginBatchAlloc = base := by
    rw [HandleBase.beginBatchAlloc, notBatched]
    exact if_neg Bool.false_ne_true
  cases bracketed with
  | fails same =>
    rw [begun] at same
    exact same.failures
  | works same =>
    rw [begun] at same
    rw [HandleBase.endBatchAlloc, same.handlesBatched, notBatched]
    exact same.failures

/-- An allocation that succeeds in a batch without failures leaves it so. -/
theorem succeeds
    (bracketed : Bracketed base after result)
    (batched : base.handlesBatched = true)
    (none : base.ui32BatchHandAllocFailures = 0)
    (noError : ∀ error, result ≠ .error error) :
    after.ui32BatchHandAllocFailures = 0 := by
  have begun : base.beginBatchAlloc =
      { base with ui32BatchHandAllocFailures := 1 } := by
    simp [HandleBase.beginBatchAlloc, batched, none]
  cases bracketed with
  | fails same => exact absurd rfl (noError _)
  | works same =>
    rw [begun] at same
    rw [HandleBase.endBatchAlloc, if_pos (same.handlesBatched.trans batched)]
    simp only [same.failures]
    rfl

end Bracketed

/-! ## One call -/

/-- Outside a batch the failure count is zero. -/
def HandleBase.NoStaleFailures (base : HandleBase) : Prop :=
  base.handlesBatched = false → base.ui32BatchHandAllocFailures = 0

variable {base after last : HandleBase} {result : HandleResult} {op : HandleOp}
  {ops : List HandleOp}

theorem Bracketed.noStaleFailures
    {result : Except HandleError Nat}
    (bracketed : Bracketed base after result)
    (noStale : base.NoStaleFailures) :
    after.NoStaleFailures := by
  intro notBatched
  rw [handlesBatched_congr bracketed.size] at notBatched
  rw [bracketed.unbatched notBatched]
  exact noStale notBatched

theorem SameBatch.noStaleFailures
    (same : SameBatch base after)
    (noStale : base.NoStaleFailures) :
    after.NoStaleFailures := by
  intro notBatched
  rw [same.handlesBatched] at notBatched
  rw [same.failures]
  exact noStale notBatched

/-- The calls on a handle base, by what they do to the batch. -/
inductive BatchStep
    (base after : HandleBase) (op : PurgingOp) (result : HandleResult) :
    Prop where
  | allocation
      {returned : Except HandleError Nat}
      (allocates : op.allocates = true)
      (values : result = returned.map .handle)
      (bracketed : Bracketed base after returned)
  | other
      (inside : op.InsideBatch)
      (allocates : op.allocates = false)
      (same : SameBatch base after)
  | opened
      (notBatched : base.handlesBatched = false)
      (failures : after.ui32BatchHandAllocFailures =
        base.ui32BatchHandAllocFailures)
  | closed
      (outside : ¬ op.InsideBatch)
      (noStale : base.NoStaleFailures → after.NoStaleFailures)

/-- Committing or releasing a batch clears the failure count. -/
theorem handleBatchCommitOrRelease_noStaleFailures
    {bCommit : Bool}
    {result : Except HandleError Unit}
    (ended : base.handleBatchCommitOrRelease bCommit = some (after, result))
    (noStale : base.NoStaleFailures) :
    after.NoStaleFailures := by
  unfold HandleBase.handleBatchCommitOrRelease at ended
  split_ifs at ended with notBatched
  · cases ended
    exact noStale
  · simp only at ended
    split at ended
    · cases ended
    · cases ended
      exact fun _ => rfl

/-- A batch is opened; the failure count stays. -/
def OpensBatch (base opened : HandleBase) : Prop :=
  base.handlesBatched = false ∧ opened.handlesBatched = true ∧
    opened.ui32BatchHandAllocFailures = base.ui32BatchHandAllocFailures

theorem HandleBase.newBatch_cases
    (base : HandleBase)
    (ui32BatchSize : Nat)
    (outcome : AllocOutcome) :
    (∃ error, base.pvrsrvNewHandleBatch ui32BatchSize outcome =
      (base, .error error)) ∨
    ∃ opened, base.pvrsrvNewHandleBatch ui32BatchSize outcome =
        (opened, .ok ()) ∧ OpensBatch base opened := by
  unfold HandleBase.pvrsrvNewHandleBatch
  split_ifs with batched zero
  · exact .inl ⟨_, rfl⟩
  · exact .inl ⟨_, rfl⟩
  · cases ensured : base.ensureFreeHandles ui32BatchSize
        outcome.osAllocMem with
    | error error => exact .inl ⟨_, rfl⟩
    | ok grown =>
      refine .inr ⟨_, rfl, by simpa using batched, ?_,
        (SameBatch.ensureFreeHandles ensured).failures⟩
      exact decide_eq_true zero

theorem HandleBase.batchStep
    {op : HandleOp}
    (stepped : base.step op = some (after, result)) :
    BatchStep base after (.call op) result := by
  have unchanged : ∀ base, SameBatch base base := SameBatch.refl
  cases op with
  | alloc pvData eType eFlag outcome =>
    cases stepped
    exact .allocation rfl rfl
      (Bracketed.pvrsrvAllocHandle base pvData eType eFlag outcome)
  | allocSub pvData eType eFlag hParent outcome =>
    cases stepped
    exact .allocation rfl rfl
      (Bracketed.pvrsrvAllocSubHandle base pvData eType eFlag hParent
        outcome)
  | lookup hHandle eType | find pvData eType | getParent hHandle eType =>
    cases stepped
    exact .other trivial rfl (unchanged base)
  | lookupSub hHandle eType hAncestor =>
    obtain ⟨_, _, same⟩ := map_eq_some_iff.mp stepped
    cases same
    exact .other trivial rfl (unchanged base)
  | lookupAndRelease hHandle eType | release hHandle eType =>
    obtain ⟨_, released, same⟩ := map_eq_some_iff.mp stepped
    cases same
    refine .other trivial rfl ?_
    simp only [HandleBase.pvrsrvLookupAndReleaseHandle,
      HandleBase.pvrsrvReleaseHandle] at released
    split at released
    · cases released
      exact unchanged base
    · split at released
      · cases released
      · rename_i freed
        cases released
        exact SameBatch.freeHandle freed
  | newBatch ui32BatchSize outcome =>
    rw [HandleBase.step] at stepped
    rcases base.newBatch_cases ui32BatchSize outcome with
      ⟨error, refused⟩ | ⟨opened, opens, notBatched, _, failures⟩
    · rw [refused] at stepped
      cases stepped
      exact .other trivial rfl (unchanged base)
    · rw [opens] at stepped
      cases stepped
      exact .opened notBatched failures
  | commitBatch | releaseBatch =>
    obtain ⟨⟨last, returned⟩, ended, same⟩ := map_eq_some_iff.mp stepped
    cases same
    exact .closed (fun inside => inside)
      (handleBatchCommitOrRelease_noStaleFailures ended)

/-- Committing or releasing a batch clears the failure count. -/
theorem noStaleFailures_of_purging
    {purging after : PurgingBase}
    {bCommit : Bool}
    {result : Except HandleError Unit}
    (ended : purging.handleBatchCommitOrRelease bCommit =
      some (after, result))
    (noStale : purging.base.NoStaleFailures) :
    after.base.NoStaleFailures := by
  unfold PurgingBase.handleBatchCommitOrRelease at ended
  split_ifs at ended with notBatched
  · cases ended
    exact noStale
  · simp only at ended
    split at ended
    · cases ended
    · cases ended
      exact fun _ => rfl

theorem PurgingBase.newBatch_cases
    (purging : PurgingBase)
    (ui32BatchSize : Nat)
    (outcome : AllocOutcome) :
    (∃ error, purging.pvrsrvNewHandleBatch ui32BatchSize outcome =
      (purging, .error error)) ∨
    ∃ opened, purging.pvrsrvNewHandleBatch ui32BatchSize outcome =
        (opened, .ok ()) ∧ OpensBatch purging.base opened.base := by
  unfold PurgingBase.pvrsrvNewHandleBatch
  split_ifs with batched zero
  · exact .inl ⟨_, rfl⟩
  · exact .inl ⟨_, rfl⟩
  · cases ensured : purging.ensureFreeHandles ui32BatchSize
        outcome.osAllocMem with
    | error error => exact .inl ⟨_, rfl⟩
    | ok grown =>
      refine .inr ⟨_, rfl, by simpa using batched, ?_,
        (SameBatch.ensurePurging ensured).failures⟩
      exact decide_eq_true zero

theorem PurgingBase.batchStep
    {purging after : PurgingBase}
    {op : PurgingOp}
    (stepped : purging.step op = some (after, result)) :
    BatchStep purging.base after.base op result := by
  have unchanged := SameBatch.refl purging.base
  cases op with
  | purge osAllocMem =>
    cases stepped
    exact .other trivial rfl (SameBatch.purge purging osAllocMem)
  | call op =>
    cases op with
    | alloc pvData eType eFlag outcome =>
      obtain ⟨⟨middle, value⟩, allocated, same⟩ :=
        map_eq_some_iff.mp stepped
      cases same
      exact .allocation rfl rfl (Bracketed.allocPurging allocated)
    | allocSub pvData eType eFlag hParent outcome =>
      obtain ⟨⟨middle, value⟩, allocated, same⟩ :=
        map_eq_some_iff.mp stepped
      cases same
      exact .allocation rfl rfl (Bracketed.allocSubPurging allocated)
    | lookup hHandle eType | find pvData eType | getParent hHandle eType =>
      cases stepped
      exact .other trivial rfl unchanged
    | lookupSub hHandle eType hAncestor =>
      obtain ⟨_, _, same⟩ := map_eq_some_iff.mp stepped
      cases same
      exact .other trivial rfl unchanged
    | lookupAndRelease hHandle eType | release hHandle eType =>
      obtain ⟨_, released, same⟩ := map_eq_some_iff.mp stepped
      cases same
      refine .other trivial rfl ?_
      simp only [PurgingBase.pvrsrvLookupAndReleaseHandle,
        PurgingBase.pvrsrvReleaseHandle] at released
      split at released
      · cases released
        exact unchanged
      · split at released
        · cases released
        · rename_i freed
          cases released
          exact SameBatch.freePurging freed
    | newBatch ui32BatchSize outcome =>
      rw [PurgingBase.step] at stepped
      rcases purging.newBatch_cases ui32BatchSize outcome with
        ⟨error, refused⟩ | ⟨opened, opens, notBatched, _, failures⟩
      · rw [refused] at stepped
        cases stepped
        exact .other trivial rfl unchanged
      · rw [opens] at stepped
        cases stepped
        exact .opened notBatched failures
    | commitBatch | releaseBatch =>
      obtain ⟨_, ended, same⟩ := map_eq_some_iff.mp stepped
      cases same
      exact .closed (fun inside => inside) (noStaleFailures_of_purging ended)

theorem AnyBase.batchStep
    {any after : AnyBase}
    {op : PurgingOp}
    (stepped : any.step op = some (after, result)) :
    BatchStep any.base after.base op result := by
  cases any with
  | plain base =>
    cases op with
    | call op =>
      obtain ⟨_, returned, same⟩ := map_eq_some_iff.mp stepped
      cases same
      exact HandleBase.batchStep returned
    | purge osAllocMem =>
      cases stepped
      exact .other trivial rfl (SameBatch.refl base)
  | purging base =>
    obtain ⟨_, returned, same⟩ := map_eq_some_iff.mp stepped
    cases same
    exact PurgingBase.batchStep returned

/-! ## What a call keeps -/

namespace BatchStep

variable {op : PurgingOp}

section

variable (batchStep : BatchStep base after op result)
include batchStep

theorem noStaleFailures
    (noStale : base.NoStaleFailures) :
    after.NoStaleFailures := by
  cases batchStep with
  | allocation _ _ bracketed => exact bracketed.noStaleFailures noStale
  | other _ _ same => exact same.noStaleFailures noStale
  | opened notBatched failures =>
    intro _
    rw [failures]
    exact noStale notBatched
  | closed _ kept => exact kept noStale

/-- The batch stays open. -/
theorem handlesBatched
    (inside : op.InsideBatch)
    (batched : base.handlesBatched = true) :
    after.handlesBatched = true := by
  cases batchStep with
  | allocation _ _ bracketed =>
    rw [handlesBatched_congr bracketed.size]
    exact batched
  | other _ _ same =>
    rw [same.handlesBatched]
    exact batched
  | opened notBatched _ =>
    rw [batched] at notBatched
    cases notBatched
  | closed outside _ => exact absurd inside outside

/-- A call that is no failing allocation counts no failure. -/
theorem failures
    (inside : op.InsideBatch)
    (batched : base.handlesBatched = true)
    (none : base.ui32BatchHandAllocFailures = 0)
    (succeeds : op.allocFails result = false) :
    after.ui32BatchHandAllocFailures = 0 := by
  cases batchStep with
  | allocation allocates values bracketed =>
    refine bracketed.succeeds batched none fun error isError => ?_
    rw [values, isError] at succeeds
    cases op with
    | call op => exact absurd (succeeds.symm.trans allocates) (by simp)
    | purge osAllocMem => cases allocates
  | other _ _ same =>
    rw [same.failures]
    exact none
  | opened notBatched _ =>
    rw [batched] at notBatched
    cases notBatched
  | closed outside _ => exact absurd inside outside

end

end BatchStep

/-! ## Runs -/

namespace AnyBase

variable {any last : AnyBase} {ops : List PurgingOp}

theorem run_noStaleFailures
    (noStale : any.base.NoStaleFailures)
    (ran : any.run ops = some last) :
    last.base.NoStaleFailures := by
  induction ops generalizing any with
  | nil =>
    cases ran
    exact noStale
  | cons op ops ih =>
    simp only [AnyBase.run] at ran
    split at ran
    · cases ran
    · rename_i after result stepped
      exact ih ((batchStep stepped).noStaleFailures noStale) ran

section

variable (inside : ∀ op ∈ ops, op.InsideBatch)
  (batched : any.base.handlesBatched = true)
include inside batched

theorem run_handlesBatched
    (ran : any.run ops = some last) :
    last.base.handlesBatched = true := by
  induction ops generalizing any with
  | nil =>
    cases ran
    exact batched
  | cons op ops ih =>
    simp only [AnyBase.run] at ran
    split at ran
    · cases ran
    · rename_i after result stepped
      refine ih ?_ ?_ ran
      · exact fun other member => inside other (List.mem_cons_of_mem op member)
      · exact (batchStep stepped).handlesBatched
          (inside op List.mem_cons_self) batched

/-- Calls without a failing allocation count no failure. -/
theorem run_failures
    (none : any.base.ui32BatchHandAllocFailures = 0)
    (noneFails : any.someAllocFails ops = false)
    (ran : any.run ops = some last) :
    last.base.ui32BatchHandAllocFailures = 0 := by
  induction ops generalizing any with
  | nil =>
    cases ran
    exact none
  | cons op ops ih =>
    simp only [AnyBase.run] at ran
    split at ran
    · cases ran
    · rename_i after result stepped
      simp only [AnyBase.someAllocFails, stepped, Bool.or_eq_false_iff]
        at noneFails
      have effect := batchStep stepped
      have opInside := inside op List.mem_cons_self
      refine ih ?_ (effect.handlesBatched opInside batched)
        (effect.failures opInside batched none noneFails.1) noneFails.2 ran
      exact fun other member => inside other (List.mem_cons_of_mem op member)

end

/-- The runs of a base without purging. -/
theorem run_plain (base : HandleBase) (ops : List HandleOp) :
    (plain base).run (ops.map .call) = (base.run ops).map plain ∧
      (plain base).someAllocFails (ops.map .call) =
        base.someAllocFails ops := by
  induction ops generalizing base with
  | nil => exact ⟨rfl, rfl⟩
  | cons op ops ih =>
    simp only [List.map_cons, AnyBase.run, AnyBase.step, HandleBase.run,
      AnyBase.someAllocFails, HandleBase.someAllocFails]
    cases base.step op with
    | none => exact ⟨rfl, rfl⟩
    | some stepped =>
      obtain ⟨ran, fails⟩ := ih stepped.1
      exact ⟨ran, congrArg (allocFails op stepped.2 || ·) fails⟩

end AnyBase

/-! ## Bases without purging -/

theorem step_handlesBatched
    (inside : op.InsideBatch)
    (batched : base.handlesBatched = true)
    (stepped : base.step op = some (after, result)) :
    after.handlesBatched = true :=
  (HandleBase.batchStep stepped).handlesBatched inside batched

theorem run_failures
    (inside : ∀ op ∈ ops, op.InsideBatch)
    (batched : base.handlesBatched = true)
    (none : base.ui32BatchHandAllocFailures = 0)
    (noneFails : base.someAllocFails ops = false)
    (ran : base.run ops = some last) :
    last.ui32BatchHandAllocFailures = 0 := by
  obtain ⟨sameRun, sameFails⟩ := AnyBase.run_plain base ops
  rw [ran] at sameRun
  have insidePlain : ∀ op ∈ ops.map PurgingOp.call, op.InsideBatch := by
    intro other member
    obtain ⟨op, isMember, rfl⟩ := List.mem_map.mp member
    exact inside op isMember
  let any : AnyBase := .plain base
  exact any.run_failures insidePlain batched none (sameFails.trans noneFails)
    sameRun

theorem noStaleFailures_create
    (memory : Nat → Handle)
    (ui32MaxHandle : Nat) :
    (create memory ui32MaxHandle).NoStaleFailures := by
  obtain ⟨max, fields, _⟩ := create_fields memory ui32MaxHandle
  rw [fields]
  exact fun _ => rfl

end PvrServices.Handles
