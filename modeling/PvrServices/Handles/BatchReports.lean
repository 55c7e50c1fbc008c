import PvrServices.Handles.BatchFailures

/-!
# What the commit of a batch reports

The commit frees the handles of a batch with failures, but clears the failure
count before it chooses its result.
-/

namespace PvrServices.Handles

open HandleBase

/-! ## What a batch holds -/

/-- The handles that an allocation has returned and that no call has released,
after one more call. -/
def HandleBase.heldAfter
    (op : HandleOp) (after : HandleBase) (result : HandleResult)
    (held : List Nat) :
    List Nat :=
  if op.allocates then
    match result with
    | .ok (.handle hHandle) => hHandle :: held
    | _ => held
  else if op.releases then
    held.filter fun hHandle =>
      handleToIndex hHandle < after.ui32TotalHandCount ∧
        (after.handles (handleToIndex hHandle)).eType ≠ handleTypeNone
  else held

/-- The same after a call of any kind. -/
def PurgingOp.heldAfter
    (op : PurgingOp) (after : HandleBase) (result : HandleResult)
    (held : List Nat) :
    List Nat :=
  match op with
  | .call op => HandleBase.heldAfter op after result held
  | .purge _ => held

namespace AnyBase

/-- The handles that the calls have allocated and not released. -/
def heldFrom : AnyBase → List PurgingOp → List Nat → List Nat
  | _, [], held => held
  | any, op :: ops, held =>
    match any.step op with
    | none => held
    | some (after, result) =>
      after.heldFrom ops (op.heldAfter after.base result held)

/-- `PVRSRVCommitHandleBatch` returns an error. -/
def commitFails (any : AnyBase) : Bool :=
  match any.step (.call .commitBatch) with
  | some (_, .error _) => true
  | _ => false

end AnyBase

/-- The commit of the batch that the calls `ops` leave in `last` returns an
error exactly if an allocation failed, and otherwise keeps what they hold. -/
def CommitReports
    (opened : AnyBase) (ops : List PurgingOp) (last : AnyBase) : Prop :=
  (last.commitFails = true ↔ opened.someAllocFails ops = true) ∧
    ∀ after value, last.step (.call .commitBatch) = some (after, .ok value) →
      ∀ hHandle ∈ opened.heldFrom ops [],
        after.base.Live (handleToIndex hHandle)

/-! ## Live handles -/

variable {base after opened : HandleBase} {outcome : AllocOutcome}
  {ui32BatchSize : Nat}

/-- A handle that an allocation returns is live, and so are the handles that
were live before. -/
theorem AllocResult.live
    {pvData : Nat}
    {eType : HandleType}
    {eFlag : AllocFlag}
    {key : HandKey}
    {parent : Nat}
    {shareable : Nat → Prop}
    {result : Except HandleError Nat}
    (bounded : after.Bounded)
    (allocated : AllocResult base after pvData eType eFlag key parent
      shareable outcome result) :
    (∀ index, base.Live index → after.Live index) ∧
      ∀ hHandle, result = .ok hHandle →
        after.Live (handleToIndex hHandle) := by
  cases allocated with
  | stale _ _ _ same | notShareable _ _ _ _ same | failed _ _ same =>
    refine ⟨fun index => (same.live index).mpr, fun _ impossible => ?_⟩
    cases impossible
  | shared _ _ found _ _ same =>
    refine ⟨fun index => (same.live index).mpr, ?_⟩
    rintro hHandle ⟨⟩
    obtain ⟨isIndex, alive, _⟩ := getHandleStructure_ok.mp found
    rw [← isIndex]
    exact (same.live _).mpr alive
  | @created index _ created =>
    refine ⟨fun other alive => (created.live other).mpr (Or.inl alive), ?_⟩
    rintro hHandle ⟨⟩
    have alive : after.Live index := (created.live index).mpr (Or.inr rfl)
    rw [handleToIndex_indexToHandle (bounded index alive)]
    exact alive

/-- A handle in a result that comes from an allocation is the one allocated. -/
theorem handle_of_map
    {result : Except HandleError Nat}
    {hHandle : Nat}
    (isHandle : result.map HandleValue.handle = .ok (.handle hHandle)) :
    result = .ok hHandle := by
  cases result with
  | error error => cases isHandle
  | ok value =>
    cases isHandle
    rfl

/-- No call in a batch frees a handle but a release. -/
theorem CallEffect.live
    {op : HandleOp}
    {result : HandleResult}
    (effect : CallEffect base after op result)
    (bounded : after.Bounded)
    (inside : op.InsideBatch) :
    (op.releases = false → ∀ index, base.Live index → after.Live index) ∧
      (op.allocates = true → ∀ hHandle, result = .ok (.handle hHandle) →
        after.Live (handleToIndex hHandle)) := by
  cases effect with
  | alloc allocated | allocSub _ allocated =>
    obtain ⟨kept, made⟩ := allocated.live bounded
    exact ⟨fun _ => kept, fun _ hHandle isHandle =>
      made hHandle (handle_of_map isHandle)⟩
  | noParent _ same =>
    refine ⟨fun _ index => (same.live index).mpr, fun _ _ impossible => ?_⟩
    cases impossible
  | same noAlloc keeps =>
    refine ⟨fun _ index => (keeps.live index).mpr, fun allocates => ?_⟩
    exact absurd (noAlloc.symm.trans allocates) Bool.false_ne_true
  | freed releases _ =>
    refine ⟨fun noRelease => ?_, fun allocates => ?_⟩
    · exact absurd (noRelease.symm.trans releases) Bool.false_ne_true
    · have none := HandleOp.not_releases allocates
      exact absurd (none.symm.trans releases) Bool.false_ne_true
  | ended outside _ => exact absurd inside outside

/-- What is held after one more call is live. -/
theorem PurgingOp.Effect.held_live
    {op : PurgingOp}
    {result : HandleResult}
    {held : List Nat}
    (effect : op.Effect base after result)
    (bounded : after.Bounded)
    (inside : op.InsideBatch)
    (alive : ∀ hHandle ∈ held, base.Live (handleToIndex hHandle)) :
    ∀ hHandle ∈ op.heldAfter after result held,
      after.Live (handleToIndex hHandle) := by
  intro hHandle member
  cases op with
  | purge osAllocMem =>
    have keeps : KeepsHandles base after := effect
    exact (keeps.live _).mpr (alive hHandle member)
  | call op =>
    obtain ⟨liveKept, allocatedLive⟩ :=
      CallEffect.live effect bounded inside
    simp only [PurgingOp.heldAfter, HandleBase.heldAfter] at member
    split_ifs at member with allocates releases
    · have noRelease := HandleOp.not_releases allocates
      split at member
      · rename_i value
        rcases List.mem_cons.mp member with rfl | before
        · exact allocatedLive allocates _ rfl
        · exact liveKept noRelease _ (alive hHandle before)
      · exact liveKept noRelease _ (alive hHandle member)
    · have stays := (List.mem_filter.mp member).2
      exact of_decide_eq_true stays
    · exact liveKept (by simpa using releases) _ (alive hHandle member)

/-- What the calls hold is live. -/
theorem AnyBase.Sound.heldFrom_live
    {any last : AnyBase}
    {ops : List PurgingOp}
    {held : List Nat}
    (sound : any.Sound)
    (safe : any.SafeRun ops)
    (inside : ∀ op ∈ ops, op.InsideBatch)
    (alive : ∀ hHandle ∈ held, any.base.Live (handleToIndex hHandle))
    (ran : any.run ops = some last) :
    last.Sound ∧
      ∀ hHandle ∈ any.heldFrom ops held,
        last.base.Live (handleToIndex hHandle) := by
  induction ops generalizing any held with
  | nil =>
    cases ran
    exact ⟨sound, alive⟩
  | cons op ops ih =>
    obtain ⟨after, result, stepped, kept, effect⟩ := sound.step safe.1
    simp only [AnyBase.run, stepped] at ran
    simp only [AnyBase.heldFrom, stepped]
    refine ih kept (safe.2 after result stepped) ?_ ?_ ran
    · exact fun other member => inside other (List.mem_cons_of_mem op member)
    · exact effect.held_live kept.bounded (inside op List.mem_cons_self)
        alive

/-! ## The commit -/

/-- A commit frees no handle on its way through the batch. -/
theorem keptByWalk_live (base : HandleBase) {rank : Nat → Nat} :
    KeptByWalk true rank fun current _ =>
      ∀ index, current.Live index ↔ base.Live index :=
  ⟨fun before after _ _ same eType _ live index =>
    (same.live eType index).trans (live index),
    fun impossible => by cases impossible⟩

/-- The commit of a batch without failures frees no handle. -/
theorem HandleBase.Sound.commit_live
    (sound : base.Sound)
    (batched : base.handlesBatched = true)
    (none : base.ui32BatchHandAllocFailures = 0) :
    ∃ after, base.handleBatchCommitOrRelease true = some (after, .ok ()) ∧
      after.Sound ∧ ∀ index, after.Live index ↔ base.Live index := by
  obtain ⟨chain, batch, kids, rank, valid, _⟩ := sound
  obtain ⟨middle, _, _, result, middleValid, live⟩ :=
    valid.commitOrReleaseLoop_walks (keptByWalk_live base)
      (fun _ => Iff.rfl) (Nat.le_succ_of_le valid.batch_length_le)
  unfold HandleBase.handleBatchCommitOrRelease
  simp only [batched, none, Bool.not_true, Bool.false_eq_true, if_false,
    decide_true, Bool.and_self, result]
  exact ⟨_, rfl, middleValid.closeBatch, live⟩

/-- The same with purging, whatever has been released of the batch. -/
theorem PurgingBase.Sound.commit_live
    {purging : PurgingBase}
    (sound : purging.Sound)
    (batched : purging.base.handlesBatched = true)
    (none : purging.base.ui32BatchHandAllocFailures = 0) :
    ∃ after, purging.handleBatchCommitOrRelease true = some (after, .ok ()) ∧
      ∀ index, after.base.Live index ↔ purging.base.Live index := by
  obtain ⟨batch, kids, rank, valid, _⟩ := sound
  obtain ⟨middle, result, live⟩ :=
    valid.walkable.commitOrReleaseLoop (keptByWalk_live purging.base)
      (fun _ => Iff.rfl) (Nat.le_succ_of_le
        (batch_length_le valid.flagged.distinct valid.flagged.inside))
  unfold PurgingBase.handleBatchCommitOrRelease
  simp only [batched, none, Bool.not_true, Bool.false_eq_true, if_false,
    decide_true, Bool.and_self, result]
  exact ⟨_, rfl, live⟩

namespace AnyBase

variable {any : AnyBase}

/-- The commit of a batch returns. -/
theorem Sound.commit_returns
    (sound : any.Sound) :
    ∃ after result, any.step (.call .commitBatch) = some (after, result) := by
  cases any with
  | plain base =>
    obtain ⟨after, result, returned, _⟩ :=
      HandleBase.Sound.handleBatchCommitOrRelease sound true
    simp only [AnyBase.step, HandleBase.step, returned]
    exact ⟨_, _, rfl⟩
  | purging base =>
    obtain ⟨after, result, returned, _⟩ :=
      PurgingBase.Sound.batchEnds sound true
    simp only [AnyBase.step, PurgingBase.step, returned]
    exact ⟨_, _, rfl⟩

theorem Sound.commit_live
    (sound : any.Sound)
    (batched : any.base.handlesBatched = true)
    (none : any.base.ui32BatchHandAllocFailures = 0)
    {after : AnyBase}
    {result : HandleResult}
    (committed : any.step (.call .commitBatch) = some (after, result)) :
    ∀ index, after.base.Live index ↔ any.base.Live index := by
  cases any with
  | plain base =>
    obtain ⟨last, returned, _, live⟩ :=
      HandleBase.Sound.commit_live sound batched none
    simp only [AnyBase.step, HandleBase.step, returned] at committed
    cases committed
    exact live
  | purging base =>
    obtain ⟨last, returned, live⟩ :=
      PurgingBase.Sound.commit_live sound batched none
    simp only [AnyBase.step, PurgingBase.step, returned] at committed
    cases committed
    exact live

/-- The commit of a batch returns no error. -/
theorem commitFails_of_batched
    (batched : any.base.handlesBatched = true) :
    any.commitFails = false := by
  cases any with
  | plain base =>
    have isBatched : base.handlesBatched = true := batched
    simp only [commitFails, AnyBase.step, HandleBase.step,
      HandleBase.handleBatchCommitOrRelease, isBatched, Bool.not_true,
      Bool.false_eq_true, if_false]
    split
    · rename_i impossible
      split at impossible
      · cases impossible
      · cases impossible
    · rfl
  | purging base =>
    have isBatched : base.base.handlesBatched = true := batched
    simp only [commitFails, AnyBase.step, PurgingBase.step,
      PurgingBase.handleBatchCommitOrRelease, isBatched, Bool.not_true,
      Bool.false_eq_true, if_false]
    split
    · rename_i impossible
      split at impossible
      · cases impossible
      · cases impossible
    · rfl

/-- A safe run is safe behind each of its states. -/
theorem SafeRun.behind
    {middle : AnyBase}
    {first second : List PurgingOp}
    (safe : any.SafeRun (first ++ second))
    (ran : any.run first = some middle) :
    any.SafeRun first ∧ middle.SafeRun second := by
  induction first generalizing any with
  | nil =>
    cases ran
    exact ⟨trivial, safe⟩
  | cons op ops ih =>
    obtain ⟨isSafe, others⟩ := safe
    simp only [AnyBase.run] at ran
    split at ran
    · cases ran
    · rename_i after result stepped
      refine ⟨⟨isSafe, fun next value same => ?_⟩,
        (ih (others after result stepped) ran).2⟩
      cases stepped.symm.trans same
      exact (ih (others after result stepped) ran).1

end AnyBase

theorem newBatch_handlesBatched
    (newBatch : base.pvrsrvNewHandleBatch ui32BatchSize outcome =
      (opened, .ok ())) :
    OpensBatch base opened := by
  rcases base.newBatch_cases ui32BatchSize outcome with
    ⟨error, refused⟩ | ⟨after, opens, effect⟩
  · cases refused.symm.trans newBatch
  · cases opens.symm.trans newBatch
    exact effect

theorem AnyBase.step_newBatch
    {any opened : AnyBase}
    {value : HandleValue}
    (newBatch : any.step (.call (.newBatch ui32BatchSize outcome)) =
      some (opened, .ok value)) :
    OpensBatch any.base opened.base := by
  cases any with
  | plain base =>
    rw [AnyBase.step, HandleBase.step] at newBatch
    rcases base.newBatch_cases ui32BatchSize outcome with
      ⟨error, refused⟩ | ⟨after, opens, effect⟩
    · rw [refused] at newBatch
      cases newBatch
    · rw [opens] at newBatch
      cases newBatch
      exact effect
  | purging base =>
    rw [AnyBase.step, PurgingBase.step] at newBatch
    rcases base.newBatch_cases ui32BatchSize outcome with
      ⟨error, refused⟩ | ⟨after, opens, effect⟩
    · rw [refused] at newBatch
      cases newBatch
    · rw [opens] at newBatch
      cases newBatch
      exact effect

/-- A batch that is open cannot grow the array a second time. -/
theorem growthSafe_of_batched
    (batched : base.handlesBatched = true)
    (op : HandleOp) :
    op.GrowthSafe base := by
  cases op with
  | newBatch ui32BatchSize outcome =>
    intro _ _ _ notBatched
    rw [batched] at notBatched
    cases notBatched
  | _ => trivial

/-- In every run on any base, the commit of a batch reports its failures
exactly if there are none.  If the run is safe, the commit also returns, and
keeps what the batch holds, if there are none. -/
theorem run_commitReports
    (bPurgingEnabled : Bool)
    (memory : Nat → Handle)
    (ui32MaxHandle : Nat)
    (before ops : List PurgingOp)
    (any opened last : AnyBase)
    (ui32BatchSize : Nat)
    (outcome : AllocOutcome)
    (value : HandleValue)
    (reached : (AnyBase.create bPurgingEnabled memory ui32MaxHandle).run
      before = some any)
    (newBatch : any.step (.call (.newBatch ui32BatchSize outcome)) =
      some (opened, .ok value))
    (inside : ∀ op ∈ ops, op.InsideBatch)
    (ran : opened.run ops = some last) :
    ((last.commitFails = true ↔ opened.someAllocFails ops = true) ↔
      opened.someAllocFails ops = false) ∧
    ((AnyBase.create bPurgingEnabled memory ui32MaxHandle).SafeRun
        (before ++ .call (.newBatch ui32BatchSize outcome) :: ops) →
      (last.step (.call .commitBatch)).isSome = true ∧
      (CommitReports opened ops last ↔
        opened.someAllocFails ops = false)) := by
  obtain ⟨notBatched, batched, failures⟩ := AnyBase.step_newBatch newBatch
  have lastBatched := AnyBase.run_handlesBatched inside batched ran
  have noError := AnyBase.commitFails_of_batched lastBatched
  have reports : (last.commitFails = true ↔
      opened.someAllocFails ops = true) ↔
      opened.someAllocFails ops = false := by
    rw [noError, Bool.eq_false_iff]
    constructor
    · intro same fails
      exact absurd (same.mpr fails) Bool.false_ne_true
    · intro succeeds
      exact iff_of_false Bool.false_ne_true succeeds
  refine ⟨reports, fun safe => ?_⟩
  obtain ⟨safeBefore, newBatchSafe, safeBehind⟩ := safe.behind reached
  obtain ⟨_, sameRun, sound⟩ := (AnyBase.sound_create bPurgingEnabled memory
    ui32MaxHandle).run safeBefore
  cases reached.symm.trans sameRun
  obtain ⟨_, _, sameStep, openedSound, _⟩ := sound.step newBatchSafe
  cases newBatch.symm.trans sameStep
  obtain ⟨lastSound, heldLive⟩ := openedSound.heldFrom_live
    (safeBehind opened _ newBatch) inside
    (fun _ none => absurd none List.not_mem_nil) ran
  refine ⟨?_, fun reported => reports.mp reported.1, fun succeeds => ?_⟩
  · obtain ⟨after, result, returned⟩ := lastSound.commit_returns
    rw [returned]
    rfl
  · refine ⟨reports.mpr succeeds, fun after _ committed => ?_⟩
    have noStale : (AnyBase.create bPurgingEnabled memory
        ui32MaxHandle).base.NoStaleFailures := by
      rw [AnyBase.create_base]
      exact noStaleFailures_create memory ui32MaxHandle
    have noFailures : opened.base.ui32BatchHandAllocFailures = 0 := by
      rw [failures]
      exact AnyBase.run_noStaleFailures noStale reached notBatched
    have live := lastSound.commit_live lastBatched
      (AnyBase.run_failures inside batched noFailures succeeds ran) committed
    exact fun hHandle member => (live _).mpr (heldLive hHandle member)

/-- A batch of one handle on a new base, without a failure. -/
theorem run_commitReports_batch :
    ∃ opened last,
      (AnyBase.create true (fun _ => clearedHandle) defaultMaxHandle).step
          (.call (.newBatch 2 ⟨true, true⟩)) =
            some (opened, .ok .nothing) ∧
        opened.run [.call (.alloc 7 ⟨1, by decide⟩ ⟨false, false, false⟩
          ⟨true, true⟩)] = some last ∧
        CommitReports opened [.call (.alloc 7 ⟨1, by decide⟩
          ⟨false, false, false⟩ ⟨true, true⟩)] last := by
  refine ⟨_, _, rfl, rfl, ?_⟩
  have reports := run_commitReports true (fun _ => clearedHandle)
    defaultMaxHandle [] [.call (.alloc 7 ⟨1, by decide⟩
      ⟨false, false, false⟩ ⟨true, true⟩)] _ _ _ 2 ⟨true, true⟩ .nothing
    rfl rfl
    (fun op member => by
      rw [List.mem_singleton.mp member]
      trivial) rfl
  refine (reports.2 ⟨⟨fun none => absurd none id,
    fun none => absurd none id⟩, fun after result stepped => ?_⟩).2.mpr
      (by decide +kernel)
  cases stepped
  exact ⟨⟨fun _ _ => Or.inl (by decide +kernel),
    fun none => absurd none id⟩, fun _ _ _ => trivial⟩

/-- A batch on a new base in which the second handle finds no memory for its
hash entry. -/
theorem run_commitReports_lost :
    ∃ opened last,
      (AnyBase.create false (fun _ => clearedHandle) defaultMaxHandle).step
          (.call (.newBatch 2 ⟨true, true⟩)) =
            some (opened, .ok .nothing) ∧
        opened.run [.call (.alloc 7 ⟨1, by decide⟩ ⟨false, false, false⟩
          ⟨true, true⟩), .call (.alloc 8 ⟨1, by decide⟩
          ⟨false, false, false⟩ ⟨true, false⟩)] = some last ∧
        ¬ CommitReports opened [.call (.alloc 7 ⟨1, by decide⟩
          ⟨false, false, false⟩ ⟨true, true⟩), .call (.alloc 8
          ⟨1, by decide⟩ ⟨false, false, false⟩ ⟨true, false⟩)] last := by
  refine ⟨_, _, rfl, rfl, fun reports => ?_⟩
  exact absurd (reports.1.mpr (by decide +kernel)) (by decide +kernel)

end PvrServices.Handles
