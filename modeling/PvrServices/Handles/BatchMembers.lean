import PvrServices.Handles.BatchReports
import PvrServices.Handles.Release

/-!
# What a batch leaves

The release of a batch leaves the handles from before the batch that have not
been released since, and a commit without failures also those of the batch.
A handle of the batch is told by its flag.  The handles below it are younger,
so that they are of the batch as well, and freeing it frees no older handle.
-/

namespace PvrServices.Handles

open HandleBase

/-! ## Accounts -/

/-- The call releases the handle, or one that it is a descendant of. -/
def HandleOp.Frees (op : HandleOp) (base : HandleBase) (index : Nat) : Prop :=
  match op with
  | .release hHandle eType =>
    ∃ root, base.getHandleStructure hHandle eType = .ok root ∧
      base.Under root index
  | .lookupAndRelease hHandle eType =>
    ∃ root, base.getHandleStructure hHandle eType = .ok root ∧
      base.Under root index
  | _ => False

/-- The call is an allocation that makes the structure a handle. -/
def HandleOp.Makes (op : HandleOp) (base : HandleBase) (index : Nat) : Prop :=
  op.allocates = true ∧ ¬ base.Live index ∧
    ∃ after hHandle, base.step op = some (after, .ok (.handle hHandle)) ∧
      handleToIndex hHandle = index

/-- The handles that calls in a batch have not released: those from before the
batch, and those made in it. -/
structure BatchAccount where
  old : Nat → Prop
  made : Nat → Prop

namespace BatchAccount

/-- The account after some handles are freed and others made. -/
def update (account : BatchAccount) (frees makes : Nat → Prop) :
    BatchAccount where
  old := fun index => account.old index ∧ ¬ frees index
  made := fun index => (account.made index ∧ ¬ frees index) ∨ makes index

end BatchAccount

/-- The account after calls in a batch. -/
def HandleBase.accountOf :
    HandleBase → List HandleOp → BatchAccount → BatchAccount
  | _, [], account => account
  | base, op :: ops, account =>
    match base.step op with
    | none => account
    | some (after, _) =>
      after.accountOf ops (account.update (op.Frees base) (op.Makes base))

/-- The account of a batch that is opened on `base`. -/
def HandleBase.openAccount (base : HandleBase) : BatchAccount where
  old := base.Live
  made := fun _ => False

/-- What a batch means: with no more allocations in it than it was opened for,
its release leaves just the old handles that are not released, its commit, if
no allocation has failed, also those of the batch, and both a good chain of
free structures. -/
def BatchExact
    (base : HandleBase) (ui32BatchSize : Nat) (outcome : AllocOutcome) :
    Prop :=
  ∀ opened,
    base.pvrsrvNewHandleBatch ui32BatchSize outcome = (opened, .ok ()) →
    ∀ ops : List HandleOp, (∀ op ∈ ops, op.InsideBatch) →
      ops.countP (fun op => op.allocates) ≤ ui32BatchSize →
      ∃ last, opened.run ops = some last ∧
        (∃ after result,
          last.handleBatchCommitOrRelease false = some (after, result) ∧
            after.FreeListOk ∧
            ∀ index, after.Live index ↔
              (opened.accountOf ops base.openAccount).old index) ∧
        (opened.someAllocFails ops = false →
          ∃ after result,
            last.handleBatchCommitOrRelease true = some (after, result) ∧
              after.FreeListOk ∧
              ∀ index, after.Live index ↔
                (opened.accountOf ops base.openAccount).old index ∨
                  (opened.accountOf ops base.openAccount).made index)

/-! ## The flags of a batch -/

/-- All structures keep their batch flags. -/
def SameFlags (before after : HandleBase) : Prop :=
  ∀ index, (after.handles index).batched = (before.handles index).batched

variable {base after opened : HandleBase} {op : HandleOp} {ui32BatchSize : Nat}
  {outcome : AllocOutcome}

/-- Freeing a handle sets no batch flag. -/
theorem HandleBase.freeHandle_flags
    {index : Nat}
    (freed : base.freeHandle index = some after) :
    SameFlags base after := by
  refine HandleBase.freeHandle_frame ?_ ?_ ?_ ?_ freed
  · exact fun _ _ => rfl
  · exact fun first second other => (second other).trans (first other)
  · exact fun base index other => (base.detach_flags index other).1
  · exact fun base index other => base.retireHandle_batched index other

/-! ## Keeping the account -/

/-- The account tells the live handles apart by their flags, and the children
of a handle of the batch are of the batch. -/
structure Accounted (base : HandleBase) (account : BatchAccount) : Prop where
  old : ∀ index, account.old index ↔
    base.Live index ∧ (base.handles index).batched = false
  made : ∀ index, account.made index ↔
    base.Live index ∧ (base.handles index).batched = true
  younger : ∀ child parent, base.Live child →
    base.parentHandle child = indexToHandle parent →
      (base.handles parent).batched = true →
        (base.handles child).batched = true

theorem HandleBase.Sound.ranked
    (sound : base.Sound) :
    ∃ rank, base.Ranked rank := by
  obtain ⟨chain, batch, kids, rank, valid, _⟩ := sound
  exact ⟨rank, valid.family.ranked_of_parent⟩

namespace Accounted

variable {base after : HandleBase} {account : BatchAccount}
  {frees makes : Nat → Prop}

section

variable (accounted : Accounted base account)
include accounted

/-- A call that neither frees nor makes a handle. -/
theorem quiet
    (sound : base.Sound)
    (keeps : KeepsHandles base after)
    (noFree : ∀ index, ¬ frees index)
    (noMake : ∀ index, ¬ makes index) :
    Accounted after (account.update frees makes) := by
  obtain ⟨rank, ranked⟩ := sound.ranked
  refine ⟨fun index => ?_, fun index => ?_, ?_⟩
  · simp only [BatchAccount.update, noFree, not_false_eq_true, and_true,
      accounted.old, keeps.live]
    exact and_congr_right fun alive => by rw [keeps.flags index alive]
  · simp only [BatchAccount.update, noFree, noMake, not_false_eq_true,
      and_true, or_false, accounted.made, keeps.live]
    exact and_congr_right fun alive => by rw [keeps.flags index alive]
  · intro child parent childAlive field inBatch
    have aliveBefore := (keeps.live child).mp childAlive
    rw [(keeps.kept child aliveBefore).parent] at field
    have parentAlive := (ranked child parent aliveBefore field).1
    rw [keeps.flags parent parentAlive] at inBatch
    rw [keeps.flags child aliveBefore]
    exact accounted.younger child parent aliveBefore field inBatch

/-- A call that makes a handle of the batch. -/
theorem create
    (sound : base.Sound)
    {index pvData parentHandle : Nat}
    {eType : HandleType}
    {eFlag : AllocFlag}
    {key : HandKey}
    (created : Created base after index pvData eType eFlag parentHandle key)
    (batched : base.handlesBatched = true)
    (noFree : ∀ index, ¬ frees index)
    (makes_iff : ∀ other, makes other ↔ other = index) :
    Accounted after (account.update frees makes) := by
  obtain ⟨rank, ranked⟩ := sound.ranked
  have own : (after.handles index).batched = true := created.own.trans batched
  refine ⟨fun other => ?_, fun other => ?_, ?_⟩
  · simp only [BatchAccount.update, noFree, not_false_eq_true, and_true,
      accounted.old, created.live]
    by_cases isNew : other = index
    · subst isNew
      simp only [created.unused, own, false_and, Bool.true_eq_false, and_false]
    · simp only [isNew, or_false]
      exact and_congr_right fun alive => by rw [created.flags other alive]
  · simp only [BatchAccount.update, noFree, not_false_eq_true, and_true,
      accounted.made, created.live, makes_iff]
    by_cases isNew : other = index
    · subst isNew
      simp only [own, or_true, and_self]
    · simp only [isNew, or_false]
      exact and_congr_right fun alive => by rw [created.flags other alive]
  · intro child parent childAlive field inBatch
    rcases (created.live child).mp childAlive with aliveBefore | rfl
    · rw [(created.kept child aliveBefore).parent] at field
      have parentAlive := (ranked child parent aliveBefore field).1
      rw [created.flags parent parentAlive] at inBatch
      rw [created.flags child aliveBefore]
      exact accounted.younger child parent aliveBefore field inBatch
    · exact own

/-- A call that frees a handle with its descendants. -/
theorem free
    {rank : Nat → Nat}
    {root : Nat}
    {removed : List Nat}
    (freed : Freed base after rank [root] removed)
    (ranked : base.Ranked rank)
    (flags : SameFlags base after)
    (frees_iff : ∀ index, frees index ↔ base.Under root index)
    (noMake : ∀ index, ¬ makes index) :
    Accounted after (account.update frees makes) := by
  have live : ∀ index, after.Live index ↔
      base.Live index ∧ ¬ base.Under root index := by
    intro index
    rw [freed.live]
    exact and_congr_right fun alive =>
      not_congr (freed.mem_removed_iff ranked alive)
  refine ⟨fun index => ?_, fun index => ?_, ?_⟩
  · simp only [BatchAccount.update, accounted.old, frees_iff, live,
      flags index]
    exact and_right_comm
  · simp only [BatchAccount.update, accounted.made, frees_iff, noMake,
      or_false, live, flags index]
    exact and_right_comm
  · intro child parent childAlive field inBatch
    rw [freed.parentKept child childAlive] at field
    rw [flags] at inBatch ⊢
    exact accounted.younger child parent ((live child).mp childAlive).1 field
      inBatch

/-- An allocation in a batch. -/
theorem allocate
    (sound : base.Sound)
    (afterSound : after.Sound)
    (batched : base.handlesBatched = true)
    {pvData parent : Nat}
    {eType : HandleType}
    {eFlag : AllocFlag}
    {key : HandKey}
    {shareable : Nat → Prop}
    {outcome : AllocOutcome}
    {result : Except HandleError Nat}
    (allocated : AllocResult base after pvData eType eFlag key parent
      shareable outcome result)
    (noFree : ∀ index, ¬ frees index)
    (makes_iff : ∀ index, makes index ↔ ¬ base.Live index ∧
      ∃ hHandle, result = .ok hHandle ∧ handleToIndex hHandle = index) :
    Accounted after (account.update frees makes) := by
  have failed : ∀ error, result = .error error → ∀ index, ¬ makes index := by
    rintro error rfl index made
    obtain ⟨_, hHandle, impossible, _⟩ := (makes_iff index).mp made
    cases impossible
  cases allocated with
  | stale _ _ _ same | notShareable _ _ _ _ same | failed _ _ same =>
    exact accounted.quiet sound same.toKeepsHandles noFree (failed _ rfl)
  | @shared hHandle index _ _ found _ _ same =>
    refine accounted.quiet sound same.toKeepsHandles noFree
      fun other made => ?_
    obtain ⟨unused, _, returned, isIndex⟩ := (makes_iff other).mp made
    cases returned
    obtain ⟨sameIndex, alive, _⟩ := getHandleStructure_ok.mp found
    exact unused (isIndex ▸ sameIndex ▸ alive)
  | @created index _ created =>
    have bounded := afterSound.bounded index
      ((created.live index).mpr (Or.inr rfl))
    refine accounted.create sound created batched noFree fun other => ?_
    rw [makes_iff]
    constructor
    · rintro ⟨_, hHandle, same, isIndex⟩
      obtain rfl := Except.ok.inj same
      rw [handleToIndex_indexToHandle bounded] at isIndex
      exact isIndex.symm
    · rintro rfl
      exact ⟨created.unused, _, rfl, handleToIndex_indexToHandle bounded⟩

end
end Accounted

/-! ## Calls in a batch -/

/-- The handle that an allocation returns is the one it makes, if it was not
live. -/
theorem makes_iff_of_step
    {returned : Except HandleError Nat}
    (allocates : op.allocates = true)
    (stepped : base.step op = some (after, returned.map .handle))
    (index : Nat) :
    op.Makes base index ↔ ¬ base.Live index ∧
      ∃ hHandle, returned = .ok hHandle ∧ handleToIndex hHandle = index := by
  unfold HandleOp.Makes
  constructor
  · rintro ⟨_, unused, other, hHandle, same, isIndex⟩
    rw [stepped] at same
    refine ⟨unused, hHandle, ?_, isIndex⟩
    cases returned with
    | error error => cases same
    | ok value =>
      cases same
      rfl
  · rintro ⟨unused, hHandle, rfl, isIndex⟩
    exact ⟨allocates, unused, after, hHandle, stepped, isIndex⟩

/-- Either kind of release fails, or frees what is under the structure that its
handle names. -/
theorem step_release_cases
    {hHandle eType : Nat}
    {result : HandleResult}
    (isRelease : op = .lookupAndRelease hHandle eType ∨
      op = .release hHandle eType)
    (stepped : base.step op = some (after, result)) :
    (after = base ∧ ∀ index, ¬ op.Frees base index) ∨
      ∃ root, base.Live root ∧ base.freeHandle root = some after ∧
        ∀ index, op.Frees base index ↔ base.Under root index := by
  cases found : base.getHandleStructure hHandle eType with
  | error error =>
    left
    rcases isRelease with rfl | rfl
    all_goals
      simp only [HandleBase.step, HandleBase.pvrsrvLookupAndReleaseHandle,
        HandleBase.pvrsrvReleaseHandle, found] at stepped
      cases stepped
      refine ⟨rfl, ?_⟩
      rintro index ⟨root, foundRoot, _⟩
      cases found.symm.trans foundRoot
  | ok root =>
    right
    have alive := (getHandleStructure_ok.mp found).2.1
    cases freeing : base.freeHandle root with
    | none =>
      rcases isRelease with rfl | rfl
      all_goals
        simp only [HandleBase.step,
          HandleBase.pvrsrvLookupAndReleaseHandle,
          HandleBase.pvrsrvReleaseHandle, found, freeing] at stepped
        cases stepped
    | some freedBase =>
      rcases isRelease with rfl | rfl
      all_goals
        simp only [HandleBase.step,
          HandleBase.pvrsrvLookupAndReleaseHandle,
          HandleBase.pvrsrvReleaseHandle, found, freeing] at stepped
        cases stepped
        refine ⟨root, alive, freeing, ?_⟩
        intro index
        simp only [HandleOp.Frees, found, Except.ok.injEq, exists_eq_left']

namespace Accounted

variable {base after last : HandleBase} {account : BatchAccount}
  (accounted : Accounted base account) (sound : base.Sound)
  (batched : base.handlesBatched = true)
include accounted sound batched

/-- A call in a batch keeps the account. -/
theorem step
    {op : HandleOp}
    (inside : op.InsideBatch)
    {result : HandleResult}
    (stepped : base.step op = some (after, result)) :
    Accounted after (account.update (op.Frees base) (op.Makes base)) := by
  have noMake : op.allocates = false → ∀ index, ¬ op.Makes base index := by
    intro noAlloc index made
    exact Bool.false_ne_true (noAlloc.symm.trans made.1)
  have unchanged : after = base → (∀ index, ¬ op.Frees base index) →
      (∀ index, ¬ op.Makes base index) →
      Accounted after (account.update (op.Frees base) (op.Makes base)) := by
    rintro rfl noFree none
    exact accounted.quiet sound (.refl _) noFree none
  -- what freeing the structure `root` does, for both kinds of release
  have released : ∀ root, base.Live root →
      base.freeHandle root = some after →
      (∀ index, op.Frees base index ↔ base.Under root index) →
      op.allocates = false →
      Accounted after (account.update (op.Frees base) (op.Makes base)) := by
    intro root alive result frees_iff noAlloc
    obtain ⟨freedBase, rank, removed, freeing, _, ranked, freed⟩ :=
      sound.freeHandle alive
    cases freeing.symm.trans result
    exact accounted.free freed ranked (freeHandle_flags result) frees_iff
      (noMake noAlloc)
  cases op with
  | alloc pvData eType eFlag outcome =>
    obtain ⟨last, returned, allocated, kept, cases⟩ :=
      sound.pvrsrvAllocHandle pvData eType eFlag outcome
    have made := stepped
    simp only [HandleBase.step, allocated] at stepped
    cases stepped
    exact accounted.allocate sound kept batched cases (fun _ none => none)
      (makes_iff_of_step rfl made)
  | allocSub pvData eType eFlag hParent outcome =>
    obtain ⟨last, returned, allocated, kept, cases⟩ :=
      sound.pvrsrvAllocSubHandle pvData eType eFlag hParent outcome
    have made := stepped
    simp only [HandleBase.step, allocated] at stepped
    cases stepped
    have makes := makes_iff_of_step rfl made
    rcases cases with ⟨error, _, rfl, same⟩ | ⟨parent, _, cases⟩
    · refine accounted.quiet sound same.toKeepsHandles (fun _ none => none) ?_
      intro index made
      obtain ⟨_, hHandle, impossible, _⟩ := (makes index).mp made
      cases impossible
    · exact accounted.allocate sound kept batched cases
        (fun _ none => none) makes
  | lookup hHandle eType | find pvData eType | getParent hHandle eType =>
    cases stepped
    exact unchanged rfl (fun _ none => none) (noMake rfl)
  | lookupSub hHandle eType hAncestor =>
    obtain ⟨_, _, same⟩ := Option.map_eq_some_iff.mp stepped
    cases same
    exact unchanged rfl (fun _ none => none) (noMake rfl)
  | lookupAndRelease hHandle eType =>
    obtain ⟨same, noFree⟩ | ⟨root, alive, freeing, frees_iff⟩ :=
      step_release_cases (Or.inl rfl) stepped
    · exact unchanged same noFree (noMake rfl)
    · exact released root alive freeing frees_iff rfl
  | release hHandle eType =>
    obtain ⟨same, noFree⟩ | ⟨root, alive, freeing, frees_iff⟩ :=
      step_release_cases (Or.inr rfl) stepped
    · exact unchanged same noFree (noMake rfl)
    · exact released root alive freeing frees_iff rfl
  | newBatch ui32BatchSize outcome =>
    simp only [HandleBase.step, HandleBase.pvrsrvNewHandleBatch, batched,
      if_true] at stepped
    cases stepped
    exact unchanged rfl (fun _ none => none) (noMake rfl)
  | commitBatch | releaseBatch => exact absurd inside fun none => none

/-- Calls in a batch return and keep the account. -/
theorem run
    {ops : List HandleOp}
    (inside : ∀ op ∈ ops, op.InsideBatch) :
    ∃ last, base.run ops = some last ∧ last.Sound ∧
      last.handlesBatched = true ∧
      Accounted last (base.accountOf ops account) := by
  induction ops generalizing base account with
  | nil => exact ⟨base, rfl, sound, batched, accounted⟩
  | cons op ops ih =>
    obtain ⟨after, result, stepped, kept, _⟩ :=
      sound.step (growthSafe_of_batched batched op)
    have opInside := inside op List.mem_cons_self
    simp only [HandleBase.run, HandleBase.accountOf, stepped]
    exact ih (accounted.step sound batched opInside stepped) kept
      (step_handlesBatched opInside batched stepped)
      fun other member => inside other (List.mem_cons_of_mem op member)

end Accounted

/-! ## The end of a batch -/

/-- The children of each handle of `rest` are of `rest` as well, and outside
it just the handles outside the batch are live. -/
def ReleasedTo
    (base : HandleBase) (batch : List Nat) (current : HandleBase)
    (rest : List Nat) : Prop :=
  (∀ child parent, current.Live child →
    current.parentHandle child = indexToHandle parent →
      parent ∈ rest → child ∈ rest) ∧
  ∀ index, current.Live index ∧ index ∉ rest ↔
    base.Live index ∧ index ∉ batch

theorem releaseWalk (base : HandleBase) (batch : List Nat) (rank : Nat → Nat) :
    KeptByWalk false rank (ReleasedTo base batch) where
  leave := by
    rintro before after index rest same eType (dead | impossible)
      ⟨younger, live⟩
    · constructor
      · intro child parent alive field inRest
        have aliveBefore := (same.live eType child).mp alive
        rw [same.parentHandle] at field
        refine (List.mem_cons.mp (younger child parent aliveBefore field
          (List.mem_cons_of_mem _ inRest))).resolve_left ?_
        rintro rfl
        exact dead aliveBefore
      · intro other
        rw [← live, same.live eType, List.mem_cons, not_or]
        refine and_congr_right fun alive => (and_iff_right ?_).symm
        rintro rfl
        exact dead alive
    · cases impossible
  free := by
    rintro - before middle after index rest removed same eType
      ⟨used, kids, family⟩ freed ⟨younger, live⟩
    have root := freed.roots_subset index List.mem_cons_self
    -- what is freed with the head belongs to the batch
    have inBatch : ∀ other ∈ removed, other ∈ index :: rest := by
      intro other member
      have ranked := family.ranked_of_parent
      induction bound : rank other using Nat.strong_induction_on
        generalizing other with
      | _ bound deeper =>
        rcases freed.parent other member with
          isRoot | ⟨parent, parentIn, field⟩
        · exact List.mem_singleton.mp isRoot ▸ List.mem_cons_self
        · have otherAlive := freed.alive other member
          have lower := (ranked other parent otherAlive field).2
          refine younger other parent
            ((same.live eType other).mp otherAlive) ?_
            (deeper (rank parent) (bound ▸ lower) parent parentIn rfl)
          rw [← same.parentHandle]
          exact field
    have liveAfter : ∀ other, after.Live other ↔
        before.Live other ∧ other ∉ removed := by
      intro other
      rw [freed.live, same.live eType]
    constructor
    · intro child parent childAlive field inRest
      obtain ⟨aliveBefore, stays⟩ := (liveAfter child).mp childAlive
      rw [freed.parentKept child childAlive, same.parentHandle] at field
      refine (List.mem_cons.mp (younger child parent aliveBefore field
        (List.mem_cons_of_mem _ inRest))).resolve_left ?_
      rintro rfl
      exact stays root
    · intro other
      rw [← live, liveAfter, and_assoc]
      refine and_congr_right fun _ => ?_
      constructor
      · rintro ⟨stays, notRest⟩ member
        rcases List.mem_cons.mp member with rfl | inRest
        · exact stays root
        · exact notRest inRest
      · intro outside
        exact ⟨fun gone => outside (inBatch other gone),
          fun inRest => outside (List.mem_cons_of_mem _ inRest)⟩

/-- The release of a batch frees its handles and no others, if the children of
each are of the batch as well. -/
theorem Valid.releaseLoop
    {chain batch : List Nat}
    {start fuel : Nat}
    {kids : Nat → List Nat}
    {rank : Nat → Nat}
    (valid : Valid base chain start batch kids rank)
    (younger : ∀ child parent, base.Live child →
      base.parentHandle child = indexToHandle parent →
        parent ∈ batch → child ∈ batch)
    (enough : batch.length ≤ fuel) :
    ∃ after chain kids,
      HandleBase.commitOrReleaseLoop fuel base false start = some after ∧
        Valid after chain 0 [] kids rank ∧
        ∀ index, after.Live index ↔ base.Live index ∧ index ∉ batch := by
  obtain ⟨after, lastChain, lastKids, result, lastValid, _, live⟩ :=
    valid.commitOrReleaseLoop_walks (releaseWalk base batch rank)
      ⟨younger, fun _ => Iff.rfl⟩ enough
  exact ⟨after, lastChain, lastKids, result, lastValid, fun index =>
    (and_iff_left List.not_mem_nil).symm.trans (live index)⟩

/-- The release of a batch leaves the old handles. -/
theorem Accounted.releaseBatch
    {account : BatchAccount}
    (accounted : Accounted base account)
    (sound : base.Sound)
    (batched : base.handlesBatched = true) :
    ∃ after, base.handleBatchCommitOrRelease false = some (after, .ok ()) ∧
      after.Sound ∧ ∀ index, after.Live index ↔ account.old index := by
  obtain ⟨chain, batch, kids, rank, valid, _⟩ := sound
  have flag_iff : ∀ index, base.Live index →
      ((base.handles index).batched = true ↔ index ∈ batch) := by
    intro index alive
    constructor
    · intro flagged
      by_contra outside
      have notFlagged := (valid.occupancy.liveFlags index alive outside).1
      exact Bool.false_ne_true (notFlagged.symm.trans flagged)
    · exact fun member => (valid.occupancy.batchFlags index member).1
  have younger : ∀ child parent, base.Live child →
      base.parentHandle child = indexToHandle parent →
        parent ∈ batch → child ∈ batch := by
    intro child parent alive field member
    exact (flag_iff child alive).mp (accounted.younger child parent alive
      field (valid.occupancy.batchFlags parent member).1)
  obtain ⟨middle, _, _, result, middleValid, live⟩ :=
    valid.releaseLoop younger (Nat.le_succ_of_le valid.batch_length_le)
  unfold HandleBase.handleBatchCommitOrRelease
  simp only [batched, Bool.not_true, Bool.false_eq_true, if_false,
    Bool.false_and, result]
  refine ⟨_, rfl, middleValid.closeBatch, fun index => ?_⟩
  rw [accounted.old, ← Bool.not_eq_true]
  refine Iff.trans (live index) ?_
  exact and_congr_right fun alive => not_congr (flag_iff index alive).symm

/-! ## Whole batches -/

/-- The account is right when the batch is opened. -/
theorem accounted_open
    (sound : base.Sound)
    (safe : base.GrowthSafe ui32BatchSize outcome)
    (newBatch : base.pvrsrvNewHandleBatch ui32BatchSize outcome =
      (opened, .ok ())) :
    opened.Sound ∧ opened.handlesBatched = true ∧
      Accounted opened base.openAccount := by
  obtain ⟨notBatched, batched, _⟩ := newBatch_handlesBatched newBatch
  obtain ⟨after, result, same, kept, keeps⟩ := sound.pvrsrvNewHandleBatch safe
  obtain ⟨rfl, _⟩ := Prod.mk.inj (same.symm.trans newBatch)
  obtain ⟨rank, ranked⟩ := sound.ranked
  obtain ⟨_, _, _, unbatched⟩ := sound.forested notBatched
  have notFlagged : ∀ index, base.Live index →
      (after.handles index).batched = false := by
    intro index alive
    rw [keeps.flags index alive]
    exact (unbatched.flags index alive).1
  refine ⟨kept, batched, fun index => ?_, fun index => ?_, ?_⟩
  · rw [openAccount, keeps.live]
    exact (and_iff_left_of_imp (notFlagged index)).symm
  · rw [openAccount, keeps.live]
    refine iff_of_false (fun none => none) fun both => ?_
    exact Bool.false_ne_true ((notFlagged index both.1).symm.trans both.2)
  · intro child parent childAlive field inBatch
    have aliveBefore := (keeps.live child).mp childAlive
    rw [(keeps.kept child aliveBefore).parent] at field
    have parentAlive := (ranked child parent aliveBefore field).1
    rw [notFlagged parent parentAlive] at inBatch
    cases inBatch

theorem HandleBase.ensureFreeHandles_firstBatch
    {ui32Free : Nat}
    {osAllocMem : Bool}
    (ensured : base.ensureFreeHandles ui32Free osAllocMem = .ok after) :
    after.ui32FirstBatchIndexPlusOne = base.ui32FirstBatchIndexPlusOne := by
  unfold ensureFreeHandles increaseHandleArraySize at ensured
  split_ifs at ensured with short
  · split at ensured
    · cases ensured
    · unfold reallocHandleArray at ensured
      simp only at ensured
      split_ifs at ensured with same
      · cases ensured
        rfl
      · cases ensured
        rfl
      · cases ensured
        rfl
  · cases ensured
    rfl

/-- A batch that is opened and released at once leaves the chain of free
structures as its opening does. -/
theorem freeListOk_of_release
    (sound : base.Sound)
    (newBatch : base.pvrsrvNewHandleBatch ui32BatchSize outcome =
      (opened, .ok ()))
    {result : Except HandleError Unit}
    (released : opened.handleBatchCommitOrRelease false =
      some (after, result))
    (listOk : after.FreeListOk) :
    opened.FreeListOk := by
  obtain ⟨notBatched, batched, _⟩ := newBatch_handlesBatched newBatch
  have firstBatch : opened.ui32FirstBatchIndexPlusOne = 0 := by
    obtain ⟨chain, batch, kids, rank, valid, emptied⟩ := sound
    have links := valid.links
    rw [emptied notBatched] at links
    unfold HandleBase.pvrsrvNewHandleBatch at newBatch
    split_ifs at newBatch
    · cases newBatch
    · cases newBatch
    · split at newBatch
      · cases newBatch
      · rename_i grown ensured
        cases newBatch
        exact (ensureFreeHandles_firstBatch ensured).trans links
  have closed : after = opened.closeBatch := by
    unfold HandleBase.handleBatchCommitOrRelease at released
    simp only [batched, firstBatch, HandleBase.commitOrReleaseLoop,
      Bool.not_true, Bool.false_eq_true, if_false] at released
    cases released
    rfl
  subst closed
  have pending : opened.batchPending = [] := by
    unfold HandleBase.batchPending
    rw [firstBatch]
    cases opened.ui32TotalHandCount <;> rfl
  have pendingAfter : opened.closeBatch.batchPending = [] := by
    unfold HandleBase.batchPending HandleBase.closeBatch
    cases opened.ui32TotalHandCount <;> rfl
  refine ⟨listOk.once, fun index => ?_, listOk.length_freeChain,
    listOk.last, listOk.empty⟩
  have member := listOk.mem_freeChain index
  rw [pendingAfter] at member
  rw [pending]
  exact member

/-- A batch that loses the chain of free structures is not exact. -/
theorem not_batchExact
    (sound : base.Sound)
    (growth : ¬ base.GrowthSafe ui32BatchSize outcome) :
    ¬ BatchExact base ui32BatchSize outcome := by
  intro isExact
  obtain ⟨opened, newBatch, lost⟩ := sound.pvrsrvNewHandleBatch_unsafe growth
  obtain ⟨last, ran, ⟨after, result, released, listOk, _⟩, _⟩ :=
    isExact opened newBatch [] (fun _ none => absurd none List.not_mem_nil)
      (Nat.zero_le _)
  cases ran
  exact lost (freeListOk_of_release sound newBatch released listOk)

/-- A batch means what it should, unless it makes the array grow while
structure 0 is the first free one. -/
theorem batchExact_iff
    (base : HandleBase)
    (ui32BatchSize : Nat)
    (outcome : AllocOutcome)
    (sound : base.Sound)
    (noStale : base.NoStaleFailures) :
    BatchExact base ui32BatchSize outcome ↔
      base.GrowthSafe ui32BatchSize outcome := by
  constructor
  · intro isExact
    by_contra growth
    exact not_batchExact sound growth isExact
  · intro safe opened newBatch ops inside _
    obtain ⟨openedSound, batched, accounted⟩ :=
      accounted_open sound safe newBatch
    obtain ⟨notBatched, _, failures⟩ := newBatch_handlesBatched newBatch
    obtain ⟨last, ran, lastSound, lastBatched, lastAccounted⟩ :=
      accounted.run openedSound batched inside
    refine ⟨last, ran, ?_, fun noneFails => ?_⟩
    · obtain ⟨after, released, kept, live⟩ :=
        lastAccounted.releaseBatch lastSound lastBatched
      exact ⟨after, _, released, kept.freeListOk, live⟩
    · have noFailures := run_failures inside batched
        (failures.trans (noStale notBatched)) noneFails ran
      obtain ⟨after, committed, kept, live⟩ :=
        lastSound.commit_live lastBatched noFailures
      refine ⟨after, _, committed, kept.freeListOk, fun index => ?_⟩
      rw [live, lastAccounted.old, lastAccounted.made, ← and_or_left]
      refine (and_iff_left ?_).symm
      cases (last.handles index).batched
      · exact Or.inl rfl
      · exact Or.inr rfl

/-- A batch of two on a new base. -/
theorem batchExact_iff_new :
    BatchExact (create (fun _ => clearedHandle) defaultMaxHandle) 2
      ⟨true, true⟩ := by
  refine (batchExact_iff _ 2 ⟨true, true⟩
    (sound_create (fun _ => clearedHandle) defaultMaxHandle).1
    (noStaleFailures_create (fun _ => clearedHandle)
      defaultMaxHandle)).mpr ?_
  intro _ some
  exact absurd some (by decide)

/-- A batch of 1 that is released unused, and a batch of 257 on a good chain of
free structures. -/
theorem batchExact_lost :
    ∃ base,
      (create (fun _ => clearedHandle) defaultMaxHandle).run
          [.newBatch 1 ⟨true, true⟩, .releaseBatch] = some base ∧
        base.FreeListOk ∧ ¬ BatchExact base 257 ⟨true, true⟩ := by
  have safe : GrowthSafeRun (create (fun _ => clearedHandle) defaultMaxHandle)
      [.newBatch 1 ⟨true, true⟩, .releaseBatch] := by
    refine ⟨?_, fun _ _ _ => ⟨trivial, fun _ _ _ => trivial⟩⟩
    intro _ some
    exact absurd some (by decide)
  obtain ⟨base, ran, sound⟩ :=
    (sound_create (fun _ => clearedHandle) defaultMaxHandle).1.run safe
  have evaluated :
      ((create (fun _ => clearedHandle) defaultMaxHandle).run
          [.newBatch 1 ⟨true, true⟩, .releaseBatch]).map (fun base =>
        decide (¬ base.GrowthSafe 257 ⟨true, true⟩)) = some true := by
    decide +kernel
  obtain ⟨other, same, growth⟩ := Option.map_eq_some_iff.mp evaluated
  cases ran.symm.trans same
  exact ⟨base, ran, sound.freeListOk,
    not_batchExact sound (of_decide_eq_true growth)⟩

end PvrServices.Handles
