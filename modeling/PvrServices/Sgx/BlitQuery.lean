import PvrServices.Queue.Flush
import PvrServices.Resman.Base

/-!
# Querying the completion of 2D blits

`SGX2DQueryBlitsCompleteKM` takes the pending counts of a sync info at its call
and waits for the complete counts to reach them.  Like a flush of the command
queues it compares 32-bit counts by order, and both are right exactly while no
wrap of a counter lies in between.
-/

namespace PvrServices.SgxBlit

open Resman SyncQueue WrappedOrder
open List (mem_cons_self mem_singleton not_mem_nil)

/-! ## The query -/

/-- `PVRSRV_ERROR_TIMEOUT`. -/
abbrev pvrsrvErrorTimeout : PvrsrvError := 9

/-- `PVRSRV_ERROR_CMD_NOT_PROCESSED`. -/
abbrev pvrsrvErrorCmdNotProcessed : PvrsrvError := 15

/-- `SGX2DQuerySyncOpsComplete`. -/
def sgx2DQuerySyncOpsComplete
    (psSyncData : SyncData)
    (ui32ReadOpsPending ui32WriteOpsPending : BitVec 32) :
    Bool :=
  decide (ui32ReadOpsPending.toNat ≤ psSyncData.ui32ReadOpsComplete.toNat) &&
    decide (ui32WriteOpsPending.toNat ≤ psSyncData.ui32WriteOpsComplete.toNat)

section

variable {memory : Type} (psSyncData : memory → SyncData)

/-- The polls of `SGX2DQueryBlitsCompleteKM` until its timeout, with the memory
at each of them.  The result comes with the memory it was found in. -/
def pollBlitsComplete
    (ui32ReadOpsPending ui32WriteOpsPending : BitVec 32) (last : memory) :
    List memory → PvrsrvError × memory
  | [] => (pvrsrvErrorTimeout, last)
  | poll :: polls =>
    if sgx2DQuerySyncOpsComplete (psSyncData poll) ui32ReadOpsPending
        ui32WriteOpsPending then
      (pvrsrvOk, poll)
    else
      pollBlitsComplete ui32ReadOpsPending ui32WriteOpsPending poll polls

/-- `SGX2DQueryBlitsCompleteKM` called in the memory `now`. -/
def sgx2DQueryBlitsCompleteKM
    (now : memory) (bWaitForComplete : Bool) (polls : List memory) :
    PvrsrvError × memory :=
  let ui32ReadOpsPending := (psSyncData now).ui32ReadOpsPending
  let ui32WriteOpsPending := (psSyncData now).ui32WriteOpsPending
  if sgx2DQuerySyncOpsComplete (psSyncData now) ui32ReadOpsPending
      ui32WriteOpsPending then
    (pvrsrvOk, now)
  else if !bWaitForComplete then
    (pvrsrvErrorCmdNotProcessed, now)
  else
    pollBlitsComplete psSyncData ui32ReadOpsPending ui32WriteOpsPending now
      polls

/-- The memories a call tests, while it finds the operations incomplete. -/
def testedMemories
    (now : memory) (bWaitForComplete : Bool) (polls : List memory) :
    List memory :=
  now :: if bWaitForComplete then polls else []

variable {found : memory} {polls : List memory}

theorem pollBlitsComplete_ok_iff
    {ui32ReadOpsPending ui32WriteOpsPending : BitVec 32}
    {last : memory} :
    pollBlitsComplete psSyncData ui32ReadOpsPending ui32WriteOpsPending last
          polls = (pvrsrvOk, found) ↔
      polls.find? (fun poll => sgx2DQuerySyncOpsComplete (psSyncData poll)
        ui32ReadOpsPending ui32WriteOpsPending) = some found := by
  induction polls generalizing last with
  | nil => simp [pollBlitsComplete, pvrsrvOk]
  | cons poll polls ih =>
    rw [pollBlitsComplete, List.find?_cons]
    cases complete : sgx2DQuerySyncOpsComplete (psSyncData poll)
        ui32ReadOpsPending ui32WriteOpsPending with
    | true => simp only [if_true, Prod.mk.injEq, true_and, Option.some.injEq]
    | false => exact ih

/-- A call succeeds in the first memory it tests that shows the pending counts
of its call as complete. -/
theorem sgx2DQueryBlitsCompleteKM_ok_iff
    {now : memory}
    {bWaitForComplete : Bool} :
    sgx2DQueryBlitsCompleteKM psSyncData now bWaitForComplete polls =
        (pvrsrvOk, found) ↔
      (testedMemories now bWaitForComplete polls).find? (fun tested =>
        sgx2DQuerySyncOpsComplete (psSyncData tested)
          (psSyncData now).ui32ReadOpsPending
          (psSyncData now).ui32WriteOpsPending) = some found := by
  rw [sgx2DQueryBlitsCompleteKM, testedMemories, List.find?_cons]
  cases complete : sgx2DQuerySyncOpsComplete (psSyncData now)
      (psSyncData now).ui32ReadOpsPending
      (psSyncData now).ui32WriteOpsPending with
  | true => simp only [if_true, Prod.mk.injEq, true_and, Option.some.injEq]
  | false =>
    cases bWaitForComplete with
    | false => simp [pvrsrvOk]
    | true => exact pollBlitsComplete_ok_iff psSyncData

end

/-! ## What has been counted -/

/-- A call on a sync info: the state it is made in and those of its polls. -/
structure BlitQuery where
  sync : Nat
  now : Moment
  bWaitForComplete : Bool
  polls : List Moment

namespace BlitQuery

variable {query : BlitQuery}

/-- What the call returns, with the state it returns in. -/
def result (query : BlitQuery) : PvrsrvError × Moment :=
  sgx2DQueryBlitsCompleteKM (fun moment => moment.system.table query.sync)
    query.now query.bWaitForComplete query.polls

/-- The counters are consistent all along, and the polls come after the
call. -/
structure Consistent (query : BlitQuery) : Prop where
  now : query.now.Consistent
  polls : ∀ poll ∈ query.polls, poll.Consistent
  later : ∀ poll ∈ query.polls, ∀ counter,
    query.now.counts.pending counter ≤ poll.counts.pending counter

/-- The operations of a kind that were pending at the call have completed. -/
def Completed (query : BlitQuery) (moment : Moment) (kind : OpKind) : Prop :=
  query.now.counts.pending (query.sync, kind) ≤
    moment.counts.complete (query.sync, kind)

/-- A successful call finds all operations that were pending complete, and a
call that does not wait reports some unfinished only if some are. -/
structure Sound (query : BlitQuery) : Prop where
  ok : query.result.1 = pvrsrvOk →
    ∀ kind, query.Completed query.result.2 kind
  unfinished : query.bWaitForComplete = false →
    query.result.1 = pvrsrvErrorCmdNotProcessed →
      ∃ kind, ¬ query.Completed query.now kind

/-- The pending count of the call is past a wrap that the complete count has
not passed. -/
def WrapBefore (query : BlitQuery) (moment : Moment) (kind : OpKind) : Prop :=
  WrapBetween 32 (moment.counts.complete (query.sync, kind))
    (query.now.counts.pending (query.sync, kind))

/-- The test of a state against the pending counts of the call. -/
def tests (query : BlitQuery) (moment : Moment) : Bool :=
  sgx2DQuerySyncOpsComplete (moment.system.table query.sync)
    (query.now.system.table query.sync).ui32ReadOpsPending
    (query.now.system.table query.sync).ui32WriteOpsPending

/-- No pending count of the call is past a wrap in a state it tests, or a count
without a wrap refuses that state, or an earlier state was accepted. -/
def WrapSafe (query : BlitQuery) : Prop :=
  ∀ earlier moment later,
    testedMemories query.now query.bWaitForComplete query.polls =
        earlier ++ moment :: later →
      (∀ kind, ¬ query.WrapBefore moment kind) ∨
        (∃ kind, ¬ query.WrapBefore moment kind ∧
          syncOpsStale (completeCounts moment.system.table (query.sync, kind))
            (pendingCounts query.now.system.table (query.sync, kind)) =
              false) ∨
        ∃ before ∈ earlier, query.tests before = true

namespace Consistent

variable {moment : Moment}

section

variable (consistent : query.Consistent)
include consistent

theorem tested
    (member : moment ∈
      testedMemories query.now query.bWaitForComplete query.polls) :
    moment.Consistent ∧ ∀ counter,
      query.now.counts.pending counter ≤ moment.counts.pending counter := by
  cases List.mem_cons.mp member with
  | inl isNow =>
    rw [isNow]
    exact ⟨consistent.now, fun _ => Nat.le_refl _⟩
  | inr inPolls =>
    cases wait : query.bWaitForComplete with
    | false =>
      rw [wait] at inPolls
      exact absurd inPolls not_mem_nil
    | true =>
      rw [wait] at inPolls
      exact ⟨consistent.polls moment inPolls, consistent.later moment inPolls⟩

theorem syncOpsStale_iff
    (shown : moment.Consistent)
    (kind : OpKind) :
    syncOpsStale (completeCounts moment.system.table (query.sync, kind))
          (pendingCounts query.now.system.table (query.sync, kind)) = true ↔
      ShownReached 32 (moment.counts.complete (query.sync, kind))
        (query.now.counts.pending (query.sync, kind)) := by
  rw [shown.complete, consistent.now.pending]
  exact syncOpsStale_ofNat_iff _ _

theorem tests_iff
    (shown : moment.Consistent) :
    query.tests moment = true ↔
      ∀ kind, ShownReached 32 (moment.counts.complete (query.sync, kind))
        (query.now.counts.pending (query.sync, kind)) := by
  have kinds : query.tests moment = true ↔ ∀ kind,
      syncOpsStale (completeCounts moment.system.table (query.sync, kind))
        (pendingCounts query.now.system.table (query.sync, kind)) = true := by
    rw [tests, sgx2DQuerySyncOpsComplete, Bool.and_eq_true]
    constructor
    · rintro ⟨read, write⟩ kind
      cases kind with
      | read => exact read
      | write => exact write
    · intro stale
      exact ⟨stale .read, stale .write⟩
  rw [kinds]
  apply forall_congr'
  exact consistent.syncOpsStale_iff shown

/-- The test accepts a state only after the operations exactly when no pending
count it accepts is past a wrap. -/
theorem completed_iff
    (member : moment ∈
      testedMemories query.now query.bWaitForComplete query.polls) :
    (query.tests moment = true → ∀ kind, query.Completed moment kind) ↔
      (∀ kind, ¬ query.WrapBefore moment kind) ∨
        ∃ kind, ¬ query.WrapBefore moment kind ∧
          syncOpsStale (completeCounts moment.system.table (query.sync, kind))
            (pendingCounts query.now.system.table (query.sync, kind)) =
              false := by
  obtain ⟨shown, later⟩ := consistent.tested member
  have near : ∀ kind, True →
      query.now.counts.pending (query.sync, kind) <
        moment.counts.complete (query.sync, kind) + 2 ^ 32 := by
    intro kind _
    have issued := later (query.sync, kind)
    have outstanding := shown.outstanding (query.sync, kind)
    omega
  have exact := forall_reached_iff near
  simp only [true_implies, true_and] at exact
  rw [consistent.tests_iff shown]
  refine exact.trans (or_congr Iff.rfl (exists_congr fun kind => ?_))
  rw [← consistent.syncOpsStale_iff shown, Bool.not_eq_true]
  rfl

end

end Consistent

theorem result_ok_iff {moment : Moment} :
    query.result = (pvrsrvOk, moment) ↔
      query.tests moment = true ∧ ∃ earlier later,
        testedMemories query.now query.bWaitForComplete query.polls =
            earlier ++ moment :: later ∧
          ∀ before ∈ earlier, query.tests before = false := by
  refine (sgx2DQueryBlitsCompleteKM_ok_iff _).trans ?_
  rw [List.find?_eq_some_iff_append]
  simp only [Bool.not_eq_true', tests]

/-- Without waiting, a refused test means that operations are unfinished. -/
theorem Consistent.unfinished
    (consistent : query.Consistent)
    (refused : query.result.1 = pvrsrvErrorCmdNotProcessed) :
    ∃ kind, ¬ query.Completed query.now kind := by
  have hidden : ¬ query.tests query.now = true := by
    intro accepted
    have ok : query.result = (pvrsrvOk, query.now) := by
      apply result_ok_iff.mpr
      refine ⟨accepted, [], _, rfl, ?_⟩
      intro before member
      exact absurd member not_mem_nil
    have different : pvrsrvOk ≠ pvrsrvErrorCmdNotProcessed := by decide
    rw [ok] at refused
    exact different refused
  rw [consistent.tests_iff consistent.now] at hidden
  obtain ⟨kind, below⟩ := not_forall.mp hidden
  refine ⟨kind, ?_⟩
  intro completed
  have equal := le_antisymm completed
    (consistent.now.issued (query.sync, kind))
  rw [equal] at below
  exact below shownReached_self

/-- A call is sound exactly when no wrap comes between its pending counts and
the complete counts it accepts. -/
theorem sound_iff (consistent : query.Consistent) :
    query.Sound ↔ query.WrapSafe := by
  constructor
  · intro sound earlier moment later split
    have member : moment ∈
        testedMemories query.now query.bWaitForComplete query.polls := by
      rw [split]
      exact List.mem_append_right _ mem_cons_self
    by_cases accepted : ∃ before ∈ earlier, query.tests before = true
    · exact Or.inr (Or.inr accepted)
    · have rejected : ∀ before ∈ earlier, query.tests before = false := by
        intro before inEarlier
        apply Bool.eq_false_of_not_eq_true
        intro tests
        exact accepted ⟨before, inEarlier, tests⟩
      have completed : query.tests moment = true →
          ∀ kind, query.Completed moment kind := by
        intro tests
        have ok := result_ok_iff.mpr ⟨tests, earlier, later, split, rejected⟩
        have found := sound.ok (congrArg Prod.fst ok)
        rwa [ok] at found
      apply ((consistent.completed_iff member).mp completed).imp_right
      exact Or.inl
  · intro safe
    constructor
    · intro ok
      have returned : query.result = (pvrsrvOk, query.result.2) :=
        Prod.ext ok rfl
      obtain ⟨tests, earlier, later, split, rejected⟩ :=
        result_ok_iff.mp returned
      have member : query.result.2 ∈
          testedMemories query.now query.bWaitForComplete query.polls := by
        rw [split]
        exact List.mem_append_right _ mem_cons_self
      apply (consistent.completed_iff member).mpr _ tests
      obtain noWrap | kept | ⟨before, inEarlier, accepted⟩ :=
        safe earlier query.result.2 later split
      · exact Or.inl noWrap
      · exact Or.inr kept
      · rw [rejected before inEarlier] at accepted
        exact absurd accepted Bool.false_ne_true
    · intro _
      exact consistent.unfinished

end BlitQuery

/-! ## Ordered comparisons -/

/-- A flushing pass dispatches only commands whose operations have completed,
and a query answers by the operations that were pending at its call, exactly
when no wrap lies between the counts that the code orders. -/
theorem ordered_comparisons_sound_iff
    {start after : Moment}
    {queues : List Nat}
    {turns : List Turn}
    (pass : ProcessQueues true start queues turns after)
    (startConsistent : start.Consistent)
    {query : BlitQuery}
    (queryConsistent : query.Consistent) :
    ((∀ turn ∈ turns, turn.Sound true) ↔ ∀ turn ∈ turns, turn.WrapSafe) ∧
      (query.Sound ↔ query.WrapSafe) :=
  ⟨pass.sound_iff startConsistent, BlitQuery.sound_iff queryConsistent⟩

/-- Nothing is outstanding, and the next write of each sync object wraps its
pending count. -/
def settledSystem : System where
  table := fun _ => ⟨0xffffffff, 0xffffffff, 0, 0⟩
  queues := fun _ => { inserted := none, submitted := [] }
  ui32CCBOffset := fun _ _ => 0
  apsCmdCompleteData := fun _ _ _ => none
  nextSerial := 0
  history := []

/-- The queues 0 and 1 get a command each that writes the sync object 0. -/
def overwritingOps : List Op :=
  [.insert 0 0 0 [0] [] true, .submit 0, .insert 1 0 0 [0] [] true, .submit 1]

/-- The command of the queue 1 has sampled a pending count that has wrapped,
and that of the queue 0 is not complete. -/
def wrappedMoment : Moment where
  system := settledSystem.run overwritingOps
  counts :=
    { pending := fun counter =>
        match counter with
        | (0, .write) => 2 ^ 32 + 1
        | (_, .write) => 2 ^ 32 - 1
        | (_, .read) => 0
      complete := fun counter =>
        match counter with
        | (_, .write) => 2 ^ 32 - 1
        | (_, .read) => 0
      sampled := fun command ticket =>
        match ticket.1 with
        | (_, .write) => 2 ^ 32 - 1 + command.serial
        | (_, .read) => 0 }

/-- The command that writes the sync object 0 after `writes` other writes. -/
def overwriting (serial writes : Nat) : Command where
  serial
  ui32DevIndex := 0
  commandType := 0
  psDstSync := [⟨0, BitVec.ofNat 32 writes, 0⟩]
  psSrcSync := []

theorem wrapped_table : wrappedMoment.system.table =
    Function.update settledSystem.table 0 ⟨1, 0xffffffff, 0, 0⟩ :=
  Function.update_idem _ _ _

theorem wrapped_queues (queue : Nat) :
    wrappedMoment.system.queues queue =
      { inserted := none
        submitted :=
          match queue with
          | 0 => [overwriting 0 (2 ^ 32 - 1)]
          | 1 => [overwriting 1 (2 ^ 32)]
          | _ + 2 => [] } := by
  match queue with
  | 0 => rfl
  | 1 => rfl
  | _ + 2 => rfl

theorem wrapped_queued
    {command : Command}
    (queued : wrappedMoment.system.Queued command) :
    command = overwriting 0 (2 ^ 32 - 1) ∨
      command = overwriting 1 (2 ^ 32) := by
  obtain ⟨queue, inQueue⟩ := queued
  rw [wrapped_queues] at inQueue
  cases inQueue with
  | inl inserted => exact nomatch inserted
  | inr submitted =>
    match queue with
    | 0 => exact Or.inl (mem_singleton.mp submitted)
    | 1 => exact Or.inr (mem_singleton.mp submitted)
    | _ + 2 => exact absurd submitted not_mem_nil

theorem wrapped_consistent : wrappedMoment.Consistent := by
  constructor
  · rintro ⟨sync, kind⟩
    rw [wrapped_table]
    cases sync <;> cases kind <;> rfl
  · rintro ⟨sync, kind⟩
    rw [wrapped_table]
    cases sync <;> cases kind <;> rfl
  · rintro ⟨sync, kind⟩
    cases sync <;> cases kind <;> simp [wrappedMoment]
  · have unwrapped : 2 ^ 32 - 1 < 2 ^ 32 - 1 + 2 ^ 31 := by decide
    have wrapped : 2 ^ 32 + 1 < 2 ^ 32 - 1 + 2 ^ 31 := by decide
    have unread : 0 < 0 + 2 ^ 31 := by decide
    rintro ⟨sync, kind⟩
    match sync, kind with
    | 0, .write => exact wrapped
    | _ + 1, .write => exact unwrapped
    | 0, .read => exact unread
    | _ + 1, .read => exact unread
  · intro command queued
    obtain rfl | rfl := wrapped_queued queued
    · decide
    · decide
  · intro command queued
    obtain rfl | rfl := wrapped_queued queued
    · decide
    · decide

/-- A turn at a queue of the wrapped state. -/
def wrappedTurn (queue : Nat) : Turn :=
  ⟨wrappedMoment, queue, true⟩

/-- The turn after it, which finds the queue empty. -/
def emptyTurn (queue : Nat) : Turn :=
  ⟨((wrappedTurn queue).perform true).1, queue, true⟩

theorem wrapped_pass (queue : Nat) (known : queue < 2) :
    ProcessQueues true wrappedMoment [queue]
      [wrappedTurn queue, emptyTurn queue]
      ((emptyTurn queue).perform true).1 := by
  have accepted : (wrappedTurn queue).perform true =
      ((emptyTurn queue).start, true) := by
    match queue with
    | 0 => rfl
    | 1 => rfl
  have refused : (emptyTurn queue).perform true =
      (((emptyTurn queue).perform true).1, false) := by
    match queue with
    | 0 => rfl
    | 1 => rfl
  exact .accepted accepted (.refused refused .finished)

/-- A query of a sync object in the wrapped state, without waiting. -/
def wrappedQuery (sync : Nat) : BlitQuery :=
  ⟨sync, wrappedMoment, false, []⟩

theorem wrappedQuery_consistent (sync : Nat) :
    (wrappedQuery sync).Consistent :=
  ⟨wrapped_consistent, fun _ member => absurd member not_mem_nil,
    fun _ member => absurd member not_mem_nil⟩

/-- Past the wrap the later write is dispatched before the earlier one, and the
query of the sync object succeeds with both unfinished. -/
theorem ordered_comparisons_wrapped :
    (ProcessQueues true wrappedMoment [1] [wrappedTurn 1, emptyTurn 1]
          ((emptyTurn 1).perform true).1 ∧
        wrappedMoment.Consistent ∧
        ¬ ∀ turn ∈ [wrappedTurn 1, emptyTurn 1], turn.Sound true) ∧
      (wrappedQuery 0).Consistent ∧ ¬ (wrappedQuery 0).Sound := by
  refine ⟨⟨wrapped_pass 1 (by decide), wrapped_consistent, ?_⟩,
    wrappedQuery_consistent 0, ?_⟩
  · intro sound
    have dispatched :
        (wrappedTurn 1).Dispatches true (overwriting 1 (2 ^ 32)) := rfl
    have completed := sound (wrappedTurn 1) mem_cons_self _ dispatched
      ((0, .write), 0) mem_cons_self
    exact absurd completed (by decide)
  · intro sound
    have completed : 2 ^ 32 + 1 ≤ 2 ^ 32 - 1 := sound.ok rfl .write
    exact absurd completed (by decide)

/-- The pass over the other queue, whose sample has not wrapped, is sound, and
so is the query of another sync object. -/
theorem ordered_comparisons_sound_iff_settled :
    (∀ turn ∈ [wrappedTurn 0, emptyTurn 0], turn.Sound true) ∧
      (wrappedQuery 1).Sound := by
  have noWrap : ¬ WrapBetween 32 (2 ^ 32 - 1) (2 ^ 32 - 1) := Nat.lt_irrefl _
  have noReads : ¬ WrapBetween 32 0 0 := Nat.lt_irrefl _
  obtain ⟨turns, query⟩ := ordered_comparisons_sound_iff
    (wrapped_pass 0 (by decide)) wrapped_consistent
    (wrappedQuery_consistent 1)
  constructor
  · apply turns.mpr
    intro turn member command head
    left
    intro ticket waits
    cases member with
    | head =>
      have front : (wrappedMoment.system.queues 0).submitted.head? =
          some (overwriting 0 (2 ^ 32 - 1)) := rfl
      cases front.symm.trans head
      cases waits with
      | head => exact noWrap
      | tail _ read =>
        rw [mem_singleton.mp read]
        exact noReads
    | tail _ last =>
      rw [mem_singleton.mp last] at head
      exact nomatch head
  · apply query.mpr
    intro earlier moment later split
    left
    have member : moment ∈ [wrappedMoment] := by
      have all : [wrappedMoment] = earlier ++ moment :: later := split
      rw [all]
      exact List.mem_append_right _ mem_cons_self
    rw [mem_singleton.mp member]
    intro kind
    cases kind with
    | write => exact noWrap
    | read => exact noReads

end PvrServices.SgxBlit
