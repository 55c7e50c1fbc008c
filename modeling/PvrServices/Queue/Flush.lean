import PvrServices.Lib.WrappedOrder
import PvrServices.Queue.SyncOrder

/-!
# Flushing the command queues

`PVRSRVProcessQueues` with the flush flag relaxes the sync dependency test from
equality to an ordered comparison of the 32-bit counts.  The counts are the low
bits of how many operations each counter has ever counted; a command waits for
the operations that were counted when it was inserted.
-/

namespace PvrServices.SyncQueue

open Queue Tickets WrappedOrder

/-! ## The loops of `PVRSRVProcessQueues` -/

/-- One turn of the inner loop of `PVRSRVProcessQueues`. -/
def processQueueHead
    (system : System) (queue : Nat) (bFlush pfnCmdProc : Bool) :
    System × Bool :=
  match (system.queues queue).submitted with
  | [] => (system, false)
  | command :: rest =>
    match processCommand system command bFlush pfnCmdProc with
    | (system, .ok ()) =>
      (system.setQueue queue
        { system.queues queue with submitted := rest }, true)
    | (system, .error _) => (system, false)

/-- How many operations each counter has counted, pending and complete, and
how many of the pending ones each sample of a command covers. -/
structure Counts where
  pending : Counter → Nat
  complete : Counter → Nat
  sampled : Command → Counter × BitVec 32 → Nat

/-- A state of the queues and the sync objects, with what the counters have
counted. -/
structure Moment where
  system : System
  counts : Counts

/-- A turn of the inner loop: the state it starts in, the queue it is at and
what the command processor returns if it is called. -/
structure Turn where
  start : Moment
  queue : Nat
  pfnCmdProc : Bool

/-- The state after a turn, and whether the read offset moved on. -/
def Turn.perform (bFlush : Bool) (turn : Turn) : Moment × Bool :=
  let (system, accepted) :=
    processQueueHead turn.start.system turn.queue bFlush turn.pfnCmdProc
  ({ turn.start with system }, accepted)

/-- A command that is in a queue, submitted or not. -/
def System.Queued (system : System) (command : Command) : Prop :=
  ∃ queue, (system.queues queue).inserted = some command ∨
    command ∈ (system.queues queue).submitted

/-- The 32-bit counts show what has been counted, with fewer than `2 ^ 31`
operations outstanding on each counter. -/
structure Moment.Consistent (moment : Moment) : Prop where
  pending : ∀ counter, pendingCounts moment.system.table counter =
    BitVec.ofNat 32 (moment.counts.pending counter)
  complete : ∀ counter, completeCounts moment.system.table counter =
    BitVec.ofNat 32 (moment.counts.complete counter)
  issued : ∀ counter,
    moment.counts.complete counter ≤ moment.counts.pending counter
  outstanding : ∀ counter, moment.counts.pending counter <
    moment.counts.complete counter + 2 ^ 31
  sampled : ∀ command, moment.system.Queued command →
    ∀ ticket ∈ commandScheme.waits command,
      ticket.2 = BitVec.ofNat 32 (moment.counts.sampled command ticket) ∧
      moment.counts.sampled command ticket ≤ moment.counts.pending ticket.1
  serials : ∀ command, moment.system.Queued command →
    command.serial < moment.system.nextSerial

/-- The loops of `PVRSRVProcessQueues` over the queues that are left, with the
turns they take.  Between two turns other callers and the devices may change
the queues and the sync objects. -/
inductive ProcessQueues (bFlush : Bool) :
    Moment → List Nat → List Turn → Moment → Prop
  | finished {moment : Moment} : ProcessQueues bFlush moment [] [] moment
  | others
      {before between after : Moment}
      {queues : List Nat}
      {turns : List Turn}
      (consistent : between.Consistent)
      (rest : ProcessQueues bFlush between queues turns after) :
      ProcessQueues bFlush before queues turns after
  | accepted
      {turn : Turn}
      {between after : Moment}
      {queues : List Nat}
      {turns : List Turn}
      (performed : turn.perform bFlush = (between, true))
      (rest : ProcessQueues bFlush between (turn.queue :: queues) turns
        after) :
      ProcessQueues bFlush turn.start (turn.queue :: queues) (turn :: turns)
        after
  | refused
      {turn : Turn}
      {between after : Moment}
      {queues : List Nat}
      {turns : List Turn}
      (performed : turn.perform bFlush = (between, false))
      (rest : ProcessQueues bFlush between queues turns after) :
      ProcessQueues bFlush turn.start (turn.queue :: queues) (turn :: turns)
        after

/-! ## What a turn does -/

theorem processCommand_frame
    (system : System)
    (command : Command)
    (bFlush pfnCmdProc : Bool) :
    (processCommand system command bFlush pfnCmdProc).1.table =
        system.table ∧
      (processCommand system command bFlush pfnCmdProc).1.queues =
        system.queues ∧
      (processCommand system command bFlush pfnCmdProc).1.nextSerial =
        system.nextSerial := by
  simp only [processCommand]
  split_ifs
  all_goals exact ⟨rfl, rfl, rfl⟩

/-- What `PVRSRVProcessCommand` checks before it calls the command
processor. -/
structure System.Admits
    (system : System) (bFlush : Bool) (command : Command) : Prop where
  dependencies : dependenciesMet bFlush system.table command = true
  device : command.ui32DevIndex < sysDeviceCount
  slot : system.apsCmdCompleteData command.ui32DevIndex command.commandType
    (system.ui32CCBOffset command.ui32DevIndex command.commandType) = none

/-- A command is dispatched if it passes the checks, and nothing happens
otherwise. -/
theorem processCommand_history
    (system : System)
    (command : Command)
    (bFlush pfnCmdProc : Bool) :
    (system.Admits bFlush command ∧
        (processCommand system command bFlush pfnCmdProc).1.history =
          system.history ++ [.dispatched command pfnCmdProc]) ∨
      (¬ system.Admits bFlush command ∧
        (processCommand system command bFlush pfnCmdProc).1.history =
          system.history) := by
  simp only [processCommand]
  split_ifs with blocked invalid busy accepted
  · have unmet : ¬ dependenciesMet bFlush system.table command = true := by
      simpa using blocked
    exact Or.inr ⟨fun admits => unmet admits.dependencies, rfl⟩
  · exact Or.inr ⟨fun admits => Nat.not_lt.mpr invalid admits.device, rfl⟩
  · refine Or.inr ⟨fun admits => ?_, rfl⟩
    rw [admits.slot] at busy
    exact Bool.false_ne_true busy
  all_goals
    have met : dependenciesMet bFlush system.table command = true := by
      simpa using blocked
    have free := Option.not_isSome_iff_eq_none.mp busy
    exact Or.inl ⟨⟨met, Nat.not_le.mp invalid, free⟩, rfl⟩

/-- With the flush flag each sample has to be at most the complete count. -/
theorem dependencyMet_true_iff {table : SyncTable} {object : SyncObject} :
    dependencyMet true table object = true ↔
      ∀ ticket ∈ samples object,
        syncOpsStale (completeCounts table ticket.1) ticket.2 = true := by
  simp only [dependencyMet, samples, completeCounts, List.forall_mem_cons]
  split_ifs with differs
  · simp
  · have reached : ∀ count : BitVec 32, syncOpsStale count count = true :=
      fun _ => decide_eq_true (Nat.le_refl _)
    obtain ⟨writes, reads⟩ := not_or.mp differs
    simp [not_not.mp writes, not_not.mp reads, reached]

theorem dependenciesMet_true_iff {table : SyncTable} {command : Command} :
    dependenciesMet true table command = true ↔
      ∀ ticket ∈ commandScheme.waits command,
        syncOpsStale (completeCounts table ticket.1) ticket.2 = true := by
  simp only [dependenciesMet, Bool.and_eq_true, List.all_eq_true,
    dependencyMet_true_iff, commandScheme, Command.objects,
    List.mem_flatMap, List.mem_append]
  constructor
  · rintro ⟨dst, src⟩ ticket ⟨object, member, sample⟩
    cases member with
    | inl inDst => exact dst object inDst ticket sample
    | inr inSrc => exact src object inSrc ticket sample
  · intro stale
    constructor
    · intro object inDst ticket sample
      exact stale ticket ⟨object, Or.inl inDst, sample⟩
    · intro object inSrc ticket sample
      exact stale ticket ⟨object, Or.inr inSrc, sample⟩

section

variable (system : System) (queue : Nat) (bFlush pfnCmdProc : Bool)
include system queue bFlush pfnCmdProc

/-- A turn leaves an empty queue alone, drops an accepted head, and keeps a
refused one. -/
theorem processQueueHead_cases :
    ((system.queues queue).submitted = [] ∧
        processQueueHead system queue bFlush pfnCmdProc = (system, false)) ∨
      ∃ command rest after,
        (system.queues queue).submitted = command :: rest ∧
        after = (processCommand system command bFlush pfnCmdProc).1 ∧
        (processQueueHead system queue bFlush pfnCmdProc = (after, false) ∨
          processQueueHead system queue bFlush pfnCmdProc =
            (after.setQueue queue
              { after.queues queue with submitted := rest }, true)) := by
  unfold processQueueHead
  cases head : (system.queues queue).submitted with
  | nil => exact Or.inl ⟨rfl, rfl⟩
  | cons command rest =>
    refine Or.inr ⟨command, rest, _, rfl, rfl, ?_⟩
    dsimp only
    cases result : processCommand system command bFlush pfnCmdProc with
    | mk after outcome =>
      cases outcome with
      | error error => exact Or.inl rfl
      | ok => exact Or.inr rfl

theorem processQueueHead_frame :
    (processQueueHead system queue bFlush pfnCmdProc).1.table =
        system.table ∧
      (processQueueHead system queue bFlush pfnCmdProc).1.nextSerial =
        system.nextSerial ∧
      ∀ command,
        (processQueueHead system queue bFlush pfnCmdProc).1.Queued command →
          system.Queued command := by
  obtain ⟨_, result⟩ | ⟨command, rest, after, head, rfl, result | result⟩ :=
    processQueueHead_cases system queue bFlush pfnCmdProc
  · rw [result]
    exact ⟨rfl, rfl, fun _ queued => queued⟩
  · obtain ⟨table, queues, serial⟩ :=
      processCommand_frame system command bFlush pfnCmdProc
    rw [result]
    refine ⟨table, serial, ?_⟩
    rintro other ⟨place, queued⟩
    rw [queues] at queued
    exact ⟨place, queued⟩
  · obtain ⟨table, queues, serial⟩ :=
      processCommand_frame system command bFlush pfnCmdProc
    rw [result]
    refine ⟨table, serial, ?_⟩
    rintro other ⟨place, queued⟩
    refine ⟨place, ?_⟩
    by_cases same : place = queue
    · subst same
      simp only [System.setQueue, Function.update_self, queues] at queued
      rw [head]
      exact queued.imp id (List.mem_cons_of_mem _)
    · simp only [System.setQueue, Function.update_of_ne same, queues]
        at queued
      exact queued

/-- A turn dispatches the head of its queue or nothing. -/
theorem processQueueHead_dispatches_iff
    (command : Command) :
    (processQueueHead system queue bFlush pfnCmdProc).1.history =
        system.history ++ [.dispatched command pfnCmdProc] ↔
      (system.queues queue).submitted.head? = some command ∧
        system.Admits bFlush command := by
  have unchanged : ∀ event : Event,
      system.history ≠ system.history ++ [event] := by
    intro event same
    exact absurd (List.self_eq_append_right.mp same) (List.cons_ne_nil _ _)
  obtain ⟨empty, result⟩ | ⟨head, rest, after, queued, rfl, result⟩ :=
    processQueueHead_cases system queue bFlush pfnCmdProc
  · rw [result, empty]
    exact iff_of_false (unchanged _) fun dispatched => nomatch dispatched.1
  · have logged :
        (processQueueHead system queue bFlush pfnCmdProc).1.history =
          (processCommand system head bFlush pfnCmdProc).1.history := by
      cases result with
      | inl refused => rw [refused]
      | inr accepted => rw [accepted]; rfl
    rw [logged, queued, List.head?_cons, Option.some.injEq]
    obtain ⟨admits, history⟩ | ⟨refuses, history⟩ :=
      processCommand_history system head bFlush pfnCmdProc
    · rw [history]
      constructor
      · intro same
        have events := List.append_cancel_left same
        have heads : head = command := by
          injection List.head_eq_of_cons_eq events
        exact ⟨heads, heads ▸ admits⟩
      · rintro ⟨rfl, _⟩
        rfl
    · rw [history]
      refine iff_of_false (unchanged _) ?_
      rintro ⟨rfl, admits⟩
      exact refuses admits

end

/-! ## What has been counted -/

/-- The operations that were pending when the command was inserted have
completed. -/
def Moment.Completed (moment : Moment) (command : Command) : Prop :=
  ∀ ticket ∈ commandScheme.waits command,
    moment.counts.sampled command ticket ≤ moment.counts.complete ticket.1

/-- The turn calls the command processor on the command. -/
def Turn.Dispatches (bFlush : Bool) (turn : Turn) (command : Command) :
    Prop :=
  (turn.perform bFlush).1.system.history =
    turn.start.system.history ++ [.dispatched command turn.pfnCmdProc]

/-- The turn dispatches only a command whose operations have completed. -/
def Turn.Sound (bFlush : Bool) (turn : Turn) : Prop :=
  ∀ command, turn.Dispatches bFlush command → turn.start.Completed command

/-- The sample is past a wrap of its counter that the complete count has not
passed. -/
def Moment.WrapBefore
    (moment : Moment) (command : Command) (ticket : Counter × BitVec 32) :
    Prop :=
  WrapBetween 32 (moment.counts.complete ticket.1)
    (moment.counts.sampled command ticket)

/-- No sample of the head of the queue is past a wrap, or the head is kept
back: by a count without a wrap that is below its sample, by its device index
or by the completion slot. -/
def Turn.WrapSafe (turn : Turn) : Prop :=
  let system := turn.start.system
  ∀ command, (system.queues turn.queue).submitted.head? = some command →
    (∀ ticket ∈ commandScheme.waits command,
        ¬ turn.start.WrapBefore command ticket) ∨
      (∃ ticket ∈ commandScheme.waits command,
        ¬ turn.start.WrapBefore command ticket ∧
          syncOpsStale (completeCounts system.table ticket.1) ticket.2 =
            false) ∨
      sysDeviceCount ≤ command.ui32DevIndex ∨
      (system.apsCmdCompleteData command.ui32DevIndex command.commandType
        (system.ui32CCBOffset command.ui32DevIndex command.commandType)).isSome

theorem syncOpsStale_ofNat_iff (count sample : Nat) :
    syncOpsStale (BitVec.ofNat 32 count) (BitVec.ofNat 32 sample) = true ↔
      ShownReached 32 count sample :=
  decide_eq_true_iff

namespace Moment.Consistent

variable {moment : Moment} {command : Command} {ticket : Counter × BitVec 32}

section

variable (consistent : moment.Consistent)
include consistent

section

variable (queued : moment.system.Queued command)
include queued

/-- The 32-bit comparison of a queued command's sample with the complete
count. -/
theorem syncOpsStale_iff
    (waits : ticket ∈ commandScheme.waits command) :
    syncOpsStale (completeCounts moment.system.table ticket.1) ticket.2 =
        true ↔
      ShownReached 32 (moment.counts.complete ticket.1)
        (moment.counts.sampled command ticket) := by
  rw [(consistent.sampled command queued ticket waits).1, consistent.complete]
  exact syncOpsStale_ofNat_iff _ _

/-- A sample is less than the range of a counter ahead of the complete
count. -/
theorem sampled_lt
    (waits : ticket ∈ commandScheme.waits command) :
    moment.counts.sampled command ticket <
      moment.counts.complete ticket.1 + 2 ^ 32 := by
  have issued := (consistent.sampled command queued ticket waits).2
  have outstanding := consistent.outstanding ticket.1
  omega

/-- The ordered test accepts a queued command only after its operations
exactly when no accepted sample is past a wrap. -/
theorem completed_iff :
    (dependenciesMet true moment.system.table command = true →
        moment.Completed command) ↔
      (∀ ticket ∈ commandScheme.waits command,
          ¬ moment.WrapBefore command ticket) ∨
        ∃ ticket ∈ commandScheme.waits command,
          ¬ moment.WrapBefore command ticket ∧
            syncOpsStale (completeCounts moment.system.table ticket.1)
              ticket.2 = false := by
  have shown : dependenciesMet true moment.system.table command = true ↔
      ∀ ticket, ticket ∈ commandScheme.waits command →
        ShownReached 32 (moment.counts.complete ticket.1)
          (moment.counts.sampled command ticket) := by
    rw [dependenciesMet_true_iff]
    apply forall₂_congr
    intro ticket waits
    exact consistent.syncOpsStale_iff queued waits
  have hidden : ∀ ticket ∈ commandScheme.waits command,
      (syncOpsStale (completeCounts moment.system.table ticket.1) ticket.2 =
          false ↔
        ¬ ShownReached 32 (moment.counts.complete ticket.1)
          (moment.counts.sampled command ticket)) := by
    intro ticket waits
    rw [← consistent.syncOpsStale_iff queued waits, Bool.not_eq_true]
  rw [shown]
  refine (forall_reached_iff fun ticket waits =>
    consistent.sampled_lt queued waits).trans ?_
  apply or_congr Iff.rfl
  apply exists_congr
  intro ticket
  apply and_congr_right
  intro waits
  rw [hidden ticket waits]
  rfl

end

end

end Moment.Consistent

variable {turn : Turn} {bFlush : Bool} {queues : List Nat}
  {start after : Moment} {turns : List Turn}

theorem Turn.dispatches_iff
    {command : Command} :
    turn.Dispatches bFlush command ↔
      (turn.start.system.queues turn.queue).submitted.head? = some command ∧
        turn.start.system.Admits bFlush command :=
  processQueueHead_dispatches_iff turn.start.system turn.queue bFlush
    turn.pfnCmdProc command

/-- A flushing turn is sound exactly when its head is not past a wrap or is
kept back. -/
theorem Turn.sound_iff
    (consistent : turn.start.Consistent) :
    turn.Sound true ↔ turn.WrapSafe := by
  have queued : ∀ command,
      (turn.start.system.queues turn.queue).submitted.head? = some command →
        turn.start.system.Queued command := by
    intro command head
    exact ⟨turn.queue, Or.inr (List.mem_of_head? head)⟩
  constructor
  · intro sound command head
    by_cases device : command.ui32DevIndex < sysDeviceCount
    · cases slot : turn.start.system.apsCmdCompleteData command.ui32DevIndex
          command.commandType (turn.start.system.ui32CCBOffset
            command.ui32DevIndex command.commandType) with
      | some other => exact Or.inr (Or.inr (Or.inr rfl))
      | none =>
        have tested : dependenciesMet true turn.start.system.table command =
            true → turn.start.Completed command := by
          intro met
          apply sound
          exact Turn.dispatches_iff.mpr ⟨head, met, device, slot⟩
        apply ((consistent.completed_iff (queued command head)).mp
          tested).imp_right
        exact Or.inl
    · exact Or.inr (Or.inr (Or.inl (Nat.not_lt.mp device)))
  · intro safe command dispatched
    obtain ⟨head, admits⟩ := Turn.dispatches_iff.mp dispatched
    have tested := (consistent.completed_iff (queued command head)).mpr
    obtain noWrap | kept | device | slot := safe command head
    · exact tested (Or.inl noWrap) admits.dependencies
    · exact tested (Or.inr kept) admits.dependencies
    · exact absurd admits.device (Nat.not_lt.mpr device)
    · rw [admits.slot] at slot
      exact absurd slot Bool.false_ne_true

/-! ## A whole pass -/

theorem Turn.perform_consistent
    (bFlush : Bool)
    (consistent : turn.start.Consistent) :
    (turn.perform bFlush).1.Consistent := by
  obtain ⟨table, serial, queued⟩ := processQueueHead_frame turn.start.system
    turn.queue bFlush turn.pfnCmdProc
  constructor
  · intro counter
    exact (congrArg (pendingCounts · counter) table).trans
      (consistent.pending counter)
  · intro counter
    exact (congrArg (completeCounts · counter) table).trans
      (consistent.complete counter)
  · exact consistent.issued
  · exact consistent.outstanding
  · intro command inQueue
    exact consistent.sampled command (queued command inQueue)
  · intro command inQueue
    exact lt_of_lt_of_eq (consistent.serials command (queued command inQueue))
      serial.symm

/-- Every turn of a pass starts in a consistent state, and the pass ends in
one. -/
theorem ProcessQueues.consistent
    (pass : ProcessQueues bFlush start queues turns after)
    (consistent : start.Consistent) :
    (∀ turn ∈ turns, turn.start.Consistent) ∧ after.Consistent := by
  induction pass with
  | finished =>
    exact ⟨fun _ member => absurd member List.not_mem_nil, consistent⟩
  | others between _ ih => exact ih between
  | accepted performed _ ih
  | refused performed _ ih =>
    have next := Turn.perform_consistent bFlush consistent
    rw [performed] at next
    obtain ⟨turns, last⟩ := ih next
    exact ⟨List.forall_mem_cons.mpr ⟨consistent, turns⟩, last⟩

/-- A flushing pass dispatches only commands whose operations have completed
exactly when each of its turns keeps back the heads that are past a wrap. -/
theorem ProcessQueues.sound_iff
    (pass : ProcessQueues true start queues turns after)
    (consistent : start.Consistent) :
    (∀ turn ∈ turns, turn.Sound true) ↔ ∀ turn ∈ turns, turn.WrapSafe := by
  apply forall₂_congr
  intro turn member
  exact Turn.sound_iff ((pass.consistent consistent).1 turn member)

end PvrServices.SyncQueue
