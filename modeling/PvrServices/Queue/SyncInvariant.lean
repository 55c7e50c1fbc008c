import PvrServices.Queue.SyncOrder

/-!
# Invariant of the synchronised queues

`live` lists the commands that are inserted and not completed, in insertion
order.  The invariant has four parts: where the live commands are, which
tickets they hold, that a command in flight shares nothing with an older one,
and what the history says about them.
-/

namespace PvrServices.SyncQueue

open Function (update update_of_ne update_self)
open Queue Tickets
open PvrServices.SyncQueue.System (log setQueue setSlot)

/-! ## Parts of the invariant -/

/-- Where a live command is. -/
inductive Place where
  | inserted (queue : Nat)
  | submitted (queue : Nat)
  | inFlight (device type offset : Nat)
deriving DecidableEq

/-- Older commands come first. -/
abbrev InOrder (commands : List Command) : Prop :=
  commands.Pairwise fun first second => first.serial < second.serial

/-- The command is at the place. -/
def System.Holds (system : System) : Place → Command → Prop
  | .inserted queue, command => (system.queues queue).inserted = some command
  | .submitted queue, command => command ∈ (system.queues queue).submitted
  | .inFlight device type offset, command =>
    system.apsCmdCompleteData device type offset = some command

/-- Every live command is at one place, and nothing else is anywhere. -/
structure Placed
    (system : System) (live : List Command) (place : Nat → Place) : Prop where
  order : InOrder live
  fresh : ∀ command ∈ live, command.serial < system.nextSerial
  holds : ∀ spot command, system.Holds spot command ↔
    command ∈ live ∧ place command.serial = spot
  queueOrder : ∀ queue, InOrder
    ((system.queues queue).submitted ++
      (system.queues queue).inserted.toList)

/-- The live commands hold tickets in order, and the pending counts are ahead
of the complete counts by what they will bump. -/
structure Counted (table : SyncTable) (live : List Command) : Prop where
  ticketed : commandScheme.Ticketed (completeCounts table) live
  pending : pendingCounts table =
    advance (completeCounts table) (commandScheme.allBumps live)
  bounded : ∀ counter, (commandScheme.allBumps live).count counter < 2 ^ 32

/-- A command in flight shares no sync object with an older live command. -/
def Independent (system : System) (live : List Command) : Prop :=
  ∀ device type offset command,
    system.apsCmdCompleteData device type offset = some command →
    ∀ older ∈ live, older.serial < command.serial →
      ¬ SharesSync older command

/-- `first` was inserted before `second`. -/
def InsertedBefore
    (history : List Event) (first second : Command) : Prop :=
  [Event.inserted first, Event.inserted second].Sublist history

/-- Whenever a command was dispatched, it had been inserted, and every command
inserted before it with which it shares a sync object had completed. -/
def Ordered (history : List Event) : Prop :=
  ∀ before after command processed,
    history = before ++ .dispatched command processed :: after →
    .inserted command ∈ before ∧
      ∀ first, InsertedBefore before first command →
        SharesSync first command → .completed first ∈ before

/-- The history accounts for the live commands and for the counts. -/
structure Recorded
    (initial system : System) (live : List Command) : Prop where
  logged : ∀ command ∈ live, .inserted command ∈ system.history
  accounted : ∀ command, .inserted command ∈ system.history →
    command ∈ live ∨ .completed command ∈ system.history
  order : InOrder (insertedCommands system.history)
  fresh : ∀ command ∈ insertedCommands system.history,
    command.serial < system.nextSerial
  balance : ∀ counter, issued system.history counter =
    finished system.history counter +
      (commandScheme.allBumps live).count counter
  complete : completeCounts system.table =
    advance (completeCounts initial.table)
      (commandScheme.allBumps (completedCommands system.history))
  ordered : Ordered system.history

/-! ## History -/

theorem insertedCommands_append (first second : List Event) :
    insertedCommands (first ++ second) =
      insertedCommands first ++ insertedCommands second :=
  List.filterMap_append

theorem completedCommands_append (first second : List Event) :
    completedCommands (first ++ second) =
      completedCommands first ++ completedCommands second :=
  List.filterMap_append

variable {history : List Event} {first second : Command} {live : List Command}

/-- Commands inserted one before the other have ordered serials. -/
theorem serial_lt_of_insertedBefore
    (order : InOrder (insertedCommands history))
    (before : InsertedBefore history first second) :
    first.serial < second.serial := by
  have sublist : [first, second].Sublist (insertedCommands history) :=
    List.Sublist.filterMap Event.insertedCommand before
  exact order.forall_sublist sublist

theorem Ordered.log
    (ordered : Ordered history)
    {event : Event}
    (last : ∀ command processed, event = .dispatched command processed →
      .inserted command ∈ history ∧
        ∀ first, InsertedBefore history first command →
          SharesSync first command → .completed first ∈ history) :
    Ordered (history ++ [event]) := by
  intro before after command processed split
  rcases List.eq_nil_or_concat after with rfl | ⟨initial, final, rfl⟩
  · obtain ⟨rfl, same⟩ := List.append_inj' split rfl
    exact last command processed (List.cons.inj same).1
  · rw [List.concat_eq_append, ← List.cons_append, ← List.append_assoc]
      at split
    obtain ⟨rfl, _⟩ := List.append_inj' split rfl
    exact ordered before initial command processed rfl

/-! ## Places -/

theorem InOrder.eq_of_serial
    (order : InOrder live)
    (inFirst : first ∈ live)
    (inSecond : second ∈ live)
    (same : first.serial = second.serial) :
    first = second := by
  have serials : (live.map Command.serial).Nodup :=
    (List.pairwise_map.mpr order).imp fun less => Nat.ne_of_lt less
  exact List.inj_on_of_nodup_map serials inFirst inSecond same

/-- Moving one live command to another place. -/
theorem Placed.move
    {system after : System}
    {place : Nat → Place}
    (placed : Placed system live place)
    {command : Command}
    (member : command ∈ live)
    {target : Place}
    (serial : after.nextSerial = system.nextSerial)
    (moved : ∀ spot other, after.Holds spot other ↔
      if other = command then target = spot else system.Holds spot other)
    (queueOrder : ∀ queue, InOrder
      ((after.queues queue).submitted ++
        (after.queues queue).inserted.toList)) :
    Placed after live (update place command.serial target) where
  order := placed.order
  fresh := by
    rw [serial]
    exact placed.fresh
  holds := by
    intro spot other
    rw [moved]
    split_ifs with same
    · subst same
      simp [member]
    · rw [placed.holds]
      refine and_congr_right fun inLive => ?_
      have different : other.serial ≠ command.serial := fun equal =>
        same (placed.order.eq_of_serial inLive member equal)
      rw [update_of_ne different]
  queueOrder := queueOrder

namespace Placed

variable {system : System} {live : List Command} {place : Nat → Place}
  {command : Command} {spot : Place} {queue device type offset : Nat}

section

variable (placed : Placed system live place)
include placed

theorem not_holds
    {other : Place}
    (holds : system.Holds spot command)
    (different : spot ≠ other) :
    ¬ system.Holds other command := by
  intro elsewhere
  have here := ((placed.holds spot command).mp holds).2
  have there := ((placed.holds other command).mp elsewhere).2
  exact different (here.symm.trans there)

theorem mem_live
    (holds : system.Holds spot command) :
    command ∈ live :=
  ((placed.holds spot command).mp holds).1

/-- Inserting a command. -/
theorem insert
    {queue : Nat}
    (vacant : (system.queues queue).inserted = none)
    {command : Command}
    (serial : command.serial = system.nextSerial)
    (table : SyncTable)
    (event : Event) :
    Placed
      (({ system with table, nextSerial := system.nextSerial + 1 }.setQueue
        queue { system.queues queue with inserted := some command }).log event)
      (live ++ [command])
      (update place command.serial (.inserted queue)) where
  order := by
    refine List.pairwise_append.mpr
      ⟨placed.order, List.pairwise_singleton _ _, ?_⟩
    intro older inLive newest isNew
    rw [List.mem_singleton.mp isNew, serial]
    exact placed.fresh older inLive
  fresh := by
    intro other member
    rcases List.mem_append.mp member with older | newest
    · exact Nat.lt_succ_of_lt (placed.fresh other older)
    · rw [List.mem_singleton.mp newest, serial]
      exact Nat.lt_succ_self _
  holds := by
    intro spot other
    have notLive : command ∉ live := fun inLive =>
      absurd (placed.fresh command inLive) (by omega)
    have elsewhere : system.Holds spot other ↔
        other ∈ live ∧
          update place command.serial (.inserted queue)
            other.serial = spot := by
      rw [placed.holds]
      refine and_congr_right fun inLive => ?_
      have below := placed.fresh other inLive
      rw [update_of_ne (by omega)]
    rw [List.mem_append, List.mem_singleton, or_and_right, ← elsewhere]
    cases spot with
    | inserted other =>
      by_cases same : other = queue
      · subst same
        simp only [System.Holds, log, setQueue, update_self, vacant]
        grind
      · simp only [System.Holds, log, setQueue, update_of_ne same]
        grind
    | submitted other =>
      by_cases same : other = queue
      · subst same
        simp only [System.Holds, log, setQueue, update_self]
        grind
      · simp only [System.Holds, log, setQueue, update_of_ne same]
        grind
    | inFlight device type offset =>
      simp only [System.Holds, log, setQueue]
      grind
  queueOrder := by
    intro other
    by_cases same : other = queue
    · subst same
      have order := placed.queueOrder other
      simp only [vacant, Option.toList_none, List.append_nil] at order
      simp only [log, setQueue, update_self, Option.toList_some]
      refine List.pairwise_append.mpr ⟨order, List.pairwise_singleton _ _, ?_⟩
      intro older inQueue newest isNew
      rw [List.mem_singleton.mp isNew, serial]
      exact placed.fresh older
        (placed.mem_live (show system.Holds (.submitted other) older from
          inQueue))
    · simp only [log, setQueue, update_of_ne same]
      exact placed.queueOrder other

end

section

variable (placed : Placed system live place)
include placed

/-- Submitting the inserted command of a queue. -/
theorem submit
    (inserted : (system.queues queue).inserted = some command) :
    Placed
      (system.setQueue queue
        { inserted := none
          submitted := (system.queues queue).submitted ++ [command] })
      live (update place command.serial (.submitted queue)) := by
  have here : system.Holds (.inserted queue) command := inserted
  refine placed.move (placed.mem_live here) rfl ?_ ?_
  · intro spot other
    have unique : other = command → spot ≠ .inserted queue →
        ¬ system.Holds spot other := by
      rintro rfl different
      exact placed.not_holds here (Ne.symm different)
    cases spot with
    | inserted there =>
      by_cases same : there = queue
      · subst same
        simp only [System.Holds, setQueue, update_self, inserted]
        grind
      · simp only [System.Holds, setQueue, update_of_ne same] at unique ⊢
        grind
    | submitted there =>
      by_cases same : there = queue
      · subst same
        simp only [System.Holds, setQueue, update_self]
          at unique ⊢
        grind
      · simp only [System.Holds, setQueue, update_of_ne same] at unique ⊢
        grind
    | inFlight device type offset =>
      simp only [System.Holds, setQueue] at unique ⊢
      grind
  · intro other
    by_cases same : other = queue
    · subst same
      have order := placed.queueOrder other
      rw [inserted] at order
      simpa [setQueue] using order
    · simp only [setQueue, update_of_ne same]
      exact placed.queueOrder other

/-- Accepting the head of a queue into a free completion slot. -/
theorem accept
    {rest : List Command}
    (head : (system.queues queue).submitted = command :: rest)
    (free : system.apsCmdCompleteData device type offset = none)
    {after : System}
    (serial : after.nextSerial = system.nextSerial)
    (queues : after.queues = update system.queues queue
      { system.queues queue with submitted := rest })
    (slots : ∀ otherDevice otherType otherOffset,
      after.apsCmdCompleteData otherDevice otherType otherOffset =
        if otherDevice = device ∧ otherType = type ∧ otherOffset = offset then
          some command
        else
          system.apsCmdCompleteData otherDevice otherType otherOffset) :
    Placed after live
      (update place command.serial (.inFlight device type offset)) := by
  have here : system.Holds (.submitted queue) command := by
    simp [System.Holds, head]
  have order := placed.queueOrder queue
  rw [head, List.cons_append] at order
  have notRest : command ∉ rest := by
    intro again
    have later := (List.pairwise_cons.mp order).1 command
      (List.mem_append_left _ again)
    omega
  refine placed.move (placed.mem_live here) serial ?_ ?_
  · intro spot other
    have unique : other = command → spot ≠ .submitted queue →
        ¬ system.Holds spot other := by
      rintro rfl different
      exact placed.not_holds here (Ne.symm different)
    cases spot with
    | inserted there =>
      by_cases same : there = queue
      · subst same
        simp only [System.Holds, queues, update_self] at unique ⊢
        grind
      · simp only [System.Holds, queues, update_of_ne same]
          at unique ⊢
        grind
    | submitted there =>
      by_cases same : there = queue
      · subst same
        simp only [System.Holds, queues, update_self, head]
        grind
      · simp only [System.Holds, queues, update_of_ne same]
          at unique ⊢
        grind
    | inFlight otherDevice otherType otherOffset =>
      simp only [System.Holds, slots] at unique ⊢
      grind
  · intro other
    rw [queues]
    by_cases same : other = queue
    · subst same
      rw [update_self]
      exact (List.pairwise_cons.mp order).2
    · rw [update_of_ne same]
      exact placed.queueOrder other

/-- Completing the command in a slot. -/
theorem complete
    (busy : system.apsCmdCompleteData device type offset = some command)
    (table : SyncTable)
    (event : Event) :
    Placed
      (({ system with table }.setSlot device type offset none).log event)
      (live.erase command) place where
  order := placed.order.sublist List.erase_sublist
  fresh := fun other member =>
    placed.fresh other (List.mem_of_mem_erase member)
  holds := by
    intro spot other
    have here : system.Holds (.inFlight device type offset) command := busy
    have distinct : live.Nodup :=
      placed.order.imp fun less same => by simp [same] at less
    have unique : other = command →
        spot ≠ .inFlight device type offset → ¬ system.Holds spot other := by
      rintro rfl different
      exact placed.not_holds here (Ne.symm different)
    rw [distinct.mem_erase_iff, and_assoc, ← placed.holds]
    cases spot with
    | inserted there | submitted there =>
      simp only [System.Holds, log, setSlot] at unique ⊢
      grind
    | inFlight otherDevice otherType otherOffset =>
      simp only [System.Holds, log, System.setSlot_apply]
        at unique ⊢
      grind
  queueOrder := placed.queueOrder

end

end Placed

end PvrServices.SyncQueue
