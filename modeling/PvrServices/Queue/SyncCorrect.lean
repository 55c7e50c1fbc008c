import PvrServices.Queue.SyncInvariant

/-!
# Sync ordering of the command queues

Each call keeps the invariant of the synchronised queues.  Every reachable
state therefore has a well-ordered history and exact counters, and can make
progress unless the oldest command waits for its submission.
-/

namespace PvrServices.SyncQueue

open Queue Tickets
open List (append_nil count_append mem_append mem_append_left mem_cons
  mem_cons_self mem_map mem_singleton pairwise_cons)
open Scheme (allBumps allBumps_append)

/-! ## What the calls do -/

/-- The command an insertion builds holds the pending counts it found, and
its accesses are pending afterwards. -/
theorem insertCommand_eq
    (system : System)
    (queue ui32DevIndex commandType : Nat)
    {apsDstSync apsSrcSync : List Nat}
    (distinct : (apsDstSync ++ apsSrcSync).Nodup) :
    ∃ table command,
      insertCommand system queue ui32DevIndex commandType apsDstSync
          apsSrcSync true =
        ({ system with table, nextSerial := system.nextSerial + 1 }.setQueue
          queue { system.queues queue with inserted := some command }).log
            (.inserted command) ∧
      command.serial = system.nextSerial ∧
      commandScheme.bumps command = accesses apsDstSync apsSrcSync ∧
      commandScheme.Ready (pendingCounts system.table) command ∧
      completeCounts table = completeCounts system.table ∧
      pendingCounts table =
        advance (pendingCounts system.table)
          (commandScheme.bumps command) := by
  obtain ⟨dstDistinct, srcDistinct, apart⟩ := List.nodup_append.mp distinct
  obtain ⟨dstComplete, dstPending⟩ :=
    sampleSyncs_counts false system.table apsDstSync
  obtain ⟨srcComplete, srcPending⟩ :=
    sampleSyncs_counts true (sampleSyncs false system.table apsDstSync).1
      apsSrcSync
  have dstObjects := sampleSyncs_objects false system.table dstDistinct
  have srcObjects :
      (sampleSyncs true (sampleSyncs false system.table apsDstSync).1
        apsSrcSync).2 = apsSrcSync.map (sampleOf system.table) := by
    rw [sampleSyncs_objects true _ srcDistinct]
    apply List.map_congr_left
    intro sync inSrc
    have untouched : ∀ kind, (sync, kind) ∉
        apsDstSync.map (·, opKind false) := by
      intro kind inDst
      obtain ⟨other, member, same⟩ := mem_map.mp inDst
      exact apart other member sync inSrc (Prod.mk.inj same).1
    simp only [sampleOf, dstPending, advance_of_notMem _ (untouched _)]
  have bumps : ∀ dst src : List Nat, commandScheme.bumps
      { serial := system.nextSerial, ui32DevIndex, commandType
        psDstSync := dst.map (sampleOf system.table)
        psSrcSync := src.map (sampleOf system.table) } =
      accesses dst src := by
    intro dst src
    simp [commandScheme, Function.comp_def, sampleOf]
  refine ⟨_, _, rfl, rfl, ?_, ?_, srcComplete.trans dstComplete, ?_⟩
  · rw [dstObjects, srcObjects, bumps]
  · intro ticket waits
    simp only [dstObjects, srcObjects, commandScheme, Command.objects,
      ← List.map_append, List.mem_flatMap, mem_map] at waits
    obtain ⟨_, ⟨sync, _, rfl⟩, sample⟩ := waits
    simp only [samples, sampleOf, mem_cons, List.not_mem_nil,
      or_false] at sample
    rcases sample with rfl | rfl <;> rfl
  · rw [dstObjects, srcObjects, bumps, srcPending, dstPending,
      ← advance_append]
    rfl

/-- A call of the command processor on the head of a queue. -/
structure Dispatch
    (system after : System)
    (queue device type offset : Nat)
    (command : Command)
    (rest : List Command)
    (processed : Bool) : Prop where
  head : (system.queues queue).submitted = command :: rest
  ready : commandScheme.Ready (completeCounts system.table) command
  free : system.apsCmdCompleteData device type offset = none
  table : after.table = system.table
  serial : after.nextSerial = system.nextSerial
  history : after.history = system.history ++ [.dispatched command processed]
  queues : after.queues =
    if processed then
      Function.update system.queues queue
        { system.queues queue with submitted := rest }
    else system.queues
  slots : ∀ otherDevice otherType otherOffset,
    after.apsCmdCompleteData otherDevice otherType otherOffset =
      if processed ∧ otherDevice = device ∧ otherType = type ∧
          otherOffset = offset then
        some command
      else
        system.apsCmdCompleteData otherDevice otherType otherOffset

/-- Processing the head of a queue changes nothing or dispatches it. -/
theorem processHead_cases
    (system : System)
    (queue : Nat)
    (pfnCmdProc : Bool) :
    (processHead system queue pfnCmdProc).1 = system ∨
      ∃ device type offset command rest,
        Dispatch system (processHead system queue pfnCmdProc).1
          queue device type offset command rest pfnCmdProc := by
  unfold processHead
  cases head : (system.queues queue).submitted with
  | nil => exact Or.inl rfl
  | cons command rest =>
    simp only [processCommand]
    split_ifs with blocked invalid busy accepted
    · exact Or.inl rfl
    · exact Or.inl rfl
    · exact Or.inl rfl
    · right
      have free := Option.not_isSome_iff_eq_none.mp busy
      refine ⟨_, _, _, command, rest, head, ?_, free, rfl, rfl, ?_, ?_, ?_⟩
      · exact dependenciesMet_iff.mp (by simpa using blocked)
      · rw [accepted]
        rfl
      · rw [accepted]
        rfl
      · intro otherDevice otherType otherOffset
        simp only [accepted, true_and]
        exact System.setSlot_apply ..
    · right
      have free := Option.not_isSome_iff_eq_none.mp busy
      have refused : pfnCmdProc = false := by simpa using accepted
      refine ⟨_, _, _, command, rest, head, ?_, free, rfl, rfl, ?_, ?_, ?_⟩
      · exact dependenciesMet_iff.mp (by simpa using blocked)
      · rw [refused]
        rfl
      · rw [refused]
        rfl
      · intro otherDevice otherType otherOffset
        simp only [refused, System.setCCBOffset, System.setSlot_apply,
          System.log]
        grind

/-- Completing a command advances the complete counts by its accesses. -/
theorem completeSyncs_command (table : SyncTable) (command : Command) :
    completeCounts
          (completeSyncs SyncData.completeRead
            (completeSyncs SyncData.completeWrite table command.psDstSync)
            command.psSrcSync) =
        advance (completeCounts table) (commandScheme.bumps command) ∧
      pendingCounts
          (completeSyncs SyncData.completeRead
            (completeSyncs SyncData.completeWrite table command.psDstSync)
            command.psSrcSync) =
        pendingCounts table := by
  obtain ⟨writes, writesPending⟩ :=
    completeSyncs_counts completeWrite_counts table command.psDstSync
  obtain ⟨reads, readsPending⟩ :=
    completeSyncs_counts completeRead_counts
      (completeSyncs SyncData.completeWrite table command.psDstSync)
      command.psSrcSync
  refine ⟨?_, readsPending.trans writesPending⟩
  rw [reads, writes, ← advance_append]
  rfl

/-! ## Counters of the live commands -/

namespace Counted

variable {table after : SyncTable} {live : List Command} {command : Command}

/-- A command that passes the dependency test shares no sync object with an
older live command. -/
theorem not_sharesSync_of_ready
    (counted : Counted table live)
    (order : InOrder live)
    (member : command ∈ live)
    (ready : commandScheme.Ready (completeCounts table) command)
    {older : Command}
    (inLive : older ∈ live)
    (less : older.serial < command.serial) :
    ¬ SharesSync older command := by
  obtain ⟨earlier, later, rfl⟩ := List.append_of_mem member
  have inEarlier : older ∈ earlier := by
    rcases mem_append.mp inLive with before | notBefore
    · exact before
    · have behind := (List.pairwise_append.mp order).2.1
      rcases mem_cons.mp notBefore with rfl | inLater
      · omega
      · have greater := (pairwise_cons.mp behind).1 older inLater
        omega
  apply not_sharesSync_of_waits
  intro ticket waits bumped
  have bounded : ∀ counter,
      (commandScheme.allBumps earlier).count counter < 2 ^ 32 := by
    intro counter
    have total := counted.bounded counter
    rw [allBumps_append, count_append] at total
    omega
  exact Scheme.notMem_earlier_of_ready counted.ticketed bounded ready waits
    (List.mem_flatMap.mpr ⟨older, inEarlier, bumped⟩)

theorem insert
    (counted : Counted table live)
    {command : Command}
    (ready : commandScheme.Ready (pendingCounts table) command)
    (complete : completeCounts after = completeCounts table)
    (pending : pendingCounts after =
      advance (pendingCounts table) (commandScheme.bumps command))
    (bounded : ∀ counter,
      (commandScheme.allBumps (live ++ [command])).count counter < 2 ^ 32) :
    Counted after (live ++ [command]) where
  ticketed := by
    rw [complete, Scheme.ticketed_append, ← counted.pending]
    exact ⟨counted.ticketed, ready, trivial⟩
  pending := by
    rw [pending, counted.pending, complete, ← advance_append, allBumps_append]
    simp [allBumps]
  bounded := bounded

theorem complete
    (counted : Counted table live)
    (member : command ∈ live)
    (independent : ∀ older ∈ live, older.serial < command.serial →
      ¬ SharesSync older command)
    (order : InOrder live)
    (advanced : completeCounts after =
      advance (completeCounts table) (commandScheme.bumps command))
    (pending : pendingCounts after = pendingCounts table) :
    Counted after (live.erase command) := by
  obtain ⟨earlier, later, _, split, erased⟩ := List.exists_erase_eq member
  rw [erased]
  subst split
  refine ⟨?_, ?_, ?_⟩
  · rw [advanced]
    apply Scheme.ticketed_remove counted.ticketed
    intro older inEarlier
    apply waits_apart_of_not_sharesSync
    apply independent older (mem_append_left _ inEarlier)
    exact (List.pairwise_append.mp order).2.2 older inEarlier command
      mem_cons_self
  · rw [pending, counted.pending, advanced, ← advance_append]
    apply advance_perm
    exact (List.perm_middle.flatMap_right _)
  · intro counter
    have total := counted.bounded counter
    simp only [allBumps, List.flatMap_append, List.flatMap_cons,
      count_append] at total ⊢
    omega

end Counted

/-! ## The history -/

namespace Recorded

variable {initial system after : System} {live : List Command}
  {command : Command}

section

variable (recorded : Recorded initial system live)
include recorded

theorem insert
    {command : Command}
    (serial : command.serial = system.nextSerial)
    (next : after.nextSerial = system.nextSerial + 1)
    (history : after.history = system.history ++ [.inserted command])
    (complete : completeCounts after.table = completeCounts system.table) :
    Recorded initial after (live ++ [command]) := by
  have insertedAfter : insertedCommands after.history =
      insertedCommands system.history ++ [command] := by
    rw [history, insertedCommands_append]
    rfl
  have completedAfter : completedCommands after.history =
      completedCommands system.history := by
    rw [history, completedCommands_append]
    exact append_nil _
  refine ⟨?_, ?_, ?_, ?_, ?_, ?_, ?_⟩
  · intro other member
    rw [history]
    rcases mem_append.mp member with older | newest
    · exact mem_append_left _ (recorded.logged other older)
    · rw [mem_singleton.mp newest]
      exact List.mem_append_right _ mem_cons_self
  · intro other member
    rw [history] at member ⊢
    simp only [mem_append, mem_singleton, Event.inserted.injEq,
      reduceCtorEq, or_false] at member ⊢
    rcases member with before | rfl
    · rcases recorded.accounted other before with alive | done
      · exact Or.inl (Or.inl alive)
      · exact Or.inr done
    · exact Or.inl (Or.inr rfl)
  · rw [insertedAfter]
    refine List.pairwise_append.mpr
      ⟨recorded.order, List.pairwise_singleton _ _, ?_⟩
    intro older member newest isNew
    rw [mem_singleton.mp isNew, serial]
    exact recorded.fresh older member
  · intro other member
    rw [insertedAfter] at member
    rw [next]
    rcases mem_append.mp member with older | newest
    · exact Nat.lt_succ_of_lt (recorded.fresh other older)
    · rw [mem_singleton.mp newest, serial]
      exact Nat.lt_succ_self _
  · intro counter
    have before := recorded.balance counter
    simp only [issued, finished] at before ⊢
    rw [insertedAfter, completedAfter, allBumps_append,
      allBumps_append, count_append, count_append, before,
      Nat.add_assoc]
  · rw [complete, completedAfter]
    exact recorded.complete
  · rw [history]
    apply recorded.ordered.log
    intro other processed same
    cases same

theorem dispatch
    {processed : Bool}
    (member : command ∈ live)
    (apart : ∀ older ∈ live, older.serial < command.serial →
      ¬ SharesSync older command)
    (next : after.nextSerial = system.nextSerial)
    (history : after.history =
      system.history ++ [.dispatched command processed])
    (table : after.table = system.table) :
    Recorded initial after live := by
  have insertedAfter : insertedCommands after.history =
      insertedCommands system.history := by
    rw [history, insertedCommands_append]
    exact append_nil _
  have completedAfter : completedCommands after.history =
      completedCommands system.history := by
    rw [history, completedCommands_append]
    exact append_nil _
  refine ⟨?_, ?_, ?_, ?_, ?_, ?_, ?_⟩
  · intro other inLive
    rw [history]
    exact mem_append_left _ (recorded.logged other inLive)
  · intro other logged
    rw [history] at logged ⊢
    simp only [mem_append, mem_singleton, reduceCtorEq, or_false]
      at logged ⊢
    exact recorded.accounted other logged
  · rw [insertedAfter]
    exact recorded.order
  · rw [insertedAfter, next]
    exact recorded.fresh
  · intro counter
    simp only [issued, finished, insertedAfter, completedAfter]
    exact recorded.balance counter
  · rw [table, completedAfter]
    exact recorded.complete
  · rw [history]
    apply recorded.ordered.log
    intro other otherProcessed same
    obtain ⟨rfl, _⟩ := Event.dispatched.inj same
    refine ⟨recorded.logged command member, ?_⟩
    intro first before shares
    have logged : Event.inserted first ∈ system.history :=
      before.subset mem_cons_self
    rcases recorded.accounted first logged with alive | done
    · have less := serial_lt_of_insertedBefore recorded.order before
      exact absurd shares (apart first alive less)
    · exact done

theorem complete_command
    (member : command ∈ live)
    (next : after.nextSerial = system.nextSerial)
    (history : after.history = system.history ++ [.completed command])
    (advanced : completeCounts after.table =
      advance (completeCounts system.table) (commandScheme.bumps command)) :
    Recorded initial after (live.erase command) := by
  have insertedAfter : insertedCommands after.history =
      insertedCommands system.history := by
    rw [history, insertedCommands_append]
    exact append_nil _
  have completedAfter : completedCommands after.history =
      completedCommands system.history ++ [command] := by
    rw [history, completedCommands_append]
    rfl
  have lastBumps : commandScheme.allBumps [command] =
      commandScheme.bumps command := by
    simp [allBumps]
  refine ⟨?_, ?_, ?_, ?_, ?_, ?_, ?_⟩
  · intro other inErased
    rw [history]
    exact mem_append_left _
      (recorded.logged other (List.mem_of_mem_erase inErased))
  · intro other logged
    rw [history] at logged ⊢
    simp only [mem_append, mem_singleton, reduceCtorEq, or_false,
      Event.completed.injEq] at logged ⊢
    rcases recorded.accounted other logged with alive | done
    · by_cases same : other = command
      · exact Or.inr (Or.inr same)
      · exact Or.inl ((List.mem_erase_of_ne same).mpr alive)
    · exact Or.inr (Or.inl done)
  · rw [insertedAfter]
    exact recorded.order
  · rw [insertedAfter, next]
    exact recorded.fresh
  · intro counter
    have before := recorded.balance counter
    have shrunk := ((List.perm_cons_erase member).flatMap_right
      commandScheme.bumps).count_eq counter
    rw [List.flatMap_cons, count_append] at shrunk
    simp only [issued, finished] at before ⊢
    rw [insertedAfter, completedAfter, allBumps_append, lastBumps,
      count_append, before]
    simp only [allBumps] at shrunk ⊢
    omega
  · rw [advanced, completedAfter, recorded.complete, allBumps_append,
      lastBumps, advance_append]
  · rw [history]
    apply recorded.ordered.log
    intro other processed same
    cases same

end

end Recorded

/-! ## The invariant -/

/-- The invariant of the synchronised queues. -/
structure SyncInvariant
    (initial system : System)
    (live : List Command)
    (place : Nat → Place) : Prop where
  placed : Placed system live place
  counted : Counted system.table live
  independent : Independent system live
  recorded : Recorded initial system live

namespace SyncInvariant

variable {initial system : System} {live : List Command}
  {place : Nat → Place}

section

variable (invariant : SyncInvariant initial system live place)
include invariant

theorem insert
    {queue ui32DevIndex commandType : Nat}
    {apsDstSync apsSrcSync : List Nat}
    {space : Bool}
    (allowed : (Op.insert queue ui32DevIndex commandType apsDstSync
      apsSrcSync space).Allowed system) :
    ∃ live place, SyncInvariant initial
      (insertCommand system queue ui32DevIndex commandType apsDstSync
        apsSrcSync space) live place := by
  obtain ⟨vacant, distinct, room⟩ := allowed
  cases space with
  | false => exact ⟨live, place, invariant⟩
  | true =>
    obtain ⟨table, command, result, serial, bumps, ready, complete,
      pending⟩ :=
      insertCommand_eq system queue ui32DevIndex commandType distinct
    have bounded : ∀ counter,
        (commandScheme.allBumps (live ++ [command])).count counter <
          2 ^ 32 := by
      intro counter
      have single : (accesses apsDstSync apsSrcSync).count counter ≤ 1 := by
        apply List.nodup_iff_count_le_one.mp
        exact accesses_nodup distinct
      have before := invariant.counted.bounded counter
      have issued := invariant.recorded.balance counter
      rw [allBumps_append, count_append]
      simp only [allBumps, List.flatMap_singleton, bumps]
        at before issued ⊢
      by_cases accessed : counter ∈ accesses apsDstSync apsSrcSync
      · have limit := room counter accessed
        omega
      · rw [List.count_eq_zero_of_not_mem accessed]
        exact before
    rw [result]
    refine ⟨live ++ [command], _,
      invariant.placed.insert vacant serial table _,
      invariant.counted.insert ready complete pending bounded, ?_,
      invariant.recorded.insert serial rfl rfl complete⟩
    · intro device type offset other busy older member less
      have busyBefore : system.Holds (.inFlight device type offset) other :=
        busy
      have below := invariant.placed.fresh other
        (invariant.placed.mem_live busyBefore)
      rcases mem_append.mp member with inLive | newest
      · exact invariant.independent device type offset other busy older
          inLive less
      · rw [mem_singleton.mp newest] at less
        omega

theorem submit
    (queue : Nat) :
    ∃ place, SyncInvariant initial (submitCommand system queue) live
      place := by
  unfold submitCommand
  cases inserted : (system.queues queue).inserted with
  | none => exact ⟨place, invariant⟩
  | some command =>
    have recorded := invariant.recorded
    exact ⟨_, invariant.placed.submit inserted, invariant.counted,
      invariant.independent, recorded.logged, recorded.accounted,
      recorded.order, recorded.fresh, recorded.balance, recorded.complete,
      recorded.ordered⟩

theorem process
    (queue : Nat)
    (pfnCmdProc : Bool) :
    ∃ place, SyncInvariant initial
      (processHead system queue pfnCmdProc).1 live place := by
  rcases processHead_cases system queue pfnCmdProc with
    same | ⟨device, type, offset, command, rest, dispatch⟩
  · rw [same]
    exact ⟨place, invariant⟩
  · have here : system.Holds (.submitted queue) command := by
      simp [System.Holds, dispatch.head]
    have member := invariant.placed.mem_live here
    have apart : ∀ older ∈ live, older.serial < command.serial →
        ¬ SharesSync older command := fun older inLive less =>
      invariant.counted.not_sharesSync_of_ready invariant.placed.order
        member dispatch.ready inLive less
    have recorded := invariant.recorded.dispatch member apart
      dispatch.serial dispatch.history dispatch.table
    have counted : Counted (processHead system queue pfnCmdProc).1.table
        live := by
      rw [dispatch.table]
      exact invariant.counted
    have queues := dispatch.queues
    have slots := dispatch.slots
    cases pfnCmdProc with
    | true =>
      simp only [if_true, true_and] at queues slots
      refine ⟨_, invariant.placed.accept dispatch.head dispatch.free
        dispatch.serial queues slots, counted, ?_, recorded⟩
      intro otherDevice otherType otherOffset other busy
      rw [slots] at busy
      split_ifs at busy
      · cases busy
        exact apart
      · exact invariant.independent _ _ _ other busy
    | false =>
      simp only [Bool.false_eq_true, if_false, false_and] at queues slots
      refine ⟨place, ?_, counted, ?_, recorded⟩
      · have placed := invariant.placed
        refine ⟨placed.order, ?_, ?_, ?_⟩
        · rw [dispatch.serial]
          exact placed.fresh
        · intro spot other
          rw [← placed.holds]
          cases spot <;> simp only [System.Holds, queues, slots]
        · rw [queues]
          exact placed.queueOrder
      · intro otherDevice otherType otherOffset other busy
        rw [slots] at busy
        exact invariant.independent _ _ _ other busy

theorem complete
    (device type offset : Nat) :
    ∃ live, SyncInvariant initial
      (commandComplete system device type offset) live place := by
  unfold commandComplete
  cases busy : system.apsCmdCompleteData device type offset with
  | none => exact ⟨live, invariant⟩
  | some command =>
    have here : system.Holds (.inFlight device type offset) command := busy
    have member := invariant.placed.mem_live here
    obtain ⟨advanced, pending⟩ := completeSyncs_command system.table command
    refine ⟨live.erase command, ?_, ?_, ?_, ?_⟩
    · exact invariant.placed.complete busy _ _
    · exact invariant.counted.complete member
        (invariant.independent device type offset command busy)
        invariant.placed.order advanced pending
    · intro otherDevice otherType otherOffset other otherBusy older inErased
      simp only [System.log, System.setSlot_apply] at otherBusy
      split_ifs at otherBusy
      exact invariant.independent _ _ _ other otherBusy older
        (List.mem_of_mem_erase inErased)
    · exact invariant.recorded.complete_command member rfl rfl advanced

/-- One call keeps the invariant. -/
theorem step
    {op : Op}
    (allowed : op.Allowed system) :
    ∃ live place, SyncInvariant initial (system.step op) live place := by
  cases op with
  | insert queue ui32DevIndex commandType apsDstSync apsSrcSync space =>
    exact invariant.insert allowed
  | submit queue => exact ⟨live, invariant.submit queue⟩
  | process queue pfnCmdProc =>
    exact ⟨live, invariant.process queue pfnCmdProc⟩
  | complete device type offset =>
    obtain ⟨live, kept⟩ := invariant.complete device type offset
    exact ⟨live, place, kept⟩

end

end SyncInvariant

variable {initial : System}

theorem syncInvariant_fresh
    (fresh : initial.Fresh)
    (place : Nat → Place) :
    SyncInvariant initial initial [] place where
  placed := by
    refine ⟨List.Pairwise.nil, by simp, ?_, ?_⟩
    · intro spot command
      cases spot <;> simp [System.Holds, fresh.queues, fresh.slots]
    · intro queue
      simp [fresh.queues]
  counted := by
    refine ⟨trivial, ?_, ?_⟩
    · rw [fresh.settled]
      exact (advance_nil _).symm
    · simp [allBumps]
  independent := by
    intro device type offset command busy
    simp [fresh.slots] at busy
  recorded := by
    refine ⟨?_, ?_, ?_, ?_, ?_, ?_, ?_⟩ <;>
      simp [fresh.history, insertedCommands, completedCommands, issued,
        finished, Ordered, allBumps]

/-- Reachable states satisfy the invariant. -/
theorem Reachable.invariant
    {system : System}
    (reachable : Reachable initial system)
    (fresh : initial.Fresh) :
    ∃ live place, SyncInvariant initial system live place := by
  induction reachable with
  | start => exact ⟨[], fun _ => .inserted 0, syncInvariant_fresh fresh _⟩
  | step _ allowed ih =>
    obtain ⟨live, place, invariant⟩ := ih
    exact invariant.step allowed

/-! ## Main result -/

/-- The dependencies of the head of some queue are met. -/
def System.CanProceed (system : System) : Prop :=
  ∃ queue head rest,
    (system.queues queue).submitted = head :: rest ∧
      dependenciesMet false system.table head = true

/-- No command is in flight. -/
def System.Idle (system : System) : Prop :=
  ∀ device type offset, system.apsCmdCompleteData device type offset = none

/-- Dispatches respect the insertion order of commands that share a sync
object; the counts are those of the inserted and completed operations, of
which fewer than `2 ^ 32` are outstanding; an idle system can proceed when a
submitted command was inserted before every command that waits for its
submission. -/
structure SyncOrdered (initial system : System) : Prop where
  ordered : Ordered system.history
  outstanding : ∀ counter,
    finished system.history counter ≤ issued system.history counter ∧
      issued system.history counter < finished system.history counter + 2 ^ 32
  pending : ∀ counter,
    pendingCounts system.table counter =
      pendingCounts initial.table counter +
        BitVec.ofNat 32 (issued system.history counter)
  complete : ∀ counter,
    completeCounts system.table counter =
      pendingCounts initial.table counter +
        BitVec.ofNat 32 (finished system.history counter)
  progress : system.Idle →
    ∀ queue command, command ∈ (system.queues queue).submitted →
      (∀ other waiting, (system.queues other).inserted = some waiting →
        InsertedBefore system.history command waiting) →
      system.CanProceed

namespace SyncInvariant

variable {initial system : System} {live : List Command}
  {place : Nat → Place}

/-- The oldest live command passes the dependency test, and if it is
submitted it is the head of its queue. -/
theorem progress
    (invariant : SyncInvariant initial system live place)
    (idle : system.Idle)
    {queue : Nat}
    {command : Command}
    (submitted : command ∈ (system.queues queue).submitted)
    (before : ∀ other waiting,
      (system.queues other).inserted = some waiting →
      InsertedBefore system.history command waiting) :
    system.CanProceed := by
  have placed := invariant.placed
  have inLive : command ∈ live :=
    placed.mem_live (show system.Holds (.submitted queue) command from
      submitted)
  cases live with
  | nil => cases inLive
  | cons oldest later =>
    have youngest : ∀ other ∈ oldest :: later,
        oldest.serial ≤ other.serial := by
      intro other member
      rcases mem_cons.mp member with rfl | inLater
      · exact le_rfl
      · exact Nat.le_of_lt ((pairwise_cons.mp placed.order).1 other inLater)
    have ready : dependenciesMet false system.table oldest = true :=
      dependenciesMet_iff.mpr invariant.counted.ticketed.1
    have holds := (placed.holds (place oldest.serial) oldest).mpr
      ⟨mem_cons_self, rfl⟩
    cases spot : place oldest.serial with
    | inserted other =>
      rw [spot] at holds
      have less := serial_lt_of_insertedBefore
        invariant.recorded.order (before other oldest holds)
      have bound := youngest command inLive
      omega
    | inFlight device type offset =>
      rw [spot] at holds
      simp [System.Holds, idle device type offset] at holds
    | submitted other =>
      rw [spot] at holds
      simp only [System.Holds] at holds
      cases contents : (system.queues other).submitted with
      | nil => simp [contents] at holds
      | cons head rest =>
        refine ⟨other, head, rest, contents, ?_⟩
        have headLive : head ∈ oldest :: later :=
          placed.mem_live (show system.Holds (.submitted other) head
            by simp [System.Holds, contents])
        have order := placed.queueOrder other
        rw [contents, List.cons_append] at order
        rw [contents] at holds
        rcases mem_cons.mp holds with rfl | inRest
        · exact ready
        · have less := (pairwise_cons.mp order).1 oldest
            (mem_append_left _ inRest)
          have bound := youngest head headLive
          omega

theorem syncOrdered
    (invariant : SyncInvariant initial system live place)
    (fresh : initial.Fresh) :
    SyncOrdered initial system where
  ordered := invariant.recorded.ordered
  outstanding := by
    intro counter
    have balance := invariant.recorded.balance counter
    have bounded := invariant.counted.bounded counter
    omega
  pending := by
    intro counter
    have balance := invariant.recorded.balance counter
    rw [invariant.counted.pending, invariant.recorded.complete,
      ← advance_append, fresh.settled, balance]
    simp only [advance, count_append, finished]
  complete := by
    intro counter
    rw [invariant.recorded.complete, fresh.settled]
    rfl
  progress := fun idle _ _ submitted before =>
    invariant.progress idle submitted before

end SyncInvariant

/-- Every reachable state of the command queues is ordered by its sync
objects. -/
theorem reachable_syncOrdered
    {initial system : System}
    (fresh : initial.Fresh)
    (reachable : Reachable initial system) :
    SyncOrdered initial system := by
  obtain ⟨live, place, invariant⟩ := reachable.invariant fresh
  exact invariant.syncOrdered fresh

/-! ## A command that waits for its submission -/

/-- No queue holds a command and all counts are zero. -/
def idleSystem : System where
  table := fun _ => ⟨0, 0, 0, 0⟩
  queues := fun _ => { inserted := none, submitted := [] }
  ui32CCBOffset := fun _ _ => 0
  apsCmdCompleteData := fun _ _ _ => none
  nextSerial := 0
  history := []

theorem idleSystem_fresh : idleSystem.Fresh := by
  refine ⟨?_, rfl, rfl, rfl⟩
  ext ⟨sync, kind⟩
  cases kind <;> rfl

/-- Queues 0 and 1 each get a command that writes sync info 5, and only the
later one is submitted. -/
def overtakingOps : List Op :=
  [.insert 0 0 0 [5] [] true, .insert 1 1 0 [5] [] true, .submit 1]

theorem overtaking_reachable :
    Reachable idleSystem (idleSystem.run overtakingOps) := by
  have first : (Op.insert 0 0 0 [5] [] true).Allowed idleSystem :=
    ⟨rfl, by decide, by decide⟩
  have second : (Op.insert 1 1 0 [5] [] true).Allowed
      (idleSystem.step (.insert 0 0 0 [5] [] true)) :=
    ⟨rfl, by decide, by decide⟩
  have third : (Op.submit 1).Allowed
      ((idleSystem.step (.insert 0 0 0 [5] [] true)).step
        (.insert 1 1 0 [5] [] true)) := trivial
  exact ((Reachable.start.step first).step second).step third

/-- The submitted command waits for the one that is not submitted, and no
other head is there to proceed. -/
theorem idle_submitted_cannotProceed :
    ∃ initial system,
      initial.Fresh ∧ Reachable initial system ∧ system.Idle ∧
        (∃ queue command, command ∈ (system.queues queue).submitted) ∧
        ¬ system.CanProceed := by
  refine ⟨idleSystem, idleSystem.run overtakingOps, idleSystem_fresh,
    overtaking_reachable, fun _ _ _ => rfl, ⟨1, _, mem_cons_self⟩, ?_⟩
  rintro ⟨queue, head, rest, contents, met⟩
  by_cases first : queue = 1
  · subst first
    obtain ⟨rfl, _⟩ := List.cons.inj contents
    exact absurd met (by decide)
  · have empty : ((idleSystem.run overtakingOps).queues queue).submitted =
        [] := by
      by_cases zero : queue = 0
      · subst zero
        rfl
      · simp [overtakingOps, System.run, System.step, insertCommand,
          submitCommand, System.setQueue, System.log, first, zero, idleSystem,
          sampleSyncs]
    simp [empty] at contents

theorem reachable_syncOrdered_overtaking :
    SyncOrdered idleSystem (idleSystem.run overtakingOps) :=
  reachable_syncOrdered idleSystem_fresh overtaking_reachable

end PvrServices.SyncQueue
