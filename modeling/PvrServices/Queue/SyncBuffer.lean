import PvrServices.Queue.RingCorrect
import PvrServices.Queue.Sync

/-!
# The buffers behind the lists of commands

The synchronisation of the queues takes a queue for the list of its commands.
Here a queue runs along with its buffer: whatever the calls on all queues are,
the commands of the list lie in the buffer, in the same order.
-/

namespace PvrServices.SyncQueue

open ByteMemory Queue
open PvrServices.SyncQueue.System (log setQueue)

/-- The buffer of a queue holds the commands of a list, the oldest first, and
has a command that is not submitted just when the list has one. -/
def Buffered
    (base size : Nat)
    (initial : Memory)
    (list : CommandList)
    (ring : RingSystem) : Prop :=
  list.inserted.isSome = ring.inserted.isSome ∧
    ∃ contents : List (Command × List UInt8),
      contents.map Prod.fst = list.submitted ∧
        RingInvariant base size initial ring (contents.map Prod.snd)

/-- A step of all queues and of the buffer of one of them.  An insertion asks
the buffer for space, and the buffer gives up the head that is accepted. -/
inductive BufferedStep
    (queue : Nat)
    (system : System)
    (ring : RingSystem) : System × RingSystem → Prop where
  | insert
      (ui32DevIndex commandType : Nat)
      (apsDstSync apsSrcSync : List Nat)
      (args : InsertArgs) :
      BufferedStep queue system ring
        (insertCommand system queue ui32DevIndex commandType apsDstSync
            apsSrcSync (Queue.insertCommand ring.queue args).toBool,
          ring.step (.insert args))
  | fill (index : Nat) (byte : UInt8) :
      BufferedStep queue system ring (system, ring.step (.fill index byte))
  | submit :
      BufferedStep queue system ring
        (submitCommand system queue, ring.step .submit)
  | process (pfnCmdProc : Bool) :
      BufferedStep queue system ring
        ((processHead system queue pfnCmdProc).1,
          ring.step (.process [(processHead system queue pfnCmdProc).2]))
  | elsewhere
      (op : Op)
      (kept : (system.step op).queues queue = system.queues queue) :
      BufferedStep queue system ring (system.step op, ring)

variable {base size queue : Nat} {initial : Memory} {ring : RingSystem}
  {system after : System} {accepted pfnCmdProc : Bool}

theorem processCommand_queues
    (system : System)
    (command : Command)
    (bFlush pfnCmdProc : Bool) :
    (processCommand system command bFlush pfnCmdProc).1.queues =
      system.queues := by
  unfold processCommand
  simp only
  split_ifs <;> rfl

/-- Processing the head of a queue takes it off if it is accepted. -/
theorem processHead_queue
    (done : processHead system queue pfnCmdProc = (after, accepted)) :
    (after.queues queue).inserted = (system.queues queue).inserted ∧
      if accepted then
        ∃ command, (system.queues queue).submitted =
          command :: (after.queues queue).submitted
      else
        (system.queues queue).submitted = (after.queues queue).submitted := by
  unfold processHead at done
  split at done
  · cases done
    exact ⟨rfl, rfl⟩
  · next command rest head =>
    have kept := processCommand_queues system command false pfnCmdProc
    split at done
    · next processed =>
      rw [processed] at kept
      cases done
      simp only at kept
      exact ⟨by simp [setQueue, kept], command, by simp [setQueue, head]⟩
    · next processed =>
      rw [processed] at kept
      cases done
      simp only at kept
      exact ⟨by rw [kept], by simp [kept]⟩

namespace Buffered

variable (buffered : Buffered base size initial (system.queues queue) ring)
include buffered

/-- An accepted command leaves the buffer, and nothing else does. -/
theorem process
    (done : processHead system queue pfnCmdProc = (after, accepted)) :
    Buffered base size initial (after.queues queue)
      (ring.step (.process [accepted])) := by
  obtain ⟨inserted, contents, submitted, invariant⟩ := buffered
  obtain ⟨same, taken⟩ := processHead_queue done
  obtain ⟨rest, split, kept⟩ := invariant.process [accepted]
  refine ⟨same ▸ inserted, ?_⟩
  cases accepted with
  | false =>
    refine ⟨contents, submitted.trans taken, ?_⟩
    have none : (processQueue ring.queue [false]).2 = [] := by
      simp [processQueue]
    rw [none] at split
    exact split ▸ kept
  | true =>
    obtain ⟨command, isHead⟩ := taken
    rw [isHead] at submitted
    obtain ⟨⟨_, bytes⟩, others, rfl, rfl, isRest⟩ :=
      List.map_eq_cons_iff.mp submitted
    obtain ⟨length, isBytes, _⟩ := invariant.holds.accept
    have nonempty := mt invariant.holds.offsets_eq_iff.mp
      (List.cons_ne_nil bytes _)
    have one : (processQueue ring.queue [true]).2 = [bytes] := by
      simp [processQueue, nonempty, length, isBytes]
    rw [one] at split
    obtain ⟨-, rfl⟩ := List.cons.inj split
    exact ⟨others, isRest, kept⟩

/-- A submitted command goes to the end of the buffer. -/
theorem submit :
    Buffered base size initial ((submitCommand system queue).queues queue)
      (ring.step .submit) := by
  obtain ⟨inserted, contents, submitted, invariant⟩ := buffered
  obtain ⟨added, one, kept⟩ := invariant.submit
  unfold submitCommand
  cases isInserted : (system.queues queue).inserted with
  | none =>
    have none : ring.inserted = none := by simpa [isInserted] using inserted
    rw [none] at one
    obtain rfl := List.length_eq_zero_iff.mp one
    rw [List.append_nil] at kept
    exact ⟨by simp [isInserted, RingSystem.step, none], contents, submitted,
      kept⟩
  | some command =>
    obtain ⟨psCommand, found⟩ : ∃ psCommand, ring.inserted = some psCommand :=
      Option.isSome_iff_exists.mp (by simp [← inserted, isInserted])
    rw [found] at one
    obtain ⟨bytes, rfl⟩ := List.length_eq_one_iff.mp one
    refine ⟨by simp [setQueue, RingSystem.step, found],
      contents ++ [(command, bytes)], by simp [setQueue, submitted], ?_⟩
    simpa using kept

/-- An insertion that finds space makes a command in the list and in the
buffer. -/
theorem insert
    (ui32DevIndex commandType : Nat)
    (apsDstSync apsSrcSync : List Nat)
    (args : InsertArgs) :
    Buffered base size initial
      ((insertCommand system queue ui32DevIndex commandType apsDstSync
        apsSrcSync (Queue.insertCommand ring.queue args).toBool).queues queue)
      (ring.step (.insert args)) := by
  obtain ⟨inserted, contents, submitted, invariant⟩ := buffered
  have kept := invariant.insert args
  unfold insertCommand
  cases result : Queue.insertCommand ring.queue args with
  | error =>
    refine ⟨?_, contents, submitted, kept⟩
    simpa [RingSystem.step, result, Except.toBool] using inserted
  | ok both =>
    exact ⟨by simp [RingSystem.step, result, Except.toBool, setQueue, log],
      contents, by simpa [Except.toBool, setQueue, log] using submitted, kept⟩

/-- One step keeps the commands in the buffer. -/
theorem step
    {next : System × RingSystem}
    (step : BufferedStep queue system ring next) :
    Buffered base size initial (next.1.queues queue) next.2 := by
  cases step with
  | insert _ _ _ _ args => exact buffered.insert _ _ _ _ args
  | fill index byte =>
    obtain ⟨inserted, contents, submitted, invariant⟩ := buffered
    refine ⟨?_, contents, submitted, invariant.fill index byte⟩
    rw [inserted, RingSystem.step]
    split
    · rfl
    · split_ifs <;> rfl
  | submit => exact buffered.submit
  | process pfnCmdProc => exact buffered.process rfl
  | elsewhere op kept => exact kept ▸ buffered

end Buffered

/-- In every run of calls on all queues, the buffer of a queue that was just
created holds the commands of its list. -/
theorem run_buffered
    {ui32QueueSize pvLinQueueKM : Nat}
    (positive : 0 < ui32QueueSize)
    (bounded : ui32QueueSize ≤ 2 ^ 31)
    (addressable : pvLinQueueKM + nearestPower2 ui32QueueSize +
      pvrsrvMaxCmdSize ≤ 2 ^ 64)
    (empty : system.queues queue = ⟨none, []⟩)
    {pair : System × RingSystem}
    (run : Relation.ReflTransGen
      (fun pair => BufferedStep queue pair.1 pair.2)
      (system, RingSystem.create ui32QueueSize pvLinQueueKM initial) pair) :
    Buffered pvLinQueueKM (nearestPower2 ui32QueueSize) initial
      (pair.1.queues queue) pair.2 := by
  induction run with
  | refl =>
    show Buffered _ _ _ (system.queues queue) _
    rw [empty]
    exact ⟨rfl, [], rfl,
      ringInvariant_create positive bounded addressable initial⟩
  | tail _ step ih => exact ih.step step

end PvrServices.SyncQueue
