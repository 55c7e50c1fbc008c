import Mathlib.Algebra.Group.Nat.Defs
import Mathlib.Logic.Function.Basic

/-!
# Waiting on event objects

A process opens event objects and its threads wait on them;
`LinuxEventObjectSignal` bumps the time stamp of every open object.  A waiter
holds `gPVRSRVLock` while it compares the time stamp with the one last seen,
which is stored in the object, and gives it up while it sleeps.  Objects are
numbered in the order in which they are opened.  A step that would touch a
freed object has no successor.
-/

namespace PvrServices.EventWait

/-! ## Data -/

/-- `PVRSRV_LINUX_EVENT_OBJECT`.  `process` is the process whose resource
manager context and handle base it is in, `hResItem` says whether it was
registered there, and `handle` whether it has a handle. -/
structure EventObject where
  sTimeStamp : BitVec 32
  ui32TimeStampPrevious : BitVec 32
  process : Nat
  hResItem : Bool
  handle : Bool
deriving DecidableEq, Repr

/-- Where a thread is in `LinuxEventObjectWait`, with its local variables.  In
`check` and `leaving` it holds the lock. -/
inductive Phase where
  | outside
  | check (object ui32TimeOutJiffies : Nat)
  | sleeping
      (object ui32TimeOutJiffies : Nat)
      (ui32TimeStamp : BitVec 32)
      (woken : Bool)
  | relocking
      (object ui32TimeOutJiffies : Nat)
      (ui32TimeStamp : BitVec 32)
  | leaving
      (object ui32TimeOutJiffies : Nat)
      (ui32TimeStamp : BitVec 32)
deriving DecidableEq, Repr

/-- The object a thread waits on. -/
def Phase.object? : Phase → Option Nat
  | .outside => none
  | .check object _ => some object
  | .sleeping object _ _ _ => some object
  | .relocking object _ _ => some object
  | .leaving object _ _ => some object

/-- What an observer of the waits sees: a signal of an object, and of a thread
that it begins a wait, goes to sleep, finds a new time stamp, and returns. -/
inductive Event where
  | signal (object : Nat)
  | enter (thread object : Nat)
  | sleep (thread object : Nat)
  | hear (thread object : Nat)
  | ok (thread object : Nat)
  | timeout (thread object : Nat)
deriving DecidableEq, Repr

/-- The state.  `waking` are the objects of which a signal has bumped the time
stamp and not yet woken the waiters; the latest event of `history` is first. -/
structure System where
  objects : Nat → Option EventObject
  nextObject : Nat
  threads : Nat → Phase
  gPVRSRVLock : Option Nat
  waking : List Nat
  history : List Event

/-- The state before any object is opened. -/
def initialSystem : System where
  objects := fun _ => none
  nextObject := 0
  threads := fun _ => .outside
  gPVRSRVLock := none
  waking := []
  history := []

/-! ## Steps -/

/-- Change where a thread is. -/
def System.setThread (system : System) (thread : Nat) (phase : Phase) :
    System :=
  { system with threads := Function.update system.threads thread phase }

/-- Change an object. -/
def System.setObject
    (system : System)
    (object : Nat)
    (value : Option EventObject) :
    System :=
  { system with objects := Function.update system.objects object value }

/-- Change the holder of the lock. -/
def System.setLock (system : System) (gPVRSRVLock : Option Nat) : System :=
  { system with gPVRSRVLock }

/-- Add an event. -/
def System.record (system : System) (event : Event) : System :=
  { system with history := event :: system.history }

/-- A thread can begin a call of a bridge function. -/
def System.CanCall (system : System) (thread : Nat) : Prop :=
  system.gPVRSRVLock = none ∧ system.threads thread = .outside

instance (system : System) (thread : Nat) :
    Decidable (system.CanCall thread) :=
  inferInstanceAs (Decidable (_ ∧ _))

section Calls

variable (process : Nat → Nat)

/-- An object to which the process of a thread has a handle. -/
def System.lookupHandle (system : System) (thread object : Nat) :
    Option EventObject :=
  (system.objects object).filter fun value =>
    value.handle && value.process == process thread

/-- `LinuxEventObjectAdd` and the handle for it. -/
def System.openObject
    (system : System)
    (thread : Nat)
    (hResItem handle : Bool) :
    Option System :=
  if system.CanCall thread then
    some { system.setObject system.nextObject
        (some ⟨0, 0, process thread, hResItem, handle⟩) with
      nextObject := system.nextObject + 1 }
  else
    none

/-- `PVRSRVEventObjectCloseBW`.  `LinuxEventObjectDeleteCallback` waits for the
signals that walk the list. -/
def System.closeObject (system : System) (thread object : Nat) :
    Option System :=
  match system.lookupHandle process thread object with
  | none => none
  | some value =>
    if ¬ system.CanCall thread then
      none
    else if value.hResItem then
      if object ∈ system.waking then none
      else some (system.setObject object none)
    else
      some (system.setObject object (some { value with handle := false }))

/-- What the exit of a process leaves of an object. -/
def exitObject (leaver : Nat) (value : EventObject) : Option EventObject :=
  if value.process = leaver then
    if value.hResItem then none else some { value with handle := false }
  else
    some value

/-- The exit of a process frees the objects in its resource manager context. -/
def System.exitProcess (system : System) (leaver : Nat) : Option System :=
  if system.gPVRSRVLock = none ∧
      ∀ object ∈ system.waking,
        ((system.objects object).bind (exitObject leaver)).isSome then
    some { system with
      objects := fun object => (system.objects object).bind (exitObject leaver) }
  else
    none

/-- `PVRSRVEventObjectWaitBW` up to the loop.  The one caller passes a
constant time of some milliseconds, which is at least one jiffy. -/
def System.enterWait
    (system : System)
    (thread object ui32TimeOutJiffies : Nat) :
    Option System :=
  if (system.lookupHandle process thread object).isSome ∧
      system.CanCall thread ∧ ui32TimeOutJiffies ≠ 0 then
    some (((system.setThread thread (.check object ui32TimeOutJiffies)).setLock
      (some thread)).record (.enter thread object))
  else
    none

end Calls

/-- The loop of `LinuxEventObjectWait` up to `schedule_timeout`.  A wake-up
between `prepare_to_wait` and the read only ends the sleep early. -/
def System.look (system : System) (thread : Nat) : Option System :=
  match system.threads thread with
  | .check object ui32TimeOutJiffies =>
    match system.objects object with
    | none => none
    | some value =>
      if value.ui32TimeStampPrevious ≠ value.sTimeStamp then
        some ((system.setThread thread
          (.leaving object ui32TimeOutJiffies value.sTimeStamp)).record
            (.hear thread object))
      else
        some (((system.setThread thread
          (.sleeping object ui32TimeOutJiffies value.sTimeStamp false)).setLock
            none).record (.sleep thread object))
  | _ => none

/-- `schedule_timeout` returns the time that is left: a thread is woken, its
time is up, or a Unix signal is pending for it. -/
def System.wake (system : System) (thread left : Nat) : Option System :=
  match system.threads thread with
  | .sleeping object ui32TimeOutJiffies ui32TimeStamp _ =>
    if left ≤ ui32TimeOutJiffies then
      some (system.setThread thread (.relocking object left ui32TimeStamp))
    else
      none
  | _ => none

/-- The end of the loop of `LinuxEventObjectWait`. -/
def System.relock (system : System) (thread : Nat) : Option System :=
  match system.threads thread, system.gPVRSRVLock with
  | .relocking object ui32TimeOutJiffies ui32TimeStamp, none =>
    some ((system.setThread thread
      (if ui32TimeOutJiffies ≠ 0 then .check object ui32TimeOutJiffies
        else .leaving object 0 ui32TimeStamp)).setLock (some thread))
  | _, _ => none

/-- `LinuxEventObjectWait` after the loop. -/
def System.leave (system : System) (thread : Nat) : Option System :=
  match system.threads thread with
  | .leaving object ui32TimeOutJiffies ui32TimeStamp =>
    match system.objects object with
    | none => none
    | some value =>
      some ((((system.setObject object
        (some { value with
          ui32TimeStampPrevious := ui32TimeStamp })).setThread thread
            .outside).setLock none).record
        (if ui32TimeOutJiffies ≠ 0 then .ok thread object
          else .timeout thread object))
  | _ => none

/-- `LinuxEventObjectSignal` bumps the time stamp of an object of the list. -/
def System.increment (system : System) (object : Nat) : Option System :=
  match system.objects object with
  | none => none
  | some value =>
    some { (system.setObject object
        (some { value with sTimeStamp := value.sTimeStamp + 1 })).record
          (.signal object) with
      waking := object :: system.waking }

/-- A thread asleep on an object is woken. -/
def Phase.wakeUp (signalled : Nat) : Phase → Phase
  | .sleeping object ui32TimeOutJiffies ui32TimeStamp woken =>
    .sleeping object ui32TimeOutJiffies ui32TimeStamp
      (woken || object == signalled)
  | phase => phase

/-- `LinuxEventObjectSignal` wakes the waiters of the object. -/
def System.wakeUp (system : System) (object : Nat) : Option System :=
  if object ∈ system.waking then
    some { system with
      threads := fun thread => (system.threads thread).wakeUp object
      waking := system.waking.erase object }
  else
    none

/-- The steps of the threads, the signals and the exits of processes. -/
inductive Label where
  | openObject (thread : Nat) (hResItem handle : Bool)
  | closeObject (thread object : Nat)
  | exitProcess (leaver : Nat)
  | enterWait (thread object ui32TimeOutJiffies : Nat)
  | look (thread : Nat)
  | wake (thread left : Nat)
  | relock (thread : Nat)
  | leave (thread : Nat)
  | increment (object : Nat)
  | wakeUp (object : Nat)
deriving DecidableEq, Repr

/-- One step; `process` are the processes of the threads. -/
def System.step (system : System) (process : Nat → Nat) :
    Label → Option System
  | .openObject thread hResItem handle =>
    system.openObject process thread hResItem handle
  | .closeObject thread object => system.closeObject process thread object
  | .exitProcess leaver => system.exitProcess leaver
  | .enterWait thread object ui32TimeOutJiffies =>
    system.enterWait process thread object ui32TimeOutJiffies
  | .look thread => system.look thread
  | .wake thread left => system.wake thread left
  | .relock thread => system.relock thread
  | .leave thread => system.leave thread
  | .increment object => system.increment object
  | .wakeUp object => system.wakeUp object

/-- The states that steps of a kind lead to. -/
inductive Reachable
    (process : Nat → Nat)
    (condition : System → Label → Prop) :
    System → Prop
  | initial : Reachable process condition initialSystem
  | step {system next : System}
      (label : Label)
      (reached : Reachable process condition system)
      (meets : condition system label)
      (performed : system.step process label = some next) :
      Reachable process condition next

/-! ## What the waits owe -/

/-- The object of the wait a thread is in. -/
def insideOf (thread : Nat) : List Event → Option Nat
  | [] => none
  | .enter other object :: rest =>
    if other = thread then some object else insideOf thread rest
  | .ok other _ :: rest =>
    if other = thread then none else insideOf thread rest
  | .timeout other _ :: rest =>
    if other = thread then none else insideOf thread rest
  | _ :: rest => insideOf thread rest

/-- The wait of a thread that is to return success because of a signal. -/
inductive Owed where
  | nothing
  | thisWait
  | nextWait
deriving DecidableEq, Repr

/-- A signal is owed to a thread inside a wait on the object.  If that wait
times out, it is owed to the next one. -/
def owedOf (thread object : Nat) : List Event → Owed
  | [] => .nothing
  | .signal other :: rest =>
    if other = object ∧ insideOf thread rest = some object ∧
        owedOf thread object rest = .nothing then
      .thisWait
    else
      owedOf thread object rest
  | .ok other its :: rest =>
    if other = thread ∧ its = object then .nothing
    else owedOf thread object rest
  | .timeout other its :: rest =>
    if other = thread ∧ its = object ∧
        owedOf thread object rest = .thisWait then
      .nextWait
    else
      owedOf thread object rest
  | _ :: rest => owedOf thread object rest

/-- The signals of an object since a wait last found a new time stamp. -/
def unheard (object : Nat) : List Event → Nat
  | [] => 0
  | .signal other :: rest =>
    if other = object then unheard object rest + 1 else unheard object rest
  | .hear _ other :: rest => if other = object then 0 else unheard object rest
  | _ :: rest => unheard object rest

/-- A step that a thread takes in `LinuxEventObjectWait`. -/
def Label.IsStepOf (thread : Nat) : Label → Prop
  | .look other => other = thread
  | .wake other _ => other = thread
  | .relock other => other = thread
  | .leave other => other = thread
  | _ => False

/-- The steps a thread has left if it does not go to sleep again. -/
def Phase.stepsLeft : Phase → Nat
  | .outside => 0
  | .leaving _ _ _ => 1
  | .check _ _ => 2
  | .relocking _ _ _ => 3
  | .sleeping _ _ _ _ => 4

/-- What the waits promise.  Fewer than `2 ^ 32` signals are to come between
two times that a wait finds a new time stamp. -/
structure System.WaitsKept
    (process : Nat → Nat)
    (system : System) :
    Prop where
  /-- No object is freed while a thread is inside a wait on it. -/
  live : ∀ thread object,
    insideOf thread system.history = some object →
      (system.objects object).isSome
  /-- A thread that is owed a signal and asleep is woken or about to be. -/
  awake : ∀ thread object ui32TimeOutJiffies ui32TimeStamp,
    system.threads thread =
      .sleeping object ui32TimeOutJiffies ui32TimeStamp false →
    owedOf thread object system.history ≠ .nothing →
    unheard object system.history < 2 ^ 32 →
      object ∈ system.waking
  /-- A thread that is owed a signal has not gone to sleep again. -/
  neverSleeps : ∀ thread object after before,
    system.history = after ++ .sleep thread object :: before →
    unheard object before < 2 ^ 32 →
      owedOf thread object before = .nothing
  /-- Of the waits that are owed a signal only the first has timed out. -/
  onceLate : ∀ thread object after before,
    system.history = after ++ .timeout thread object :: before →
    unheard object before < 2 ^ 32 →
      owedOf thread object before ≠ .nextWait
  /-- A thread that is owed a signal can step once it can have the lock, and
  each of its steps brings it nearer to its return. -/
  returns : ∀ thread object,
    insideOf thread system.history = some object →
    owedOf thread object system.history ≠ .nothing →
    unheard object system.history < 2 ^ 32 →
      (system.gPVRSRVLock = none ∨ system.gPVRSRVLock = some thread →
        ∃ label next, label.IsStepOf thread ∧
          system.step process label = some next) ∧
      ∀ label next, label.IsStepOf thread →
        system.step process label = some next →
          (next.threads thread).stepsLeft < (system.threads thread).stepsLeft
  /-- A wait that times out leaves the time stamp last seen. -/
  timeoutKeeps : ∀ thread object ui32TimeStamp,
    system.threads thread = .leaving object 0 ui32TimeStamp →
      ∃ value, system.objects object = some value ∧
        value.ui32TimeStampPrevious = ui32TimeStamp

/-- No thread is inside a wait on an object. -/
def System.Unwaited (system : System) (object : Nat) : Prop :=
  ∀ thread, insideOf thread system.history ≠ some object

/-- A thread begins a wait only if no other thread is inside a wait on the
object or is owed a signal by it, and an object is freed only if no thread is
inside a wait on it. -/
def WaitsApart (system : System) : Label → Prop
  | .enterWait thread object _ =>
    ∀ other, other ≠ thread →
      insideOf other system.history ≠ some object ∧
        owedOf other object system.history = .nothing
  | .closeObject _ object =>
    ∀ value, system.objects object = some value →
      value.hResItem = true → system.Unwaited object
  | .exitProcess leaver =>
    ∀ object value, system.objects object = some value →
      exitObject leaver value = none → system.Unwaited object
  | _ => True

end PvrServices.EventWait
