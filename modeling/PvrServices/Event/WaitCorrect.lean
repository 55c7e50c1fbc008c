import PvrServices.Event.Wait
import Mathlib.Data.List.Basic

/-!
# The waits keep their promises

Where the waits on an object are apart, at most one thread at a time reads and
writes the time stamp last seen.  It then lags behind the time stamp by the
number of signals that no wait has found yet, so that a thread which is owed a
signal finds a new time stamp.
-/

namespace PvrServices.EventWait

open Function (update update_of_ne update_self)
open PvrServices.EventWait.System (record setLock setObject setThread)
open Phase (object? stepsLeft)

section Steps

variable {process : Nat → Nat} {system next : System}
  {thread leaver ui32TimeOutJiffies left object other : Nat}
  {value : EventObject} {hResItem handle : Bool} {event : Event}
  {changed : Option EventObject} {phase : Phase} {ui32TimeStamp : BitVec 32}
  {label : Label}

/-! ## What a step can do -/

theorem lookupHandle_eq_some
    (found : system.lookupHandle process thread object = some value) :
    system.objects object = some value :=
  (Option.filter_eq_some_iff.mp found).1

theorem openObject_cases
    (performed :
      system.openObject process thread hResItem handle = some next) :
    next = { system.setObject system.nextObject
        (some ⟨0, 0, process thread, hResItem, handle⟩) with
      nextObject := system.nextObject + 1 } := by
  unfold System.openObject at performed
  split_ifs at performed
  exact (Option.some.inj performed).symm

theorem closeObject_cases
    (performed : system.closeObject process thread object = some next) :
    ∃ value, system.objects object = some value ∧
      ((value.hResItem = true ∧ object ∉ system.waking ∧
          next = system.setObject object none) ∨
        next = system.setObject object
          (some { value with handle := false })) := by
  unfold System.closeObject at performed
  split at performed
  next => exact absurd performed (by simp)
  next value found =>
    refine ⟨value, lookupHandle_eq_some found, ?_⟩
    split_ifs at performed with canCall isItem isWaking
    · exact .inl ⟨isItem, isWaking, (Option.some.inj performed).symm⟩
    · exact .inr (Option.some.inj performed).symm

theorem exitProcess_cases
    (performed : system.exitProcess leaver = some next) :
    (∀ object ∈ system.waking,
        ((system.objects object).bind (exitObject leaver)).isSome) ∧
      next = { system with
        objects := fun object =>
          (system.objects object).bind (exitObject leaver) } := by
  unfold System.exitProcess at performed
  split_ifs at performed with allowed
  exact ⟨allowed.2, (Option.some.inj performed).symm⟩

theorem enterWait_cases
    (performed : system.enterWait process thread object ui32TimeOutJiffies =
      some next) :
    (∃ value, system.objects object = some value) ∧
      system.threads thread = .outside ∧
      ui32TimeOutJiffies ≠ 0 ∧
      next = ((system.setThread thread
        (.check object ui32TimeOutJiffies)).setLock (some thread)).record
          (.enter thread object) := by
  unfold System.enterWait at performed
  split_ifs at performed with allowed
  obtain ⟨isSome, canCall, notZero⟩ := allowed
  obtain ⟨value, found⟩ := Option.isSome_iff_exists.mp isSome
  exact ⟨⟨value, lookupHandle_eq_some found⟩, canCall.2, notZero,
    (Option.some.inj performed).symm⟩

theorem look_cases
    (performed : system.look thread = some next) :
    ∃ object ui32TimeOutJiffies value,
      system.threads thread = .check object ui32TimeOutJiffies ∧
      system.objects object = some value ∧
      ((value.ui32TimeStampPrevious ≠ value.sTimeStamp ∧
          next = (system.setThread thread
            (.leaving object ui32TimeOutJiffies value.sTimeStamp)).record
              (.hear thread object)) ∨
        (value.ui32TimeStampPrevious = value.sTimeStamp ∧
          next = ((system.setThread thread
            (.sleeping object ui32TimeOutJiffies value.sTimeStamp
              false)).setLock none).record (.sleep thread object))) := by
  unfold System.look at performed
  split at performed
  next object ui32TimeOutJiffies isCheck =>
    split at performed
    next => exact absurd performed (by simp)
    next value isObject =>
      refine ⟨object, ui32TimeOutJiffies, value, isCheck, isObject, ?_⟩
      split_ifs at performed with isNew
      · exact .inl ⟨isNew, (Option.some.inj performed).symm⟩
      · exact .inr ⟨not_not.mp isNew, (Option.some.inj performed).symm⟩
  next => exact absurd performed (by simp)

theorem wake_cases
    (performed : system.wake thread left = some next) :
    ∃ object ui32TimeOutJiffies ui32TimeStamp woken,
      system.threads thread =
        .sleeping object ui32TimeOutJiffies ui32TimeStamp woken ∧
      next = system.setThread thread
        (.relocking object left ui32TimeStamp) := by
  unfold System.wake at performed
  split at performed
  next object ui32TimeOutJiffies ui32TimeStamp woken isSleeping =>
    split_ifs at performed
    exact ⟨object, ui32TimeOutJiffies, ui32TimeStamp, woken, isSleeping,
      (Option.some.inj performed).symm⟩
  next => exact absurd performed (by simp)

theorem relock_cases
    (performed : system.relock thread = some next) :
    ∃ object ui32TimeOutJiffies ui32TimeStamp,
      system.threads thread =
        .relocking object ui32TimeOutJiffies ui32TimeStamp ∧
      next = (system.setThread thread
        (if ui32TimeOutJiffies ≠ 0 then .check object ui32TimeOutJiffies
          else .leaving object 0 ui32TimeStamp)).setLock (some thread) := by
  unfold System.relock at performed
  split at performed
  next object ui32TimeOutJiffies ui32TimeStamp isRelocking _ =>
    exact ⟨object, ui32TimeOutJiffies, ui32TimeStamp, isRelocking,
      (Option.some.inj performed).symm⟩
  next => exact absurd performed (by simp)

theorem leave_cases
    (performed : system.leave thread = some next) :
    ∃ object ui32TimeOutJiffies ui32TimeStamp value,
      system.threads thread =
        .leaving object ui32TimeOutJiffies ui32TimeStamp ∧
      system.objects object = some value ∧
      next = (((system.setObject object
        (some { value with
          ui32TimeStampPrevious := ui32TimeStamp })).setThread thread
            .outside).setLock none).record
        (if ui32TimeOutJiffies ≠ 0 then .ok thread object
          else .timeout thread object) := by
  unfold System.leave at performed
  split at performed
  next object ui32TimeOutJiffies ui32TimeStamp isLeaving =>
    split at performed
    next => exact absurd performed (by simp)
    next value isObject =>
      exact ⟨object, ui32TimeOutJiffies, ui32TimeStamp, value, isLeaving,
        isObject, (Option.some.inj performed).symm⟩
  next => exact absurd performed (by simp)

theorem increment_cases
    (performed : system.increment object = some next) :
    ∃ value, system.objects object = some value ∧
      next = { (system.setObject object
          (some { value with sTimeStamp := value.sTimeStamp + 1 })).record
            (.signal object) with
        waking := object :: system.waking } := by
  unfold System.increment at performed
  split at performed
  next => exact absurd performed (by simp)
  next value isObject =>
    exact ⟨value, isObject, (Option.some.inj performed).symm⟩

theorem wakeUp_cases
    (performed : system.wakeUp object = some next) :
    next = { system with
      threads := fun thread => (system.threads thread).wakeUp object
      waking := system.waking.erase object } := by
  unfold System.wakeUp at performed
  split_ifs at performed
  exact (Option.some.inj performed).symm

/-! ## Threads and what they have seen -/

theorem setObject_self
    (system : System)
    (object : Nat)
    (value : Option EventObject) :
    (system.setObject object value).objects object = value :=
  update_self ..

theorem setObject_of_ne
    (notSame : other ≠ object)
    (system : System)
    (value : Option EventObject) :
    (system.setObject object value).objects other = system.objects other :=
  update_of_ne notSame ..

/-- An object is what it has been set to, or what it was. -/
theorem objects_cases
    {now : Option EventObject}
    (after : (system.setObject object changed).objects other = now) :
    other = object ∧ changed = now ∨
      other ≠ object ∧ system.objects other = now := by
  by_cases isThis : other = object
  · subst isThis
    exact .inl ⟨rfl, (setObject_self ..).symm.trans after⟩
  · exact .inr ⟨isThis, (setObject_of_ne isThis ..).symm.trans after⟩

/-- No object goes away when one is changed. -/
theorem not_gone
    {changed old : EventObject}
    (isOld : system.objects other = some old)
    (gone : (system.setObject object (some changed)).objects other = none)
    {goal : Prop} :
    goal := by
  rcases objects_cases gone with ⟨-, isNone⟩ | ⟨-, before⟩
  · cases isNone
  · cases isOld.symm.trans before

/-- Another thread is where it was. -/
theorem setThread_of_ne
    (notSame : other ≠ thread)
    (system : System)
    (phase : Phase) :
    (system.setThread thread phase).threads other = system.threads other :=
  update_of_ne notSame ..

theorem setThread_self
    (system : System)
    (thread : Nat)
    (phase : Phase) :
    (system.setThread thread phase).threads thread = phase :=
  update_self ..

/-- A thread is where it has been put, or where it was. -/
theorem threads_cases
    {now : Phase}
    (after : (system.setThread thread phase).threads other = now) :
    other = thread ∧ phase = now ∨
      other ≠ thread ∧ system.threads other = now := by
  by_cases isThis : other = thread
  · subst isThis
    exact .inl ⟨rfl, (setThread_self ..).symm.trans after⟩
  · exact .inr ⟨isThis, (setThread_of_ne isThis ..).symm.trans after⟩

/-- The time stamp that a thread read from its object and found old. -/
def Phase.seen? : Phase → Option (Nat × BitVec 32)
  | .sleeping object _ ui32TimeStamp _ => some (object, ui32TimeStamp)
  | .relocking object _ ui32TimeStamp => some (object, ui32TimeStamp)
  | .leaving object 0 ui32TimeStamp => some (object, ui32TimeStamp)
  | _ => none

/-- A thread found a new time stamp on its object. -/
def Phase.heard? : Phase → Option (Nat × BitVec 32)
  | .leaving object (_ + 1) ui32TimeStamp => some (object, ui32TimeStamp)
  | _ => none

/-- A thread holds the lock. -/
def Phase.locked : Phase → Bool
  | .check _ _ => true
  | .leaving _ _ _ => true
  | _ => false

@[simp] theorem object?_wakeUp (phase : Phase) (signalled : Nat) :
    (phase.wakeUp signalled).object? = phase.object? := by
  cases phase <;> rfl

@[simp] theorem seen?_wakeUp (phase : Phase) (signalled : Nat) :
    (phase.wakeUp signalled).seen? = phase.seen? := by
  cases phase <;> rfl

@[simp] theorem heard?_wakeUp (phase : Phase) (signalled : Nat) :
    (phase.wakeUp signalled).heard? = phase.heard? := by
  cases phase <;> rfl

@[simp] theorem locked_wakeUp (phase : Phase) (signalled : Nat) :
    (phase.wakeUp signalled).locked = phase.locked := by
  cases phase <;> rfl

theorem object?_of_seen?
    (seen : phase.seen? = some (object, ui32TimeStamp)) :
    phase.object? = some object := by
  unfold Phase.seen? at seen
  split at seen <;> simp_all [object?]

theorem object?_of_heard?
    (heard : phase.heard? = some (object, ui32TimeStamp)) :
    phase.object? = some object := by
  unfold Phase.heard? at heard
  split at heard <;> simp_all [object?]

theorem heard?_leaving
    (ui32TimeStamp : BitVec 32)
    (inTime : ui32TimeOutJiffies ≠ 0) :
    (Phase.leaving object ui32TimeOutJiffies ui32TimeStamp).heard? =
      some (object, ui32TimeStamp) := by
  obtain ⟨left, rfl⟩ := Nat.exists_eq_succ_of_ne_zero inTime
  rfl

theorem seen?_leaving
    (ui32TimeStamp : BitVec 32)
    (inTime : ui32TimeOutJiffies ≠ 0) :
    (Phase.leaving object ui32TimeOutJiffies ui32TimeStamp).seen? = none := by
  obtain ⟨left, rfl⟩ := Nat.exists_eq_succ_of_ne_zero inTime
  rfl

/-! ## The invariant -/

/-- Where the threads are, and that they are apart. -/
structure Placed (system : System) : Prop where
  inside : ∀ thread,
    insideOf thread system.history = (system.threads thread).object?
  fresh : ∀ object, system.nextObject ≤ object →
    system.objects object = none ∧ unheard object system.history = 0
  live : ∀ thread object, (system.threads thread).object? = some object →
    ∃ value, system.objects object = some value
  alone : ∀ thread other object,
    (system.threads thread).object? = some object →
    (system.threads other).object? = some object → other = thread
  owedAlone : ∀ thread other object,
    owedOf thread object system.history ≠ .nothing →
    (system.threads other).object? = some object → other = thread
  locked : ∀ thread, system.gPVRSRVLock = some thread →
    (system.threads thread).locked

/-- How far the time stamp last seen lags behind. -/
structure Stamped (system : System) : Prop where
  heard : ∀ thread object ui32TimeStamp value,
    (system.threads thread).heard? = some (object, ui32TimeStamp) →
    system.objects object = some value →
      value.sTimeStamp =
        ui32TimeStamp + BitVec.ofNat 32 (unheard object system.history)
  stamp : ∀ object value, system.objects object = some value →
    (∀ thread ui32TimeStamp,
      (system.threads thread).heard? ≠ some (object, ui32TimeStamp)) →
      value.sTimeStamp = value.ui32TimeStampPrevious +
        BitVec.ofNat 32 (unheard object system.history)
  seen : ∀ thread object ui32TimeStamp value,
    (system.threads thread).seen? = some (object, ui32TimeStamp) →
    system.objects object = some value →
      value.ui32TimeStampPrevious = ui32TimeStamp

/-- What an event that follows the others promises: a thread that falls asleep
is owed nothing, and a wait that times out is the first one that is owed. -/
def Event.Kept : Event → List Event → Prop
  | .sleep thread object, before =>
    unheard object before < 2 ^ 32 → owedOf thread object before = .nothing
  | .timeout thread object, before =>
    unheard object before < 2 ^ 32 → owedOf thread object before ≠ .nextWait
  | _, _ => True

/-- What becomes of the threads that are owed a signal. -/
structure Obliged (system : System) : Prop where
  positive : ∀ thread object ui32TimeOutJiffies,
    system.threads thread = .check object ui32TimeOutJiffies →
      ui32TimeOutJiffies ≠ 0
  due : ∀ thread object,
    owedOf thread object system.history ≠ .nothing →
      0 < unheard object system.history ∨
        ∃ ui32TimeStamp, (system.threads thread).heard? =
          some (object, ui32TimeStamp)
  second : ∀ thread object ui32TimeStamp,
    owedOf thread object system.history = .nextWait →
    unheard object system.history < 2 ^ 32 →
      (system.threads thread).seen? ≠ some (object, ui32TimeStamp)
  awake : ∀ thread object ui32TimeOutJiffies ui32TimeStamp,
    system.threads thread =
      .sleeping object ui32TimeOutJiffies ui32TimeStamp false →
    owedOf thread object system.history ≠ .nothing →
    unheard object system.history < 2 ^ 32 →
      object ∈ system.waking
  kept : ∀ after event before,
    system.history = after ++ event :: before → event.Kept before

/-! ## Placement -/

theorem Placed.live_lt
    (placed : Placed system)
    (isObject : system.objects object = some value) :
    object < system.nextObject := by
  by_contra isFresh
  rw [(placed.fresh object (Nat.le_of_not_lt isFresh)).1] at isObject
  exact absurd isObject (by simp)

/-- An object that is changed is no fresh one. -/
theorem Placed.fresh_setObject
    (placed : Placed system)
    (isValue : system.objects object = some value)
    (isFresh : system.nextObject ≤ other) :
    (system.setObject object changed).objects other = none ∧
      unheard other system.history = 0 := by
  have older := placed.live_lt isValue
  have notThis : other ≠ object := by omega
  obtain ⟨gone, none⟩ := placed.fresh other isFresh
  exact ⟨(setObject_of_ne notThis ..).trans gone, none⟩

/-- A step in which every thread stays with its object. -/
theorem Placed.frame
    (placed : Placed system)
    (sameThreads : ∀ thread,
      (next.threads thread).object? = (system.threads thread).object?)
    (sameInside : ∀ thread,
      insideOf thread next.history = insideOf thread system.history)
    (owed : ∀ thread object,
      owedOf thread object next.history ≠ .nothing →
        owedOf thread object system.history ≠ .nothing ∨
          insideOf thread system.history = some object)
    (fresh : ∀ object, next.nextObject ≤ object →
      next.objects object = none ∧ unheard object next.history = 0)
    (live : ∀ object value, system.objects object = some value →
      next.objects object = none → system.Unwaited object)
    (locked : ∀ thread, next.gPVRSRVLock = some thread →
      (next.threads thread).locked) :
    Placed next where
  inside := fun thread => by
    rw [sameInside, sameThreads, placed.inside]
  fresh := fresh
  live := fun thread object isObject => by
    rw [sameThreads] at isObject
    obtain ⟨value, isValue⟩ := placed.live thread object isObject
    cases after : next.objects object with
    | some kept => exact ⟨kept, rfl⟩
    | none =>
      have unwaited := live object value isValue after thread
      rw [placed.inside] at unwaited
      exact absurd isObject unwaited
  alone := fun thread other object isObject otherObject => by
    rw [sameThreads] at isObject otherObject
    exact placed.alone thread other object isObject otherObject
  owedAlone := fun thread other object isOwed otherObject => by
    rw [sameThreads] at otherObject
    rcases owed thread object isOwed with before | isInside
    · exact placed.owedAlone thread other object before otherObject
    · rw [placed.inside] at isInside
      exact placed.alone thread other object isInside otherObject
  locked := locked

/-- A thread moves on without a change to what `view` shows of it. -/
theorem view_setThread
    {α : Type}
    (view : Phase → α)
    (same : view phase = view (system.threads thread))
    (other : Nat) :
    view ((system.setThread thread phase).threads other) =
      view (system.threads other) := by
  by_cases isThread : other = thread
  · subst isThread
    rw [setThread_self, same]
  · rw [setThread_of_ne isThread]

section

variable (placed : Placed system)
include placed

theorem Placed.openObject
    (performed :
      system.openObject process thread hResItem handle = some next) :
    Placed next := by
  obtain rfl := openObject_cases performed
  refine placed.frame (fun _ => rfl) (fun _ => rfl) (fun _ _ => .inl)
    (fun object isFresh => ?_) (fun object value isObject gone => ?_)
    placed.locked
  · have notThis : object ≠ system.nextObject := by
      intro isThis
      exact absurd isFresh (by simp [isThis])
    obtain ⟨gone, none⟩ := placed.fresh object (Nat.le_of_succ_le isFresh)
    exact ⟨(setObject_of_ne notThis ..).trans gone, none⟩
  · exact not_gone isObject gone

variable {object : Nat}

theorem Placed.closeObject
    (meets : WaitsApart system (.closeObject thread object))
    (performed : system.closeObject process thread object = some next) :
    Placed next := by
  obtain ⟨value, isValue, closed⟩ := closeObject_cases performed
  rcases closed with ⟨isItem, _, rfl⟩ | rfl
  · refine placed.frame (fun _ => rfl) (fun _ => rfl) (fun _ _ => .inl)
      (fun _ => placed.fresh_setObject isValue)
      (fun other old isOld gone => ?_) placed.locked
    rcases objects_cases gone with ⟨rfl, -⟩ | ⟨_, before⟩
    · exact meets value isValue isItem
    · cases isOld.symm.trans before
  · exact placed.frame (fun _ => rfl) (fun _ => rfl) (fun _ _ => .inl)
      (fun _ => placed.fresh_setObject isValue)
      (fun _ _ isOld gone => not_gone isOld gone) placed.locked

theorem Placed.exitProcess
    (meets : WaitsApart system (.exitProcess leaver))
    (performed : system.exitProcess leaver = some next) :
    Placed next := by
  obtain ⟨_, rfl⟩ := exitProcess_cases performed
  refine placed.frame (fun _ => rfl) (fun _ => rfl) (fun _ _ => .inl)
    (fun object isFresh => ?_) (fun object value isObject gone => ?_)
    placed.locked
  · obtain ⟨gone, none⟩ := placed.fresh object isFresh
    exact ⟨by simp [gone], none⟩
  · simp only [isObject, Option.bind_some] at gone
    exact meets object value isObject gone

theorem Placed.enterWait
    (meets :
      WaitsApart system (.enterWait thread object ui32TimeOutJiffies))
    (performed : system.enterWait process thread object ui32TimeOutJiffies =
      some next) :
    Placed next := by
  obtain ⟨isLive, isOutside, _, rfl⟩ := enterWait_cases performed
  have threads : ∀ other,
      (update system.threads thread
        (Phase.check object ui32TimeOutJiffies) other).object? =
        if other = thread then some object
          else (system.threads other).object? := by
    intro other
    by_cases isThis : other = thread
    · simp [isThis, object?]
    · simp [isThis]
  constructor
  · intro other
    simp only [record, setLock, setThread, threads, insideOf, placed.inside]
    simp only [eq_comm]
  · exact placed.fresh
  · intro other its isObject
    simp only [record, setLock, setThread, threads] at isObject
    split_ifs at isObject with isThis
    · cases isObject
      exact isLive
    · exact placed.live other its isObject
  · intro first second its isObject otherObject
    simp only [record, setLock, setThread, threads] at isObject otherObject
    split_ifs at isObject with firstThis
    · subst firstThis
      by_contra notSame
      rw [if_neg notSame, ← placed.inside] at otherObject
      cases isObject
      exact (meets second notSame).1 otherObject
    · split_ifs at otherObject with secondThis
      · cases otherObject
        rw [← placed.inside] at isObject
        exact absurd isObject (meets first firstThis).1
      · exact placed.alone first second its isObject otherObject
  · intro first second its isOwed otherObject
    simp only [record, setLock, setThread, threads] at isOwed otherObject
    split_ifs at otherObject with secondThis
    · subst secondThis
      by_contra notSame
      cases otherObject
      exact isOwed (meets first (Ne.symm notSame)).2
    · exact placed.owedAlone first second its isOwed otherObject
  · intro other isHolder
    cases isHolder
    simp [record, setLock, setThread, Phase.locked]

theorem Placed.look
    (performed : system.look thread = some next) :
    Placed next := by
  obtain ⟨object, ui32TimeOutJiffies, value, isCheck, isValue,
    ⟨_, rfl⟩ | ⟨_, rfl⟩⟩ := look_cases performed
  · refine placed.frame
      (view_setThread object? (by rw [isCheck]; rfl))
      (fun _ => rfl) (fun _ _ => .inl) (fun other isFresh => ?_)
      (fun _ _ isOld gone => nomatch isOld.symm.trans gone)
      (fun other isHolder => ?_)
    · obtain ⟨gone, none⟩ := placed.fresh other isFresh
      refine ⟨gone, ?_⟩
      simp only [record, unheard]
      split_ifs
      · rfl
      · exact none
    · have holds := placed.locked other isHolder
      simp only [record, setThread]
      by_cases isThis : other = thread
      · simp [isThis, Phase.locked]
      · rwa [update_of_ne isThis]
  · exact placed.frame
      (view_setThread object? (by rw [isCheck]; rfl))
      (fun _ => rfl) (fun _ _ => .inl) placed.fresh
      (fun _ _ isOld gone => nomatch isOld.symm.trans gone)
      (fun other isHolder => absurd isHolder (by simp [record, setLock]))

theorem Placed.wake
    (performed : system.wake thread left = some next) :
    Placed next := by
  obtain ⟨object, ui32TimeOutJiffies, ui32TimeStamp, woken, isSleeping, rfl⟩ :=
    wake_cases performed
  refine placed.frame
    (view_setThread object? (by rw [isSleeping]; rfl))
    (fun _ => rfl) (fun _ _ => .inl) placed.fresh
    (fun _ _ isOld gone => nomatch isOld.symm.trans gone)
    (fun other isHolder => ?_)
  have holds := placed.locked other isHolder
  have notThis : other ≠ thread := by
    rintro rfl
    simp [isSleeping, Phase.locked] at holds
  simp only [setThread, update_of_ne notThis, holds]

theorem Placed.relock
    (performed : system.relock thread = some next) :
    Placed next := by
  obtain ⟨object, ui32TimeOutJiffies, ui32TimeStamp, isRelocking, rfl⟩ :=
    relock_cases performed
  refine placed.frame
    (view_setThread object? (by rw [isRelocking]; split_ifs <;> rfl))
    (fun _ => rfl) (fun _ _ => .inl) placed.fresh
    (fun _ _ isOld gone => nomatch isOld.symm.trans gone)
    (fun other isHolder => ?_)
  cases isHolder
  simp only [setLock, setThread, update_self]
  split_ifs <;> rfl

theorem Placed.leave
    (performed : system.leave thread = some next) :
    Placed next := by
  obtain ⟨object, ui32TimeOutJiffies, ui32TimeStamp, value, isLeaving,
    isValue, rfl⟩ := leave_cases performed
  have threads : ∀ other its,
      (update system.threads thread Phase.outside other).object? =
          some its →
        other ≠ thread ∧ (system.threads other).object? = some its := by
    intro other its isObject
    by_cases isThis : other = thread
    · subst isThis
      simp [object?] at isObject
    · rw [update_of_ne isThis] at isObject
      exact ⟨isThis, isObject⟩
  obtain ⟨event, isEvent⟩ : ∃ event, event =
      (if ui32TimeOutJiffies ≠ 0 then Event.ok thread object
        else .timeout thread object) := ⟨_, rfl⟩
  rw [← isEvent]
  have isReturn : event = .ok thread object ∨ event = .timeout thread object := by
    split_ifs at isEvent
    · exact .inl isEvent
    · exact .inr isEvent
  have owedBefore : ∀ first its,
      owedOf first its (event :: system.history) ≠ .nothing →
        owedOf first its system.history ≠ .nothing := by
    intro first its isOwed isNothing
    rcases isReturn with rfl | rfl
    · simp [owedOf, isNothing] at isOwed
    · simp [owedOf, isNothing] at isOwed
  constructor
  · intro other
    have inside : insideOf other (event :: system.history) =
        if thread = other then none else insideOf other system.history := by
      rcases isReturn with rfl | rfl <;> rfl
    simp only [record, setLock, setThread, setObject, inside, placed.inside]
    by_cases isThis : other = thread
    · simp [isThis, object?]
    · simp [isThis, Ne.symm isThis]
  · intro other isFresh
    obtain ⟨gone, none⟩ := placed.fresh_setObject isValue isFresh
    refine ⟨gone, ?_⟩
    rcases isReturn with rfl | rfl <;> exact none
  · intro other its isObject
    obtain ⟨_, before⟩ := threads other its isObject
    by_cases isThis : its = object
    · subst isThis
      exact ⟨_, setObject_self ..⟩
    · obtain ⟨old, isOld⟩ := placed.live other its before
      exact ⟨old, (setObject_of_ne isThis ..).trans isOld⟩
  · intro first second its isObject otherObject
    exact placed.alone first second its (threads first its isObject).2
      (threads second its otherObject).2
  · intro first second its isOwed otherObject
    exact placed.owedAlone first second its (owedBefore first its isOwed)
      (threads second its otherObject).2
  · intro other isHolder
    exact absurd isHolder (by simp [record, setLock])

theorem Placed.increment
    (performed : system.increment object = some next) :
    Placed next := by
  obtain ⟨value, isValue, rfl⟩ := increment_cases performed
  refine placed.frame (fun _ => rfl) (fun _ => rfl)
    (fun thread its isOwed => ?_) (fun other isFresh => ?_)
    (fun _ _ isOld gone => not_gone isOld gone) placed.locked
  · simp only [record, owedOf] at isOwed
    split_ifs at isOwed with owes
    · exact .inr (owes.1 ▸ owes.2.1)
    · exact .inl isOwed
  · have notThis : object ≠ other :=
      Nat.ne_of_lt (Nat.lt_of_lt_of_le (placed.live_lt isValue) isFresh)
    obtain ⟨gone, none⟩ := placed.fresh_setObject isValue isFresh
    exact ⟨gone, (if_neg notThis).trans none⟩

theorem Placed.wakeUp
    (performed : system.wakeUp object = some next) :
    Placed next := by
  obtain rfl := wakeUp_cases performed
  exact placed.frame (fun _ => object?_wakeUp ..) (fun _ => rfl)
    (fun _ _ => .inl) placed.fresh
    (fun _ _ isOld gone => nomatch isOld.symm.trans gone)
    (fun thread isHolder =>
      (locked_wakeUp ..).trans (placed.locked thread isHolder))

end

theorem Placed.step
    (placed : Placed system)
    (meets : WaitsApart system label)
    (performed : system.step process label = some next) :
    Placed next := by
  cases label with
  | openObject thread hResItem handle => exact placed.openObject performed
  | closeObject thread object => exact placed.closeObject meets performed
  | exitProcess leaver => exact placed.exitProcess meets performed
  | enterWait thread object _ => exact placed.enterWait meets performed
  | look thread => exact placed.look performed
  | wake thread left => exact placed.wake performed
  | relock thread => exact placed.relock performed
  | leave thread => exact placed.leave performed
  | increment object => exact placed.increment performed
  | wakeUp object => exact placed.wakeUp performed

/-! ## Time stamps -/

/-- A step in which no thread finds a new time stamp. -/
theorem Stamped.frame
    (stamped : Stamped system)
    (heard : ∀ thread,
      (next.threads thread).heard? = (system.threads thread).heard?)
    (seen : ∀ thread found, (next.threads thread).seen? = some found →
      (system.threads thread).seen? = some found)
    (objects : ∀ object value, next.objects object = some value →
      ∃ old, system.objects object = some old ∧
        value.sTimeStamp = old.sTimeStamp ∧
        value.ui32TimeStampPrevious = old.ui32TimeStampPrevious)
    (sameUnheard : ∀ object,
      unheard object next.history = unheard object system.history) :
    Stamped next where
  heard := fun thread object ui32TimeStamp value isHeard isValue => by
    obtain ⟨old, isOld, sameStamp, -⟩ := objects object value isValue
    rw [heard] at isHeard
    rw [sameStamp, sameUnheard]
    exact stamped.heard thread object ui32TimeStamp old isHeard isOld
  stamp := fun object value isValue noneHeard => by
    obtain ⟨old, isOld, sameStamp, samePrevious⟩ := objects object value isValue
    rw [sameStamp, samePrevious, sameUnheard]
    refine stamped.stamp object old isOld fun thread ui32TimeStamp => ?_
    rw [← heard]
    exact noneHeard thread ui32TimeStamp
  seen := fun thread object ui32TimeStamp value isSeen isValue => by
    obtain ⟨old, isOld, -, samePrevious⟩ := objects object value isValue
    rw [samePrevious]
    exact stamped.seen thread object ui32TimeStamp old (seen thread _ isSeen)
      isOld

theorem seen?_setThread
    (seen : ∀ found, phase.seen? = some found →
      (system.threads thread).seen? = some found)
    (other : Nat)
    (found : Nat × BitVec 32)
    (isSeen :
      ((system.setThread thread phase).threads other).seen? = some found) :
    (system.threads other).seen? = some found := by
  by_cases isThread : other = thread
  · subst isThread
    rw [setThread_self] at isSeen
    exact seen found isSeen
  · rwa [setThread_of_ne isThread] at isSeen

section

variable (stamped : Stamped system)
include stamped

theorem Stamped.openObject
    (placed : Placed system)
    (performed :
      system.openObject process thread hResItem handle = some next) :
    Stamped next := by
  obtain rfl := openObject_cases performed
  obtain ⟨gone, none⟩ := placed.fresh system.nextObject (Nat.le_refl _)
  have isOld : ∀ other object,
      (system.threads other).object? = some object →
        object ≠ system.nextObject := by
    rintro other _ isObject rfl
    obtain ⟨value, isValue⟩ := placed.live other _ isObject
    exact absurd (gone.symm.trans isValue) (by simp)
  constructor
  · intro other object ui32TimeStamp value isHeard isValue
    have notNew := isOld other object (object?_of_heard? isHeard)
    exact stamped.heard other object ui32TimeStamp value isHeard
      ((setObject_of_ne notNew ..).symm.trans isValue)
  · intro object value isValue noneHeard
    rcases objects_cases isValue with ⟨rfl, isNew⟩ | ⟨_, before⟩
    · cases isNew
      change (0 : BitVec 32) = 0 + BitVec.ofNat 32 (unheard _ system.history)
      rw [none]
      rfl
    · exact stamped.stamp object value before noneHeard
  · intro other object ui32TimeStamp value isSeen isValue
    have notNew := isOld other object (object?_of_seen? isSeen)
    exact stamped.seen other object ui32TimeStamp value isSeen
      ((setObject_of_ne notNew ..).symm.trans isValue)

variable {object : Nat}

theorem Stamped.closeObject
    (performed : system.closeObject process thread object = some next) :
    Stamped next := by
  obtain ⟨value, isValue, ⟨_, _, rfl⟩ | rfl⟩ := closeObject_cases performed
  · refine stamped.frame (fun _ => rfl) (fun _ _ => id)
      (fun other now isNow => ?_) (fun _ => rfl)
    rcases objects_cases isNow with ⟨-, isNone⟩ | ⟨_, before⟩
    · cases isNone
    · exact ⟨now, before, rfl, rfl⟩
  · refine stamped.frame (fun _ => rfl) (fun _ _ => id)
      (fun other now isNow => ?_) (fun _ => rfl)
    rcases objects_cases isNow with ⟨rfl, isChanged⟩ | ⟨_, before⟩
    · cases isChanged
      exact ⟨value, isValue, rfl, rfl⟩
    · exact ⟨now, before, rfl, rfl⟩

theorem Stamped.exitProcess
    (performed : system.exitProcess leaver = some next) :
    Stamped next := by
  obtain ⟨_, rfl⟩ := exitProcess_cases performed
  refine stamped.frame (fun _ => rfl) (fun _ _ => id)
    (fun object value isValue => ?_) (fun _ => rfl)
  obtain ⟨old, isOld, left⟩ := Option.bind_eq_some_iff.mp isValue
  unfold exitObject at left
  split_ifs at left
  · cases left
    exact ⟨old, isOld, rfl, rfl⟩
  · obtain rfl := Option.some.inj left
    exact ⟨old, isOld, rfl, rfl⟩

theorem Stamped.enterWait
    (performed : system.enterWait process thread object ui32TimeOutJiffies =
      some next) :
    Stamped next := by
  obtain ⟨_, isOutside, _, rfl⟩ := enterWait_cases performed
  exact stamped.frame
    (view_setThread Phase.heard? (by rw [isOutside]; rfl))
    (seen?_setThread nofun)
    (fun _ value isValue => ⟨value, isValue, rfl, rfl⟩) (fun _ => rfl)

/-- A thread that finds a new time stamp is the only one on its object. -/
theorem Stamped.look
    (placed : Placed system)
    (obliged : Obliged system)
    (performed : system.look thread = some next) :
    Stamped next := by
  obtain ⟨object, ui32TimeOutJiffies, value, isCheck, isValue,
    ⟨_, rfl⟩ | ⟨isOld, rfl⟩⟩ := look_cases performed
  · have inTime := obliged.positive thread object _ isCheck
    have isInside : (system.threads thread).object? = some object := by
      rw [isCheck]
      rfl
    constructor
    · intro other its ui32TimeStamp now isHeard isNow
      by_cases isThis : other = thread
      · subst isThis
        simp only [record, setThread, update_self,
          heard?_leaving _ inTime] at isHeard
        obtain ⟨rfl, rfl⟩ := Prod.ext_iff.mp (Option.some.inj isHeard)
        cases isValue.symm.trans isNow
        simp [record, unheard]
      · simp only [record, setThread, update_of_ne isThis] at isHeard
        have notIts : object ≠ its := by
          rintro rfl
          exact isThis (placed.alone thread other object isInside
            (object?_of_heard? isHeard))
        simp only [record, unheard, if_neg notIts]
        exact stamped.heard other its ui32TimeStamp now isHeard isNow
    · intro its now isNow noneHeard
      by_cases isThis : object = its
      · subst isThis
        refine absurd ?_ (noneHeard thread value.sTimeStamp)
        simp only [record, setThread, update_self, heard?_leaving _ inTime]
      · simp only [record, unheard, if_neg isThis]
        refine stamped.stamp its now isNow fun other ui32TimeStamp isHeard => ?_
        by_cases isThread : other = thread
        · subst isThread
          rw [isCheck] at isHeard
          exact absurd isHeard (by simp [Phase.heard?])
        · refine noneHeard other ui32TimeStamp ?_
          simpa only [record, setThread, update_of_ne isThread] using isHeard
    · intro other its ui32TimeStamp now isSeen isNow
      refine stamped.seen other its ui32TimeStamp now ?_ isNow
      refine seen?_setThread (fun found isFound => ?_) other _ isSeen
      rw [seen?_leaving _ inTime] at isFound
      exact absurd isFound (by simp)
  · constructor
    · intro other its ui32TimeStamp now isHeard isNow
      refine stamped.heard other its ui32TimeStamp now ?_ isNow
      rw [← isHeard]
      exact (view_setThread Phase.heard? (by rw [isCheck]; rfl) other).symm
    · intro its now isNow noneHeard
      refine stamped.stamp its now isNow fun other ui32TimeStamp isHeard => ?_
      refine noneHeard other ui32TimeStamp ?_
      rw [← isHeard]
      exact view_setThread Phase.heard? (by rw [isCheck]; rfl) other
    · intro other its ui32TimeStamp now isSeen isNow
      by_cases isThread : other = thread
      · subst isThread
        simp only [record, setLock, setThread,
          update_self, Phase.seen?] at isSeen
        obtain ⟨rfl, rfl⟩ := Prod.ext_iff.mp (Option.some.inj isSeen)
        cases isValue.symm.trans isNow
        exact isOld
      · simp only [record, setLock, setThread, update_of_ne isThread] at isSeen
        exact stamped.seen other its ui32TimeStamp now isSeen isNow

theorem Stamped.wake
    (performed : system.wake thread left = some next) :
    Stamped next := by
  obtain ⟨object, ui32TimeOutJiffies, ui32TimeStamp, woken, isSleeping, rfl⟩ :=
    wake_cases performed
  exact stamped.frame
    (view_setThread Phase.heard? (by rw [isSleeping]; rfl))
    (seen?_setThread (fun _ isSeen => by rw [isSleeping]; exact isSeen))
    (fun _ value isValue => ⟨value, isValue, rfl, rfl⟩) (fun _ => rfl)

theorem Stamped.relock
    (performed : system.relock thread = some next) :
    Stamped next := by
  obtain ⟨object, ui32TimeOutJiffies, ui32TimeStamp, isRelocking, rfl⟩ :=
    relock_cases performed
  refine stamped.frame
    (view_setThread Phase.heard? (by rw [isRelocking]; split_ifs <;> rfl))
    (seen?_setThread (fun _ isSeen => ?_))
    (fun _ value isValue => ⟨value, isValue, rfl, rfl⟩) (fun _ => rfl)
  rw [isRelocking]
  split_ifs at isSeen
  · exact absurd isSeen (by simp [Phase.seen?])
  · exact isSeen

end

/-- The events of a return are not counted. -/
theorem unheard_return (thread object its : Nat) (inTime : Prop)
    [Decidable inTime] (history : List Event) :
    unheard its ((if inTime then Event.ok thread object
      else .timeout thread object) :: history) = unheard its history := by
  split_ifs <;> rfl

section

variable (stamped : Stamped system)
include stamped

/-- The time stamp that a returning thread stores is the one it heard, or the
one that was there. -/
theorem Stamped.leave
    (placed : Placed system)
    (performed : system.leave thread = some next) :
    Stamped next := by
  obtain ⟨object, ui32TimeOutJiffies, ui32TimeStamp, value, isLeaving,
    isValue, rfl⟩ := leave_cases performed
  have isInside : (system.threads thread).object? = some object := by
    rw [isLeaving]
    rfl
  have others : ∀ other its,
      (update system.threads thread Phase.outside other).object? =
          some its →
        system.threads other =
            update system.threads thread Phase.outside other ∧
          its ≠ object := by
    intro other its isObject
    by_cases isThis : other = thread
    · subst isThis
      simp [object?] at isObject
    · rw [update_of_ne isThis] at isObject ⊢
      refine ⟨rfl, ?_⟩
      rintro rfl
      exact isThis (placed.alone thread other its isInside isObject)
  constructor
  · intro other its ui32Other now isHeard isNow
    obtain ⟨same, notIts⟩ := others other its (object?_of_heard? isHeard)
    simp only [record, unheard_return]
    exact stamped.heard other its ui32Other now (by rw [same]; exact isHeard)
      ((setObject_of_ne notIts ..).symm.trans isNow)
  · intro its now isNow noneHeard
    simp only [record, unheard_return]
    by_cases isThis : its = object
    · subst isThis
      cases (setObject_self ..).symm.trans isNow
      by_cases inTime : ui32TimeOutJiffies = 0
      · subst inTime
        rw [← stamped.seen thread its ui32TimeStamp value
          (by rw [isLeaving]; rfl) isValue]
        refine stamped.stamp its value isValue fun other ui32Other isHeard => ?_
        obtain rfl := placed.alone thread other its isInside
          (object?_of_heard? isHeard)
        rw [isLeaving] at isHeard
        exact absurd isHeard (by simp [Phase.heard?])
      · exact stamped.heard thread its ui32TimeStamp value
          (by rw [isLeaving]; exact heard?_leaving _ inTime) isValue
    · refine stamped.stamp its now ((setObject_of_ne isThis ..).symm.trans isNow)
        fun other ui32Other isHeard => noneHeard other ui32Other ?_
      have notThread : other ≠ thread := by
        rintro rfl
        exact isThis (Option.some.inj
          ((object?_of_heard? isHeard).symm.trans isInside))
      simpa only [record, setLock, setThread,
        setObject, update_of_ne notThread] using isHeard
  · intro other its ui32Other now isSeen isNow
    obtain ⟨same, notIts⟩ := others other its (object?_of_seen? isSeen)
    exact stamped.seen other its ui32Other now (by rw [same]; exact isSeen)
      ((setObject_of_ne notIts ..).symm.trans isNow)

theorem Stamped.increment
    (performed : system.increment object = some next) :
    Stamped next := by
  obtain ⟨value, isValue, rfl⟩ := increment_cases performed
  have oneMore : ∀ stamp : BitVec 32, ∀ count : Nat,
      stamp + BitVec.ofNat 32 count + 1 = stamp + BitVec.ofNat 32 (count + 1) := by
    intro stamp count
    rw [BitVec.ofNat_add, BitVec.add_assoc]
    rfl
  constructor
  · intro thread its ui32TimeStamp now isHeard isNow
    simp only [record, unheard]
    rcases objects_cases isNow with ⟨rfl, isChanged⟩ | ⟨isThis, before⟩
    · cases isChanged
      rw [if_pos rfl]
      exact (congrArg (· + 1) (stamped.heard thread its ui32TimeStamp value
        isHeard isValue)).trans (oneMore _ _)
    · rw [if_neg (Ne.symm isThis)]
      exact stamped.heard thread its ui32TimeStamp now isHeard before
  · intro its now isNow noneHeard
    simp only [record, unheard]
    rcases objects_cases isNow with ⟨rfl, isChanged⟩ | ⟨isThis, before⟩
    · cases isChanged
      rw [if_pos rfl]
      exact (congrArg (· + 1) (stamped.stamp its value isValue
        noneHeard)).trans (oneMore _ _)
    · rw [if_neg (Ne.symm isThis)]
      exact stamped.stamp its now before noneHeard
  · intro thread its ui32TimeStamp now isSeen isNow
    rcases objects_cases isNow with ⟨rfl, isChanged⟩ | ⟨_, before⟩
    · cases isChanged
      exact stamped.seen thread its ui32TimeStamp value isSeen isValue
    · exact stamped.seen thread its ui32TimeStamp now isSeen before

theorem Stamped.wakeUp
    (performed : system.wakeUp object = some next) :
    Stamped next := by
  obtain rfl := wakeUp_cases performed
  exact stamped.frame (fun _ => heard?_wakeUp ..)
    (fun _ _ isSeen => (seen?_wakeUp ..).symm.trans isSeen)
    (fun _ value isValue => ⟨value, isValue, rfl, rfl⟩) (fun _ => rfl)

theorem Stamped.step
    (placed : Placed system)
    (obliged : Obliged system)
    {label : Label}
    (performed : system.step process label = some next) :
    Stamped next := by
  cases label with
  | openObject thread hResItem handle =>
    exact stamped.openObject placed performed
  | closeObject thread object => exact stamped.closeObject performed
  | exitProcess leaver => exact stamped.exitProcess performed
  | enterWait thread object _ => exact stamped.enterWait performed
  | look thread => exact stamped.look placed obliged performed
  | wake thread left => exact stamped.wake performed
  | relock thread => exact stamped.relock performed
  | leave thread => exact stamped.leave placed performed
  | increment object => exact stamped.increment performed
  | wakeUp object => exact stamped.wakeUp performed

end

/-! ## Signals that are owed -/

/-- A thread that is owed a signal and is about to compare finds a new time
stamp. -/
theorem Obliged.isNew
    (obliged : Obliged system)
    (stamped : Stamped system)
    (placed : Placed system)
    (isCheck : system.threads thread = .check object ui32TimeOutJiffies)
    (isValue : system.objects object = some value)
    (isOwed : owedOf thread object system.history ≠ .nothing)
    (few : unheard object system.history < 2 ^ 32) :
    value.ui32TimeStampPrevious ≠ value.sTimeStamp := by
  have isInside : (system.threads thread).object? = some object := by
    rw [isCheck]
    rfl
  have noneHeard : ∀ other ui32TimeStamp,
      (system.threads other).heard? ≠ some (object, ui32TimeStamp) := by
    intro other ui32TimeStamp isHeard
    obtain rfl := placed.alone thread other object isInside
      (object?_of_heard? isHeard)
    rw [isCheck] at isHeard
    exact absurd isHeard (by simp [Phase.heard?])
  have due : 0 < unheard object system.history :=
    (obliged.due thread object isOwed).resolve_right
      fun ⟨ui32TimeStamp, isHeard⟩ => noneHeard thread ui32TimeStamp isHeard
  have stamp := stamped.stamp object value isValue noneHeard
  intro isOld
  rw [isOld] at stamp
  have isZero : BitVec.ofNat 32 (unheard object system.history) = 0 := by
    have cancelled := (BitVec.add_right_inj value.sTimeStamp).mp
      ((BitVec.add_zero _).trans stamp)
    exact cancelled.symm
  have := congrArg BitVec.toNat isZero
  rw [BitVec.toNat_ofNat, Nat.mod_eq_of_lt few] at this
  exact absurd this (Nat.ne_of_gt due)

/-- What a step leaves to show when it adds no event. -/
theorem Obliged.frame
    (obliged : Obliged system)
    (sameHistory : next.history = system.history)
    (heard : ∀ thread,
      (next.threads thread).heard? = (system.threads thread).heard?)
    (seen : ∀ thread found, (next.threads thread).seen? = some found →
      (system.threads thread).seen? = some found)
    (positive : ∀ thread object ui32TimeOutJiffies,
      next.threads thread = .check object ui32TimeOutJiffies →
        ui32TimeOutJiffies ≠ 0)
    (awake : ∀ thread object ui32TimeOutJiffies ui32TimeStamp,
      next.threads thread =
        .sleeping object ui32TimeOutJiffies ui32TimeStamp false →
      system.threads thread =
          .sleeping object ui32TimeOutJiffies ui32TimeStamp false ∧
        (object ∈ system.waking → object ∈ next.waking)) :
    Obliged next := by
  constructor
  · exact positive
  · intro thread object isOwed
    rw [sameHistory] at isOwed ⊢
    rw [heard]
    exact obliged.due thread object isOwed
  · intro thread object ui32TimeStamp isNext few isSeen
    rw [sameHistory] at isNext few
    exact obliged.second thread object ui32TimeStamp isNext few
      (seen thread _ isSeen)
  · intro thread object ui32TimeOutJiffies ui32TimeStamp isSleeping isOwed few
    rw [sameHistory] at isOwed few
    obtain ⟨before, stillWaking⟩ := awake thread object _ _ isSleeping
    exact stillWaking (obliged.awake thread object _ _ before isOwed few)
  · rw [sameHistory]
    exact obliged.kept

/-- An event of a longer history is the latest one or an earlier one. -/
theorem split_cons
    {earlier : Event}
    {history after before : List Event}
    (split : event :: history = after ++ earlier :: before) :
    (event = earlier ∧ before = history) ∨
      ∃ rest, history = rest ++ earlier :: before := by
  rcases List.cons_eq_append_iff.mp split with
    ⟨-, isHead⟩ | ⟨rest, -, isRest⟩
  · obtain ⟨isEvent, isHistory⟩ := List.cons.inj isHead
    exact .inl ⟨isEvent.symm, isHistory⟩
  · exact .inr ⟨rest, isRest⟩

theorem Obliged.kept_cons
    (obliged : Obliged system)
    (latest : event.Kept system.history)
    (after : List Event)
    (earlier : Event)
    (before : List Event)
    (split : event :: system.history = after ++ earlier :: before) :
    earlier.Kept before := by
  rcases split_cons split with ⟨rfl, rfl⟩ | ⟨rest, isHistory⟩
  · exact latest
  · exact obliged.kept rest earlier before isHistory

section

variable (obliged : Obliged system)
include obliged

/-- A thread that moves on does not compare without time left. -/
theorem Obliged.positive_setThread
    (inTime : ∀ object ui32TimeOutJiffies,
      phase = .check object ui32TimeOutJiffies → ui32TimeOutJiffies ≠ 0)
    (other object ui32TimeOutJiffies : Nat)
    (isCheck : (system.setThread thread phase).threads other =
      .check object ui32TimeOutJiffies) :
    ui32TimeOutJiffies ≠ 0 := by
  rcases threads_cases isCheck with ⟨-, isPhase⟩ | ⟨-, before⟩
  · exact inTime object _ isPhase
  · exact obliged.positive other object _ before

/-- What the objects are does not matter. -/
theorem Obliged.setObjects
    (objects : Nat → Option EventObject)
    (nextObject : Nat) :
    Obliged { system with objects, nextObject } :=
  { obliged with }

variable {object : Nat}

theorem Obliged.enterWait
    (performed : system.enterWait process thread object ui32TimeOutJiffies =
      some next) :
    Obliged next := by
  obtain ⟨_, isOutside, inTime, rfl⟩ := enterWait_cases performed
  have sameHeard : ∀ other,
      ((system.setThread thread
        (.check object ui32TimeOutJiffies)).threads other).heard? =
          (system.threads other).heard? :=
    view_setThread Phase.heard? (by rw [isOutside]; rfl)
  constructor
  · apply obliged.positive_setThread
    rintro _ _ ⟨⟩
    exact inTime
  · intro other its isOwed
    rcases obliged.due other its isOwed with some | ⟨ui32TimeStamp, isHeard⟩
    · exact .inl some
    · exact .inr ⟨ui32TimeStamp, (sameHeard other).trans isHeard⟩
  · intro other its ui32TimeStamp isNext few isSeen
    exact obliged.second other its ui32TimeStamp isNext few
      (seen?_setThread (fun _ isFound => absurd isFound (by simp [Phase.seen?]))
        other _ isSeen)
  · intro other its left ui32TimeStamp isSleeping isOwed few
    rcases threads_cases isSleeping with ⟨-, isPhase⟩ | ⟨-, before⟩
    · cases isPhase
    · exact obliged.awake other its left ui32TimeStamp before isOwed few
  · exact obliged.kept_cons trivial

/-- A thread that goes to sleep is owed nothing, and a thread that finds a new
time stamp will return success. -/
theorem Obliged.look
    (stamped : Stamped system)
    (placed : Placed system)
    (performed : system.look thread = some next) :
    Obliged next := by
  obtain ⟨object, ui32TimeOutJiffies, value, isCheck, isValue,
    ⟨_, rfl⟩ | ⟨isOld, rfl⟩⟩ := look_cases performed
  · have inTime := obliged.positive thread object _ isCheck
    have isInside : (system.threads thread).object? = some object := by
      rw [isCheck]
      rfl
    constructor
    · exact obliged.positive_setThread nofun
    · intro other its isOwed
      by_cases isThis : object = its
      · subst isThis
        obtain rfl := placed.owedAlone other thread object isOwed isInside
        exact .inr ⟨value.sTimeStamp, (congrArg _ (setThread_self ..)).trans
          (heard?_leaving _ inTime)⟩
      · simp only [record, unheard, if_neg isThis]
        rcases obliged.due other its isOwed with some | ⟨ui32TimeStamp, isHeard⟩
        · exact .inl some
        · have notThread : other ≠ thread := by
            rintro rfl
            rw [isCheck] at isHeard
            exact absurd isHeard (by simp [Phase.heard?])
          exact .inr ⟨ui32TimeStamp,
            (congrArg _ (setThread_of_ne notThread ..)).trans isHeard⟩
    · intro other its ui32TimeStamp isNext few isSeen
      have before : (system.threads other).seen? = some (its, ui32TimeStamp) :=
        seen?_setThread
          (fun found isFound =>
            absurd ((seen?_leaving _ inTime).symm.trans isFound) (by simp))
          other _ isSeen
      by_cases isThis : object = its
      · subst isThis
        obtain rfl := placed.alone thread other object isInside
          (object?_of_seen? before)
        rw [isCheck] at before
        exact absurd before (by simp [Phase.seen?])
      · simp only [record, unheard, if_neg isThis] at few
        exact obliged.second other its ui32TimeStamp isNext few before
    · intro other its left ui32TimeStamp isSleeping isOwed few
      rcases threads_cases isSleeping with ⟨-, isPhase⟩ | ⟨isThis, before⟩
      · cases isPhase
      · have notIts : object ≠ its := by
          rintro rfl
          refine isThis (placed.alone thread other object isInside ?_)
          rw [before]
          rfl
        simp only [record, unheard, if_neg notIts] at few
        exact obliged.awake other its left ui32TimeStamp before isOwed few
    · exact obliged.kept_cons trivial
  · have nothing : unheard object system.history < 2 ^ 32 →
        owedOf thread object system.history = .nothing := by
      intro few
      by_contra isOwed
      exact obliged.isNew stamped placed isCheck isValue isOwed few isOld
    constructor
    · exact obliged.positive_setThread nofun
    · intro other its isOwed
      rcases obliged.due other its isOwed with some | ⟨ui32TimeStamp, isHeard⟩
      · exact .inl some
      · exact .inr ⟨ui32TimeStamp,
          (view_setThread Phase.heard? (by rw [isCheck]; rfl) other).trans isHeard⟩
    · intro other its ui32TimeStamp isNext few isSeen
      by_cases isThis : other = thread
      · subst isThis
        have := (congrArg _ (setThread_self ..)).symm.trans isSeen
        obtain ⟨rfl, rfl⟩ := Prod.ext_iff.mp (Option.some.inj this)
        exact absurd ((nothing few).symm.trans isNext) (by simp)
      · exact obliged.second other its ui32TimeStamp isNext few
          ((congrArg _ (setThread_of_ne isThis ..)).symm.trans isSeen)
    · intro other its left ui32TimeStamp isSleeping isOwed few
      rcases threads_cases isSleeping with ⟨rfl, isPhase⟩ | ⟨_, before⟩
      · cases isPhase
        exact absurd (nothing few) isOwed
      · exact obliged.awake other its left ui32TimeStamp before isOwed few
    · exact obliged.kept_cons nothing

theorem Obliged.wake
    (performed : system.wake thread left = some next) :
    Obliged next := by
  obtain ⟨object, ui32TimeOutJiffies, ui32TimeStamp, woken, isSleeping, rfl⟩ :=
    wake_cases performed
  refine obliged.frame rfl
    (view_setThread Phase.heard? (by rw [isSleeping]; rfl))
    (seen?_setThread (fun _ isSeen => by rw [isSleeping]; exact isSeen))
    (obliged.positive_setThread nofun)
    (fun other its time stamp otherSleeping => ?_)
  rcases threads_cases otherSleeping with ⟨-, isPhase⟩ | ⟨-, before⟩
  · cases isPhase
  · exact ⟨before, id⟩

theorem Obliged.relock
    (performed : system.relock thread = some next) :
    Obliged next := by
  obtain ⟨object, ui32TimeOutJiffies, ui32TimeStamp, isRelocking, rfl⟩ :=
    relock_cases performed
  refine obliged.frame rfl
    (view_setThread Phase.heard? (by rw [isRelocking]; split_ifs <;> rfl))
    (seen?_setThread (fun _ isSeen => ?_))
    (obliged.positive_setThread fun its time isPhase => ?_)
    (fun other its time stamp otherSleeping => ?_)
  · rw [isRelocking]
    split_ifs at isSeen
    · exact absurd isSeen (by simp [Phase.seen?])
    · exact isSeen
  · split_ifs at isPhase with inTime
    obtain ⟨-, rfl⟩ := Phase.check.inj isPhase
    exact inTime
  · rcases threads_cases otherSleeping with ⟨-, isPhase⟩ | ⟨-, before⟩
    · split_ifs at isPhase
    · exact ⟨before, id⟩

/-- A thread that returns is owed nothing, or was owed a signal by this wait
and timed out. -/
theorem Obliged.leave
    (performed : system.leave thread = some next) :
    Obliged next := by
  obtain ⟨object, ui32TimeOutJiffies, ui32TimeStamp, value, isLeaving,
    isValue, rfl⟩ := leave_cases performed
  have threads : ∀ other phase,
      update system.threads thread Phase.outside other = phase →
        phase ≠ .outside → other ≠ thread ∧ system.threads other = phase := by
    rintro other _ rfl isInside
    by_cases isThis : other = thread
    · subst isThis
      simp at isInside
    · rw [update_of_ne isThis]
      exact ⟨isThis, rfl⟩
  have owedOther : ∀ other its, other ≠ thread →
      owedOf other its ((if ui32TimeOutJiffies ≠ 0 then Event.ok thread object
        else .timeout thread object) :: system.history) =
        owedOf other its system.history := by
    intro other its notThis
    split_ifs <;> simp [owedOf, Ne.symm notThis]
  constructor
  · intro other its left isCheck
    obtain ⟨-, before⟩ := threads other _ isCheck (by simp)
    exact obliged.positive other its left before
  · intro other its isOwed
    simp only [record, unheard_return]
    by_cases isThis : other = thread
    · subst isThis
      left
      have isOwedBefore : owedOf other its system.history ≠ .nothing := by
        intro isNothing
        simp only [record, setLock, setThread, setObject] at isOwed
        split_ifs at isOwed <;> simp [owedOf, isNothing] at isOwed
      refine (obliged.due other its isOwedBefore).resolve_right ?_
      rintro ⟨ui32Other, isHeard⟩
      -- a thread that heard a signal returns success
      rw [isLeaving] at isHeard
      obtain ⟨left, rfl⟩ : ∃ left, ui32TimeOutJiffies = left + 1 := by
        cases ui32TimeOutJiffies with
        | zero => exact absurd isHeard (by simp [Phase.heard?])
        | succ left => exact ⟨left, rfl⟩
      obtain ⟨rfl, -⟩ := Prod.ext_iff.mp (Option.some.inj isHeard)
      simp [record, owedOf] at isOwed
    · have isOwedBefore := owedOther other its isThis ▸ isOwed
      rcases obliged.due other its isOwedBefore with some | ⟨ui32Other, isHeard⟩
      · exact .inl some
      · exact .inr ⟨ui32Other,
          (congrArg _ (update_of_ne isThis ..)).trans isHeard⟩
  · intro other its ui32Other isNext few isSeen
    simp only [record, unheard_return] at few
    by_cases isThis : other = thread
    · subst isThis
      have := (congrArg _ (update_self ..)).symm.trans isSeen
      exact absurd this (by simp [Phase.seen?])
    · exact obliged.second other its ui32Other
        ((owedOther other its isThis).symm.trans isNext) few
        ((congrArg _ (update_of_ne isThis ..)).symm.trans isSeen)
  · intro other its left ui32Other isSleeping isOwed few
    simp only [record, unheard_return] at few
    obtain ⟨notThis, before⟩ := threads other _ isSleeping (by simp)
    exact obliged.awake other its left ui32Other before
      (owedOther other its notThis ▸ isOwed) few
  · refine obliged.kept_cons ?_
    split_ifs with late
    · trivial
    · intro few isNext
      refine obliged.second thread object ui32TimeStamp isNext few ?_
      rw [isLeaving, not_not.mp late]
      rfl

theorem Obliged.increment
    (performed : system.increment object = some next) :
    Obliged next := by
  obtain ⟨value, isValue, rfl⟩ := increment_cases performed
  have more : ∀ its, unheard its system.history ≤
      unheard its (.signal object :: system.history) := by
    intro its
    simp only [unheard]
    split_ifs
    · exact Nat.le_succ _
    · exact Nat.le_refl _
  have owedOther : ∀ thread its, object ≠ its →
      owedOf thread its (.signal object :: system.history) =
        owedOf thread its system.history := by
    intro thread its notThis
    simp [owedOf, notThis]
  constructor
  · exact obliged.positive
  · intro thread its isOwed
    by_cases isThis : object = its
    · subst isThis
      left
      simp [record, unheard]
    · rcases obliged.due thread its (owedOther thread its isThis ▸ isOwed) with
        some | isHeard
      · exact .inl (Nat.lt_of_lt_of_le some (more its))
      · exact .inr isHeard
  · intro thread its ui32TimeStamp isNext few
    refine obliged.second thread its ui32TimeStamp ?_
      (Nat.lt_of_le_of_lt (more its) few)
    simp only [record, owedOf] at isNext
    split_ifs at isNext
    exact isNext
  · intro thread its left ui32TimeStamp isSleeping isOwed few
    by_cases isThis : object = its
    · subst isThis
      exact List.mem_cons_self
    · exact List.mem_cons_of_mem _ (obliged.awake thread its left ui32TimeStamp
        isSleeping (owedOther thread its isThis ▸ isOwed)
        (Nat.lt_of_le_of_lt (more its) few))
  · exact obliged.kept_cons trivial

end

/-- A thread that is still asleep after a wake-up waits on another object. -/
theorem wakeUp_eq_sleeping
    {signalled : Nat}
    (asleep : phase.wakeUp signalled =
      .sleeping object ui32TimeOutJiffies ui32TimeStamp false) :
    phase = .sleeping object ui32TimeOutJiffies ui32TimeStamp false ∧
      object ≠ signalled := by
  cases phase with
  | sleeping its left stamp woken =>
    simp only [Phase.wakeUp, Phase.sleeping.injEq, Bool.or_eq_false_iff,
      beq_eq_false_iff_ne] at asleep
    obtain ⟨rfl, rfl, rfl, rfl, notThis⟩ := asleep
    exact ⟨rfl, notThis⟩
  | outside | check | relocking | leaving =>
    exact absurd asleep (by simp [Phase.wakeUp])

theorem Obliged.wakeUp
    (obliged : Obliged system)
    (performed : system.wakeUp object = some next) :
    Obliged next := by
  obtain rfl := wakeUp_cases performed
  refine obliged.frame rfl (fun _ => heard?_wakeUp ..)
    (fun _ _ isSeen => (seen?_wakeUp ..).symm.trans isSeen)
    (fun thread its left isCheck => ?_)
    (fun thread its left ui32TimeStamp isSleeping => ?_)
  · refine obliged.positive thread its left ?_
    simp only at isCheck
    cases before : system.threads thread <;> rw [before] at isCheck
    case check => exact isCheck
    all_goals cases isCheck
  · obtain ⟨before, notThis⟩ := wakeUp_eq_sleeping isSleeping
    exact ⟨before, (List.mem_erase_of_ne notThis).mpr⟩

theorem Obliged.step
    (obliged : Obliged system)
    (stamped : Stamped system)
    (placed : Placed system)
    (performed : system.step process label = some next) :
    Obliged next := by
  cases label with
  | openObject thread hResItem handle =>
    obtain rfl := openObject_cases performed
    exact obliged.setObjects ..
  | closeObject thread object =>
    obtain ⟨_, _, ⟨_, _, rfl⟩ | rfl⟩ := closeObject_cases performed
    · exact obliged.setObjects ..
    · exact obliged.setObjects ..
  | exitProcess leaver =>
    obtain ⟨_, rfl⟩ := exitProcess_cases performed
    exact obliged.setObjects ..
  | enterWait thread object _ => exact obliged.enterWait performed
  | look thread => exact obliged.look stamped placed performed
  | wake thread left => exact obliged.wake performed
  | relock thread => exact obliged.relock performed
  | leave thread => exact obliged.leave performed
  | increment object => exact obliged.increment performed
  | wakeUp object => exact obliged.wakeUp performed

/-! ## Returning -/

/-- A thread inside a wait can step once it can have the lock. -/
theorem Placed.canStep
    (placed : Placed system)
    (isInside : (system.threads thread).object? = some object)
    (available :
      system.gPVRSRVLock = none ∨ system.gPVRSRVLock = some thread) :
    ∃ label next, label.IsStepOf thread ∧
      system.step process label = some next := by
  obtain ⟨value, isValue⟩ := placed.live thread object isInside
  cases isPhase : system.threads thread with
  | outside => simp [isPhase, object?] at isInside
  | check its left =>
    obtain rfl : its = object := by
      simpa [isPhase, object?] using isInside
    refine ⟨.look thread, ?_⟩
    simp only [System.step, System.look, isPhase, isValue]
    split_ifs
    · exact ⟨_, rfl, rfl⟩
    · exact ⟨_, rfl, rfl⟩
  | sleeping its left ui32TimeStamp woken =>
    refine ⟨.wake thread 0, ?_⟩
    simp only [System.step, System.wake, isPhase, if_pos (Nat.zero_le left)]
    exact ⟨_, rfl, rfl⟩
  | relocking its left ui32TimeStamp =>
    refine ⟨.relock thread, ?_⟩
    have isFree : system.gPVRSRVLock = none := by
      refine available.resolve_right fun isHolder => ?_
      have := placed.locked thread isHolder
      simp [isPhase, Phase.locked] at this
    simp only [System.step, System.relock, isPhase, isFree]
    exact ⟨_, rfl, rfl⟩
  | leaving its left ui32TimeStamp =>
    obtain rfl : its = object := by
      simpa [isPhase, object?] using isInside
    refine ⟨.leave thread, ?_⟩
    simp only [System.step, System.leave, isPhase, isValue]
    exact ⟨_, rfl, rfl⟩

/-- A thread that is owed a signal comes nearer to its return. -/
theorem Obliged.nearer
    (obliged : Obliged system)
    (stamped : Stamped system)
    (placed : Placed system)
    (isInside : (system.threads thread).object? = some object)
    (isOwed : owedOf thread object system.history ≠ .nothing)
    (few : unheard object system.history < 2 ^ 32)
    (isStep : label.IsStepOf thread)
    (performed : system.step process label = some next) :
    (next.threads thread).stepsLeft < (system.threads thread).stepsLeft := by
  cases label with
  | look other =>
    obtain rfl : other = thread := isStep
    obtain ⟨its, left, value, isCheck, isValue, found⟩ := look_cases performed
    obtain rfl : its = object := by
      simpa [isCheck, object?] using isInside
    rcases found with ⟨_, rfl⟩ | ⟨isOld, _⟩
    · rw [isCheck]
      simp [record, setThread, stepsLeft]
    · exact absurd isOld
        (obliged.isNew stamped placed isCheck isValue isOwed few)
  | wake other left =>
    obtain rfl : other = thread := isStep
    obtain ⟨its, time, ui32TimeStamp, woken, isSleeping, rfl⟩ :=
      wake_cases performed
    rw [isSleeping]
    simp [setThread, stepsLeft]
  | relock other =>
    obtain rfl : other = thread := isStep
    obtain ⟨its, time, ui32TimeStamp, isRelocking, rfl⟩ :=
      relock_cases performed
    rw [isRelocking]
    simp only [setLock, setThread, update_self]
    split_ifs <;> simp [stepsLeft]
  | leave other =>
    obtain rfl : other = thread := isStep
    obtain ⟨its, time, ui32TimeStamp, value, isLeaving, isValue, rfl⟩ :=
      leave_cases performed
    rw [isLeaving]
    simp [record, setLock, setThread, stepsLeft]
  | openObject | closeObject | exitProcess | enterWait | increment | wakeUp =>
    exact absurd isStep (by simp [Label.IsStepOf])

end Steps

/-! ## Runs -/

/-- The invariant of runs whose waits are apart. -/
structure WaitInvariant (system : System) : Prop where
  placed : Placed system
  stamped : Stamped system
  obliged : Obliged system

theorem waitInvariant_initial : WaitInvariant initialSystem where
  placed :=
    { inside := fun _ => rfl
      fresh := fun _ _ => ⟨rfl, rfl⟩
      live := nofun
      alone := nofun
      owedAlone := nofun
      locked := nofun }
  stamped :=
    { heard := nofun
      stamp := nofun
      seen := nofun }
  obliged :=
    { positive := nofun
      due := fun _ _ isOwed => absurd rfl isOwed
      second := nofun
      awake := nofun
      kept := fun after _ _ split =>
        absurd split (by cases after <;> simp [initialSystem]) }

variable {process : Nat → Nat} {system next : System} {thread object : Nat}

theorem Reachable.invariant
    (reached : Reachable process WaitsApart system) :
    WaitInvariant system := by
  induction reached with
  | initial => exact waitInvariant_initial
  | step label _ meets performed ih =>
    obtain ⟨placed, stamped, obliged⟩ := ih
    exact ⟨placed.step meets performed,
      stamped.step placed obliged performed,
      obliged.step stamped placed performed⟩

theorem WaitInvariant.waitsKept
    (invariant : WaitInvariant system)
    (process : Nat → Nat) :
    system.WaitsKept process := by
  obtain ⟨placed, stamped, obliged⟩ := invariant
  constructor
  · intro thread object isInside
    rw [placed.inside] at isInside
    obtain ⟨value, isValue⟩ := placed.live thread object isInside
    rw [isValue]
    rfl
  · exact obliged.awake
  · exact fun _ _ after before => obliged.kept after _ before
  · exact fun _ _ after before => obliged.kept after _ before
  · intro thread object isInside isOwed few
    rw [placed.inside] at isInside
    exact ⟨placed.canStep isInside, fun label next isStep performed =>
      obliged.nearer stamped placed isInside isOwed few isStep performed⟩
  · intro thread object ui32TimeStamp isLeaving
    obtain ⟨value, isValue⟩ := placed.live thread object
      (by rw [isLeaving]; rfl)
    exact ⟨value, isValue, stamped.seen thread object ui32TimeStamp value
      (by rw [isLeaving]; rfl) isValue⟩

/-- Where the waits on each object are apart and no object is freed under a
wait, the waits keep their promises. -/
theorem reachable_waitsKept
    (process : Nat → Nat)
    {system : System}
    (reached : Reachable process WaitsApart system) :
    system.WaitsKept process :=
  reached.invariant.waitsKept process

/-- An object that is freed under a wait breaks the promises. -/
theorem not_waitsKept_of_freed
    (isInside : insideOf thread system.history = some object)
    (sameHistory : next.history = system.history)
    (freed : next.objects object = none) :
    ¬ next.WaitsKept process := by
  intro kept
  have live := kept.live thread object (by rw [sameHistory]; exact isInside)
  rw [freed] at live
  exact absurd live (by simp)

/-- A call that closes an object under a wait breaks the promises. -/
theorem not_waitsKept_of_closeObject
    (notApart : ¬ WaitsApart system (.closeObject thread object))
    (performed :
      system.step process (.closeObject thread object) = some next) :
    ¬ next.WaitsKept process := by
  simp only [WaitsApart, System.Unwaited, not_forall, not_not] at notApart
  obtain ⟨value, isValue, isItem, waiter, isInside⟩ := notApart
  simp only [System.step, System.closeObject] at performed
  split at performed
  next => exact absurd performed (by simp)
  next found isFound =>
    obtain rfl := Option.some.inj
      (isValue.symm.trans (lookupHandle_eq_some isFound))
    split_ifs at performed
    cases performed
    exact not_waitsKept_of_freed isInside rfl (setObject_self ..)

/-- The exit of a process with a thread inside a wait on one of its objects
breaks the promises. -/
theorem not_waitsKept_of_exitProcess
    {leaver : Nat}
    (notApart : ¬ WaitsApart system (.exitProcess leaver))
    (performed : system.step process (.exitProcess leaver) = some next) :
    ¬ next.WaitsKept process := by
  simp only [WaitsApart, System.Unwaited, not_forall, not_not] at notApart
  obtain ⟨object, value, isValue, freed, waiter, isInside⟩ := notApart
  obtain ⟨_, rfl⟩ := exitProcess_cases performed
  refine not_waitsKept_of_freed isInside rfl ?_
  simp only [isValue, Option.bind_some, freed]

/-- The processes of the threads: all of one process. -/
def oneProcess (_ : Nat) : Nat := 0

/-- A thread is woken by a signal and returns success. -/
theorem reachable_waitsKept_woken :
    ∃ system : System, system.WaitsKept oneProcess ∧
      system.history =
        [.ok 1 0, .hear 1 0, .signal 0, .sleep 1 0, .enter 1 0] := by
  have start : Reachable oneProcess WaitsApart initialSystem := .initial
  have woken := start.step (.openObject 1 true true) trivial rfl
    |>.step (.enterWait 1 0 25) (fun other _ => ⟨nofun, rfl⟩) rfl
    |>.step (.look 1) trivial rfl
    |>.step (.increment 0) trivial rfl
    |>.step (.wakeUp 0) trivial rfl
    |>.step (.wake 1 20) trivial rfl
    |>.step (.relock 1) trivial rfl
    |>.step (.look 1) trivial rfl
    |>.step (.leave 1) trivial rfl
  exact ⟨_, reachable_waitsKept oneProcess woken, rfl⟩

/-- Of two threads that wait on one object the second goes to sleep again: the
first has taken the signal. -/
theorem reachable_waitsKept_shared :
    ¬ ∀ system, Reachable oneProcess (fun _ _ => True) system →
      system.WaitsKept oneProcess := by
  intro kept
  have start : Reachable oneProcess (fun _ _ => True) initialSystem := .initial
  have asleep := start.step (.openObject 1 true true) trivial rfl
    |>.step (.enterWait 1 0 25) trivial rfl
    |>.step (.look 1) trivial rfl
    |>.step (.enterWait 2 0 25) trivial rfl
    |>.step (.look 2) trivial rfl
    |>.step (.increment 0) trivial rfl
    |>.step (.wakeUp 0) trivial rfl
    |>.step (.wake 1 20) trivial rfl
    |>.step (.relock 1) trivial rfl
    |>.step (.look 1) trivial rfl
    |>.step (.leave 1) trivial rfl
    |>.step (.wake 2 20) trivial rfl
    |>.step (.relock 2) trivial rfl
    |>.step (.look 2) trivial rfl
  have nothing := (kept _ asleep).neverSleeps 2 0 [] _ rfl (by decide)
  exact absurd nothing (by decide)

end PvrServices.EventWait
