import PvrServices.Power.Contract

/-!
# The balance of the power lock

Threads call the power functions in any order that their contracts allow: a
thread that keeps the lock from one call gives it back by another.  In every
interleaving, and whatever the callbacks answer, a thread holds the lock after
a call exactly when the contract of the call says so.
-/

namespace PvrServices.Power

open LockedCalls
open Resman (PvrsrvError pvrsrvOk)

/-! ## Calls -/

/-- A call of a power function. -/
inductive PowerCall
  | powerLock (ui32CallerID : BitVec 32) (bSystemPowerEvent : Bool)
  | powerUnlock (ui32CallerID : BitVec 32)
  | setDevicePowerState (ui32DeviceIndex : BitVec 32)
      (eNewPowerState : PvrsrvDevPowerState) (ui32CallerID : BitVec 32)
      (bRetainMutex : Bool)
  | systemPrePowerState (eNewSysPowerState : PvrsrvSysPowerState)
  | systemPostPowerState (eNewSysPowerState : PvrsrvSysPowerState)
  | setPowerState (eNewSysPowerState : PvrsrvSysPowerState)
  | sgxScheduleCCBCommand (ui32DeviceIndex ui32CallerID : BitVec 32)
      (arguments : SgxCcbArguments)
deriving DecidableEq, Repr

/-- The function that is called. -/
def PowerCall.body : PowerCall → PowerProgram PvrsrvError
  | powerLock ui32CallerID bSystemPowerEvent =>
    pvrsrvPowerLock ui32CallerID bSystemPowerEvent
  | powerUnlock ui32CallerID => do
      pvrsrvPowerUnlock ui32CallerID
      pure pvrsrvOk
  | setDevicePowerState ui32DeviceIndex eNewPowerState ui32CallerID
      bRetainMutex =>
    pvrsrvSetDevicePowerState ui32DeviceIndex eNewPowerState ui32CallerID
      bRetainMutex
  | systemPrePowerState eNewSysPowerState =>
    pvrsrvSystemPrePowerState eNewSysPowerState
  | systemPostPowerState eNewSysPowerState =>
    pvrsrvSystemPostPowerState eNewSysPowerState
  | setPowerState eNewSysPowerState => pvrsrvSetPowerState eNewSysPowerState
  | sgxScheduleCCBCommand ui32DeviceIndex ui32CallerID arguments =>
    sgxScheduleCCBCommandKM ui32DeviceIndex ui32CallerID arguments

/-- The identity under which the caller has the lock once the call returned:
the lock is kept by a successful `PVRSRVPowerLock`, by a successful
`PVRSRVSetDevicePowerStateKM` with `bRetainMutex`, and by a successful
`PVRSRVSystemPrePowerStateKM`. -/
def PowerCall.keeps : PowerCall → PvrsrvError → Option (BitVec 32)
  | powerLock ui32CallerID _, eError =>
    if eError = pvrsrvOk then some ui32CallerID else none
  | setDevicePowerState _ _ ui32CallerID bRetainMutex, eError =>
    if eError = pvrsrvOk ∧ bRetainMutex = true then some ui32CallerID
    else none
  | systemPrePowerState _, eError =>
    if eError = pvrsrvOk then some kernelId else none
  | _, _ => none

/-- The identity under which a thread between two calls has the lock. -/
def keptBy : Option (PowerCall × PvrsrvError) → Option (BitVec 32)
  | none => none
  | some (call, eError) => call.keeps eError

/-- The lock is released by the thread that kept it, the second half of a
system transition follows its first half, and every other call is made
without the lock. -/
def PowerCall.mayFollow
    (last : Option (PowerCall × PvrsrvError)) :
    PowerCall → Prop
  | powerUnlock ui32CallerID => keptBy last = some ui32CallerID
  | systemPostPowerState eNewSysPowerState =>
    last = some (.systemPrePowerState eNewSysPowerState, pvrsrvOk)
  | _ => keptBy last = none

/-- The power functions as calls under the power lock. -/
def powerInterface :
    Interface SysData (BitVec 32) PowerCallback (BitVec 32) PvrsrvError
      PowerCall where
  body := PowerCall.body
  mayFollow := PowerCall.mayFollow

/-- Threads that call power functions. -/
abbrev PowerSystem (thread : Type) :=
  System thread SysData (BitVec 32) PowerCallback (BitVec 32) PvrsrvError
    PowerCall

/-! ## The contract of every call -/

/-- What a thread owns after a call. -/
structure After
    (last : Option (PowerCall × PvrsrvError))
    (own : Ownership SysData (BitVec 32)) :
    Prop where
  held : own.heldBy = keptBy last
  truthful : ∀ ui32CallerID psSysData, own = .owned ui32CallerID psSysData →
    Truthful psSysData
  prepared : ∀ ui32CallerID psSysData eNewSysPowerState,
    own = .owned ui32CallerID psSysData →
    last = some (.systemPrePowerState eNewSysPowerState, pvrsrvOk) →
    SystemPrepared eNewSysPowerState psSysData

variable {last : Option (PowerCall × PvrsrvError)} {ui32CallerID : BitVec 32}
  {own : Ownership SysData (BitVec 32)} {eError : PvrsrvError}

/-- A thread that keeps nothing owns nothing. -/
theorem After.free
    (nothing : keptBy last = none) :
    After last .free where
  held := nothing.symm
  truthful := by
    intro _ _ owned
    cases owned
  prepared := by
    intro _ _ _ owned
    cases owned

/-- A thread that keeps the lock after anything but the first half of a system
transition owns truthful records. -/
theorem After.owned
    {call : PowerCall}
    {psSysData : SysData}
    (kept : call.keeps eError = some ui32CallerID)
    (other : ∀ eNewSysPowerState,
      call ≠ .systemPrePowerState eNewSysPowerState)
    (truthful : Truthful psSysData) :
    After (some (call, eError)) (.owned ui32CallerID psSysData) where
  held := kept.symm
  truthful := by
    intro _ _ owned
    cases owned
    exact truthful
  prepared := by
    intro _ _ eNewSysPowerState _ last
    cases last
    exact absurd rfl (other eNewSysPowerState)

/-- A thread that keeps nothing comes to its next call without the lock. -/
theorem After.eq_free
    (after : After last own)
    (nothing : keptBy last = none) :
    own = .free :=
  Ownership.eq_free_of_heldBy (after.held.trans nothing)

/-- A thread that keeps the lock comes to its next call with it. -/
theorem After.eq_owned
    (after : After last own)
    (kept : keptBy last = some ui32CallerID) :
    ∃ psSysData, own = .owned ui32CallerID psSysData := by
  have held := after.held.trans kept
  cases own with
  | free => cases held
  | owned owner psSysData =>
    cases held
    exact ⟨psSysData, rfl⟩

/-- Every call is safe wherever it may follow. -/
theorem safe_body
    {next : PowerCall}
    (after : After last own)
    (allowed : next.mayFollow last) :
    Safe powerDiscipline next.body own
      fun eError => After (some (next, eError)) := by
  cases next with
  | powerLock ui32CallerID bSystemPowerEvent =>
    obtain rfl := after.eq_free allowed
    apply safe_pvrsrvPowerLock
    · intro eError failed
      exact After.free (if_neg failed)
    · intro psSysData truthful
      exact After.owned rfl (by simp) truthful
  | powerUnlock ui32CallerID =>
    obtain ⟨psSysData, rfl⟩ := after.eq_owned allowed
    rw [PowerCall.body, safe_bind, pvrsrvPowerUnlock, safe_release]
    exact ⟨after.truthful _ _ rfl, After.free rfl⟩
  | setDevicePowerState ui32DeviceIndex eNewPowerState ui32CallerID
      bRetainMutex =>
    obtain rfl := after.eq_free allowed
    apply safe_pvrsrvSetDevicePowerState
    · intro eError failed
      exact After.free (if_neg fun kept => failed kept.1)
    · rintro rfl
      exact After.free rfl
    · rintro rfl psSysData truthful
      exact After.owned rfl (by simp) truthful
  | systemPrePowerState eNewSysPowerState =>
    obtain rfl := after.eq_free allowed
    apply safe_pvrsrvSystemPrePowerState
    · intro eError failed
      exact After.free (if_neg failed)
    · intro psSysData truthful ready
      constructor
      · rfl
      · intro _ _ owned
        cases owned
        exact truthful
      · intro _ _ _ owned same
        cases owned
        cases same
        exact ready
  | systemPostPowerState eNewSysPowerState =>
    change last = some _ at allowed
    subst allowed
    obtain ⟨psSysData, rfl⟩ := after.eq_owned rfl
    apply safe_pvrsrvSystemPostPowerState
    · exact after.truthful _ _ rfl
    · exact after.prepared _ _ _ rfl rfl
    · intro eError
      exact After.free rfl
  | setPowerState eNewSysPowerState =>
    obtain rfl := after.eq_free allowed
    apply safe_pvrsrvSetPowerState
    intro eError
    exact After.free rfl
  | sgxScheduleCCBCommand ui32DeviceIndex ui32CallerID arguments =>
    obtain rfl := after.eq_free allowed
    apply safe_sgxScheduleCCBCommandKM
    intro eError
    exact After.free rfl

/-- The contract of the power functions. -/
def powerContract : Contract powerInterface powerDiscipline where
  after := After
  initially := After.free rfl
  safe := fun _ _ _ after allowed => safe_body after allowed

/-! ## Runs -/

/-- A run of the power functions: at its start the lock is free, no thread has
made a call, and every device is in the state that its record says. -/
abbrev Reachable
    {thread : Type}
    [DecidableEq thread]
    (system : PowerSystem thread) :
    Prop :=
  System.Reachable powerInterface powerDiscipline system

variable {thread : Type} [DecidableEq thread]
  {system : PowerSystem thread}

/-- A first call of a single thread, with the answers that it gets, is part of
a run. -/
theorem reachable_of_call
    {psSysData' : SysData}
    {resource : Option (BitVec 32)}
    (psSysData : SysData)
    (call : PowerCall)
    (answers : List (BitVec 32))
    (truthful : Truthful psSysData)
    (allowed : call.mayFollow none)
    (ends : call.body.solo recordCallback none psSysData answers =
      some (eError, resource, psSysData')) :
    ∃ system : PowerSystem Unit,
      Reachable system ∧
        system.activity () = .running call (.done eError) ∧
          system.resource = resource ∧ system.shared = psSysData' := by
  have start : Reachable
      (⟨psSysData, none, none, fun _ => .idle none⟩ : PowerSystem Unit) :=
    .initial _ ⟨truthful, rfl, rfl, fun _ => rfl⟩
  have called := System.Reachable.step _ _ start
    (.start _ () none call rfl allowed)
  exact System.reachable_of_solo answers called (System.activity_advance _)
    ends

/-- What a thread owns decides what it holds. -/
theorem holds_iff_of_after
    {which : thread}
    (after : After last (system.ownership which)) :
    (system.holder = some which ∧ system.resource = some ui32CallerID) ↔
      keptBy last = some ui32CallerID := by
  rw [System.holder_iff_heldBy, after.held]

/-- In every run a thread holds the power lock when a call returns, and until
its next call, exactly when the contract of the call says so; it never tries
to take the lock that it holds, and never releases a lock that it did not
take. -/
theorem powerLock_balanced
    (reachable : Reachable system)
    (which : thread) :
    (∀ call eError ui32CallerID,
      system.activity which = .running call (.done eError) →
        ((system.holder = some which ∧
            system.resource = some ui32CallerID) ↔
          call.keeps eError = some ui32CallerID)) ∧
      (∀ last ui32CallerID,
        system.activity which = .idle last →
          ((system.holder = some which ∧
              system.resource = some ui32CallerID) ↔
            keptBy last = some ui32CallerID)) ∧
      (∀ call ui32CallerID next,
        system.activity which = .running call (.lock ui32CallerID next) →
          system.holder ≠ some which) ∧
      (∀ call ui32CallerID next,
        system.activity which = .running call (.unlock ui32CallerID next) →
          system.holder = some which ∧
            system.resource = some ui32CallerID) := by
  have consistent := reachable.consistent powerContract
  refine ⟨?_, ?_, ?_, ?_⟩
  · intro call eError ui32CallerID returns
    exact holds_iff_of_after (consistent.judged_of returns)
  · intro last ui32CallerID between
    exact holds_iff_of_after (consistent.judged_of between)
  · intro call ui32CallerID next inside
    exact consistent.lock_not_held inside
  · intro call ui32CallerID next inside
    exact consistent.unlock_held inside

/-- A machine without power devices. -/
def emptySysData : SysData where
  eCurrentPowerState := .d0
  psPowerDeviceList := []
  psPowerDevice := fun _ => ⟨none, none, 0, 0, .on, .on⟩
  progress := fun _ => ⟨.on, .settled⟩

/-- A thread that asked to keep the lock holds it. -/
theorem powerLock_balanced_retained :
    ∃ system : PowerSystem Unit,
      Reachable system ∧
        system.activity () =
          .running (.setDevicePowerState 0 .on kernelId true)
            (.done pvrsrvOk) ∧
          system.holder = some () ∧ system.resource = some kernelId := by
  obtain ⟨system, reachable, returns, -, -⟩ :=
    reachable_of_call emptySysData
      (.setDevicePowerState 0 .on kernelId true) [] (fun _ => rfl) rfl rfl
  refine ⟨system, reachable, returns, ?_⟩
  exact ((powerLock_balanced reachable ()).1 _ _ kernelId returns).mpr rfl

end PvrServices.Power
