import PvrServices.Power.LockBalance

/-!
# Truthful records

Whenever no call is at work under the power lock, every device is recorded in
the state whose pre and post transitions both completed last.  A transition
that fails is not undone: a device that prepared stays prepared, recorded in
the state that it was about to leave.
-/

namespace PvrServices.Power

open LockedCalls
open Resman (pvrsrvOk)

variable {thread : Type} [DecidableEq thread]
  {system : PowerSystem thread}

/-- No call is at work under the power lock: whoever holds it has returned
from the call that took it. -/
def Quiet (system : PowerSystem thread) : Prop :=
  ∀ which, system.holder = some which →
    (∃ call eError, system.activity which = .running call (.done eError)) ∨
      ∃ last, system.activity which = .idle last

/-- No device is on its way to another state. -/
def Settled (psSysData : SysData) : Prop :=
  ∀ psPowerDevice, (psSysData.progress psPowerDevice).stage = .settled

/-- In every run, and whichever callbacks fail, the records are truthful
whenever no call is at work under the lock. -/
theorem records_truthful
    (reachable : Reachable system)
    (quiet : Quiet system) :
    Truthful system.shared := by
  have consistent := reachable.consistent powerContract
  cases holder : system.holder with
  | none => exact consistent.invariant (consistent.held.mpr holder)
  | some which =>
    -- What the holder owns after its call is truthful.
    have owns : ∀ last, After last (system.ownership which) →
        Truthful system.shared := by
      intro last after
      cases resource : system.resource with
      | none =>
        rw [consistent.held.mp resource] at holder
        cases holder
      | some ui32CallerID =>
        exact after.truthful _ _
          (System.ownership_of_holder resource holder)
    obtain ⟨call, eError, returns⟩ | ⟨last, between⟩ := quiet which holder
    · exact owns _ (consistent.judged_of returns)
    · exact owns _ (consistent.judged_of between)

/-! ## A transition that fails -/

/-- A machine with one device, which is on. -/
def poweredSysData : SysData where
  eCurrentPowerState := .d0
  psPowerDeviceList := [0]
  psPowerDevice := fun _ => ⟨none, none, 0, 0, .on, .on⟩
  progress := fun _ => ⟨.on, .settled⟩

/-- The request to switch the device off, with a post transition that
fails. -/
theorem reachable_failedTransition :
    ∃ system : PowerSystem Unit,
      Reachable system ∧
        system.activity () =
          .running (.setDevicePowerState 0 .off kernelId false) (.done 1) ∧
          system.resource = none ∧
            system.shared = poweredSysData.setStage 0 (.prepared .off) :=
  reachable_of_call poweredSysData (.setDevicePowerState 0 .off kernelId false)
    [pvrsrvOk, 1] (fun _ => rfl) rfl rfl

/-- The device that could not be switched off is recorded as on. -/
theorem records_truthful_failed :
    ∃ system : PowerSystem Unit,
      Reachable system ∧
        system.activity () =
          .running (.setDevicePowerState 0 .off kernelId false) (.done 1) ∧
          Truthful system.shared := by
  obtain ⟨system, reachable, returns, -, -⟩ := reachable_failedTransition
  refine ⟨system, reachable, returns, records_truthful reachable ?_⟩
  intro _ _
  exact .inl ⟨_, _, returns⟩

/-- A failed call may leave a device half way to the state it asked for. -/
theorem settled_failed :
    ¬ ∀ system : PowerSystem Unit, Reachable system →
      ∀ call eError, system.activity () = .running call (.done eError) →
        eError ≠ pvrsrvOk →
          Truthful system.shared ∧ Settled system.shared := by
  intro allSettled
  obtain ⟨system, reachable, returns, -, shared⟩ := reachable_failedTransition
  have settled := (allSettled system reachable _ _ returns (by decide)).2 0
  rw [shared, progress_setStage] at settled
  cases settled

end PvrServices.Power
