import PvrServices.Power.RecoveryTimerPasses

/-!
# The recovery timer follows the power state

The timer is active when SGX is recorded as on, as long as nothing fails while
the timer is stopped for SGX to leave that state, SGX does not go between idle
and off, and the clock speed does not change without idling SGX while it is on.
-/

namespace PvrServices.Power.RecoveryTimer

open LockedCalls
open Resman (PvrsrvError pvrsrvOk)
open Program (ensures_bind ensures_get ensures_pure ensures_release invoke
  modify)
open TimerCall (pendingAfter)

section Calls

variable {sgx : Address} {ui32DeviceIndex ui32CallerID : BitVec 32}
  {eNewPowerState : PvrsrvDevPowerState}
  {eNewSysPowerState : PvrsrvSysPowerState}
  {world : World SysData (BitVec 32) SgxDevInfo}
  {post : PvrsrvError → World SysData (BitVec 32) SgxDevInfo → Prop}

/-! ## The lock -/

theorem drop_take
    (free : world.resource = none) (owner : BitVec 32) :
    (world.take owner).drop owner = world := by
  obtain ⟨resource, shared, outside⟩ := world
  cases free
  simp [World.take, World.drop]

section

variable (refused : ∀ eError, eError ≠ pvrsrvOk → post eError world)
include refused

/-- The attempts end with the lock taken, or fail without it. -/
theorem ensures_powerLockAttempts
    {bTryLock : Bool}
    (taken : world.resource = none → post pvrsrvOk (world.take ui32CallerID))
    (ui32Timeout : Nat) :
    (powerLockAttempts ui32CallerID bTryLock ui32Timeout).Ensures
      (powerServing sgx) world post := by
  induction ui32Timeout with
  | zero => exact refused _ (by decide)
  | succ ui32Timeout ih =>
    rw [powerLockAttempts, ensures_bind, Program.ensures_acquire]
    refine ⟨?_, taken⟩
    rw [if_neg (by decide)]
    split
    · exact refused _ (by decide)
    · exact ih

/-- A lock that is taken by somebody is refused. -/
theorem ensures_pvrsrvPowerLock
    {bSystemPowerEvent : Bool}
    (taken : world.resource = none →
      post pvrsrvOk (world.take ui32CallerID)) :
    (pvrsrvPowerLock ui32CallerID bSystemPowerEvent).Ensures
      (powerServing sgx) world post := by
  rw [pvrsrvPowerLock, ensures_bind]
  apply ensures_powerLockAttempts
  · intro eError unsuccessful
    rw [if_neg fun locked => unsuccessful locked.1, ensures_pure]
    exact refused eError unsuccessful
  · intro free
    split
    · rw [ensures_bind, ensures_get]
      split
      · exact taken free
      · rw [ensures_bind, pvrsrvPowerUnlock, ensures_release, drop_take free]
        exact refused _ (by decide)
    · exact taken free

/-! ## Device transitions -/

/-- `PVRSRVSetDevicePowerStateKM` changes nothing without the lock, and leaves
SGX settled. -/
theorem ensures_pvrsrvSetDevicePowerState
    {bRetainMutex : Bool}
    (settled : world.resource = none →
      Settled sgx world.shared world.outside)
    (ends : world.resource = none → ∀ eError after,
      Settled sgx after.shared after.outside → post eError after) :
    (pvrsrvSetDevicePowerState ui32DeviceIndex eNewPowerState ui32CallerID
      bRetainMutex).Ensures (powerServing sgx) world post := by
  rw [pvrsrvSetDevicePowerState, ensures_bind]
  apply ensures_pvrsrvPowerLock
  · intro eError unsuccessful
    rw [if_pos unsuccessful]
    exact refused eError unsuccessful
  · intro free
    -- What follows the two passes: the lock is kept or released.
    have leaves : ∀ eError (after : World SysData (BitVec 32) SgxDevInfo),
        Settled sgx after.shared after.outside →
          (powerUnlockIf (!bRetainMutex || eError != pvrsrvOk)
            ui32CallerID).Ensures (powerServing sgx) after
              fun _ last => post eError last := by
      intro eError after followed
      rw [powerUnlockIf]
      split
      · exact ends free eError _ followed
      · exact ends free eError after followed
    have taken : Settled sgx (world.take ui32CallerID).shared
        (world.take ui32CallerID).outside :=
      settled free
    rw [if_neg (by decide), ensures_bind]
    apply ensures_devicePrePowerState taken
    · intro eError unsuccessful
      rw [ensures_bind, unlessError, if_neg unsuccessful,
        ensures_pure, ensures_bind]
      exact leaves eError _ taken
    · intro left prepared
      rw [ensures_bind, unlessError, if_pos rfl]
      apply ensures_devicePostPowerState prepared
      intro eError after followed
      rw [ensures_bind]
      exact leaves eError after followed.settled

end

/-- `SGXScheduleCCBCommandKM` leaves SGX settled. -/
theorem ensures_sgxScheduleCCBCommandKM
    {arguments : SgxCcbArguments}
    (settled : world.resource = none →
      Settled sgx world.shared world.outside)
    (refused : ∀ eError, post eError world)
    (ends : world.resource = none → ∀ eError after,
      Settled sgx after.shared after.outside → post eError after) :
    (sgxScheduleCCBCommandKM ui32DeviceIndex ui32CallerID
      arguments).Ensures (powerServing sgx) world post := by
  rw [sgxScheduleCCBCommandKM, ensures_bind]
  -- What follows a request that failed.
  have fails : ∀ eError (after : World SysData (BitVec 32) SgxDevInfo),
      (∀ eError, post eError after) → Program.Ensures (powerServing sgx)
        (if eError = pvrsrvErrorRetry ∧ ui32CallerID = isrId then do
            let _ ← invoke (.setReProcessDeviceCommandComplete true)
            let _ ← invoke .osScheduleMISR
            pure pvrsrvOk
          else pure eError : PowerProgram PvrsrvError) after post := by
    intro eError after answered
    split
    · rw [ensures_bind]
      apply ensures_general rfl
      intro _
      rw [ensures_bind]
      apply ensures_general rfl
      intro _
      exact answered pvrsrvOk
    · exact answered eError
  refine ensures_pvrsrvSetDevicePowerState ?_ settled ?_
  · intro eError unsuccessful
    rw [if_neg unsuccessful]
    exact fails eError world refused
  · intro free eError after followed
    by_cases ok : eError = pvrsrvOk
    · rw [if_pos ok, ensures_bind]
      apply ensures_general rfl
      intro _
      rw [ensures_bind]
      apply ensures_general rfl
      intro scheduled
      exact ends free scheduled _ followed
    · rw [if_neg ok]
      exact fails eError after fun eError => ends free eError after followed

/-! ## System transitions -/

/-- SGX is ready for the second half of a system transition. -/
def SystemReady
    (sgx : Address)
    (eNewSysPowerState : PvrsrvSysPowerState)
    (psSysData : SysData)
    (psDevInfo : SgxDevInfo) : Prop :=
  if isSystemStatePowered eNewSysPowerState ≠
      isSystemStatePowered psSysData.eCurrentPowerState then
    Prepared sgx true 0 (eNewDevicePowerState eNewSysPowerState) psSysData
      psDevInfo
  else Settled sgx psSysData psDevInfo

theorem SystemReady.settled
    {psSysData : SysData}
    {psDevInfo : SgxDevInfo}
    (ready : SystemReady sgx eNewSysPowerState psSysData psDevInfo)
    (notPaused : ¬Paused sgx psSysData psDevInfo) :
    Settled sgx psSysData psDevInfo := by
  rw [SystemReady] at ready
  split at ready
  · exact ready.settled notPaused
  · exact ready

/-- The system's own function leaves SGX alone. -/
theorem ensures_systemCallback
    {callback : PowerCallback}
    (foreign : Foreign sgx callback)
    (answered : ∀ eError,
      (Paused sgx world.shared world.outside → eError = pvrsrvOk) →
        post eError world) :
    (systemCallback callback eNewSysPowerState).Ensures (powerServing sgx)
      world post := by
  rw [systemCallback, ensures_bind, ensures_get]
  split
  · exact ensures_foreign foreign answered
  · exact answered pvrsrvOk fun _ => rfl

/-- The pass of a system transition before it fails with everything as it was,
or makes SGX ready. -/
theorem ensures_systemDevicePass_pre
    (settled : Settled sgx world.shared world.outside)
    (failed : ∀ eError, eError ≠ pvrsrvOk → post eError world)
    (ready : ∀ left,
      SystemReady sgx eNewSysPowerState world.shared left →
        post pvrsrvOk (world.served left)) :
    (systemDevicePass (devicePrePowerState true 0)
      eNewSysPowerState).Ensures (powerServing sgx) world post := by
  rw [systemDevicePass, ensures_bind, ensures_get]
  split
  · next changes =>
    refine ensures_devicePrePowerState settled failed
      fun left prepared => ready left ?_
    rw [SystemReady, if_pos changes]
    exact prepared
  · next keeps =>
    refine ready world.outside ?_
    rw [SystemReady, if_neg keeps]
    exact settled

/-- `PVRSRVSystemPrePowerStateKM` keeps the lock with SGX ready, or fails with
SGX settled. -/
theorem ensures_pvrsrvSystemPrePowerState
    (settled : world.resource = none →
      Settled sgx world.shared world.outside)
    (refused : ∀ eError, eError ≠ pvrsrvOk → post eError world)
    (failed : world.resource = none → ∀ eError after, eError ≠ pvrsrvOk →
      Settled sgx after.shared after.outside → post eError after)
    (ready : world.resource = none → ∀ left,
      SystemReady sgx eNewSysPowerState world.shared left →
        post pvrsrvOk ((world.take kernelId).served left)) :
    (pvrsrvSystemPrePowerState eNewSysPowerState).Ensures (powerServing sgx)
      world post := by
  rw [pvrsrvSystemPrePowerState, ensures_bind]
  apply ensures_pvrsrvPowerLock
  · intro eError unsuccessful
    rw [if_pos unsuccessful]
    exact refused eError unsuccessful
  · intro free
    -- A failure is noted and the lock released.
    have fails : ∀ eError (after : World SysData (BitVec 32) SgxDevInfo),
        eError ≠ pvrsrvOk → Settled sgx after.shared after.outside →
          Program.Ensures (powerServing sgx)
            (if eError = pvrsrvOk then pure eError
              else do
                let _ ← invoke
                  (.setFailedPowerState eNewSysPowerState)
                pvrsrvPowerUnlock kernelId
                pure eError : PowerProgram PvrsrvError) after post := by
      intro eError after unsuccessful isSettled
      rw [if_neg unsuccessful, ensures_bind]
      apply ensures_general rfl
      intro _
      exact failed free eError _ unsuccessful isSettled
    have taken : Settled sgx (world.take kernelId).shared
        (world.take kernelId).outside :=
      settled free
    rw [if_neg (by decide), ensures_bind]
    apply ensures_systemDevicePass_pre taken
    · intro eError unsuccessful
      rw [ensures_bind, unlessError, if_neg unsuccessful]
      exact fails eError _ unsuccessful taken
    · intro left isReady
      rw [ensures_bind, unlessError, if_pos rfl]
      refine ensures_systemCallback (by trivial) fun eError ok => ?_
      by_cases successful : eError = pvrsrvOk
      · rw [if_pos successful, successful]
        exact ready free left isReady
      · exact fails eError _ successful
          (isReady.settled fun paused => successful (ok paused))

/-- What a powered system does at the end leaves SGX alone. -/
theorem ensures_systemDeviceCallbacks
    {ends : World SysData (BitVec 32) SgxDevInfo → Prop}
    (reached : ends world) :
    (systemDeviceCallbacks eNewSysPowerState).Ensures (powerServing sgx)
      world fun _ => ends := by
  rw [systemDeviceCallbacks]
  split
  · rw [ensures_bind]
    apply ensures_general rfl
    intro successful
    split
    · exact reached
    · rw [ensures_bind]
      apply ensures_general rfl
      intro _
      exact reached
  · exact reached

/-- `PVRSRVSystemPostPowerStateKM` releases the lock with SGX settled. -/
theorem ensures_pvrsrvSystemPostPowerState
    (ready :
      SystemReady sgx eNewSysPowerState world.shared world.outside)
    (ends : ∀ eError after, Settled sgx after.shared after.outside →
      post eError after) :
    (pvrsrvSystemPostPowerState eNewSysPowerState).Ensures (powerServing sgx)
      world post := by
  -- What follows the pass over the devices.
  have leaves : ∀ eError (after : World SysData (BitVec 32) SgxDevInfo),
      Settled sgx after.shared after.outside →
        Program.Ensures (powerServing sgx)
          (do
            let eError ← unlessError eError do
              modify fun psSysData =>
                { psSysData with eCurrentPowerState := eNewSysPowerState }
              pure pvrsrvOk
            pvrsrvPowerUnlock kernelId
            systemDeviceCallbacks eNewSysPowerState
            pure eError : PowerProgram PvrsrvError) after post := by
    intro eError after settled
    rw [ensures_bind, unlessError]
    split
    · rw [ensures_bind, Program.ensures_modify, ensures_pure,
        ensures_bind, pvrsrvPowerUnlock, ensures_release,
        ensures_bind]
      exact ensures_systemDeviceCallbacks
        (ends pvrsrvOk _ (settled.congr ⟨rfl, rfl⟩))
    · rw [ensures_pure, ensures_bind, pvrsrvPowerUnlock,
        ensures_release, ensures_bind]
      exact ensures_systemDeviceCallbacks (ends eError _ settled)
  rw [pvrsrvSystemPostPowerState, ensures_bind]
  refine ensures_systemCallback (by trivial) fun eError ok => ?_
  rw [ensures_bind, unlessError]
  by_cases successful : eError = pvrsrvOk
  · rw [if_pos successful, systemDevicePass, ensures_bind, ensures_get]
    rw [SystemReady] at ready
    split at ready
    · next changes =>
      rw [if_pos changes]
      refine ensures_devicePostPowerState ready
        fun eError after followed => leaves eError after followed.settled
    · next keeps =>
      rw [if_neg keeps]
      exact leaves pvrsrvOk world ready
  · rw [if_neg successful]
    exact leaves eError world
      (ready.settled fun paused => successful (ok paused))

/-- `PVRSRVSetPowerStateKM` makes both halves of a system transition. -/
theorem ensures_pvrsrvSetPowerState
    (settled : world.resource = none →
      Settled sgx world.shared world.outside)
    (refused : ∀ eError, post eError world)
    (ends : world.resource = none → ∀ eError after,
      Settled sgx after.shared after.outside → post eError after) :
    (pvrsrvSetPowerState eNewSysPowerState).Ensures (powerServing sgx) world
      post := by
  rw [pvrsrvSetPowerState, ensures_bind]
  apply ensures_pvrsrvSystemPrePowerState settled
  · intro eError unsuccessful
    rw [ensures_bind, unlessError, if_neg unsuccessful,
      ensures_pure, ensures_bind]
    apply ensures_general rfl
    intro _
    exact refused eError
  · intro free eError after unsuccessful isSettled
    rw [ensures_bind, unlessError, if_neg unsuccessful,
      ensures_pure, ensures_bind]
    apply ensures_general rfl
    intro _
    exact ends free eError after isSettled
  · intro free left isReady
    rw [ensures_bind, unlessError, if_pos rfl]
    apply ensures_pvrsrvSystemPostPowerState isReady
    intro eError after isSettled
    rw [ensures_bind]
    apply ensures_general rfl
    intro _
    exact ends free eError after isSettled

/-! ## Changes of the clock speed -/

/-- SGX is idled for a change of the clock speed that is made on it. -/
def ClockReady
    (sgx : Address)
    (ui32DeviceIndex : BitVec 32)
    (psSysData : SysData)
    (psDevInfo : SgxDevInfo) : Prop :=
  if findPowerDevice ui32DeviceIndex psSysData = some sgx ∧
      recorded sgx psSysData = .on then
    Stopped sgx psSysData psDevInfo
  else Settled sgx psSysData psDevInfo

/-- The answers of a run of clock functions. -/
abbrev clockServing (sgx : Address) :
    Serving SysData ClockCallback PvrsrvError SgxDevInfo :=
  sgxServing sgx (Smooth sgx)

theorem ensures_callPower
    {result : Type}
    {program : PowerProgram result}
    {post : result → World SysData (BitVec 32) SgxDevInfo → Prop}
    (ensures : program.Ensures (powerServing sgx) world post) :
    (callPower program).Ensures (clockServing sgx) world post :=
  (Program.ensures_mapCallback ..).mpr ensures

theorem ensures_clockLock
    {bIdleDevice : Bool}
    (unlocked : bIdleDevice = false → post pvrsrvOk world)
    (refused : ∀ eError, eError ≠ pvrsrvOk → post eError world)
    (taken : bIdleDevice = true → world.resource = none →
      post pvrsrvOk (world.take kernelId)) :
    (clockLock bIdleDevice).Ensures (clockServing sgx) world post := by
  cases bIdleDevice with
  | false => exact unlocked rfl
  | true =>
    exact ensures_callPower (ensures_pvrsrvPowerLock refused (taken rfl))

section ClockSpeed

variable {pfnPostClockSpeedChange : Address → Bool} {bIdleDevice : Bool}

/-- A change that does not idle the device prepares nothing. -/
theorem ensures_preClockCallback_running
    (answered : ∀ eError, post eError world) :
    (clockCallback pfnPostClockSpeedChange
      (fun psPowerDevice device =>
        .pfnPreClockSpeedChange psPowerDevice device.hDevCookie false
          device.eCurrentPowerState)
      ui32DeviceIndex).Ensures (clockServing sgx) world post := by
  rw [clockCallback, ensures_bind, ensures_get]
  cases findPowerDevice ui32DeviceIndex world.shared with
  | none => exact answered pvrsrvOk
  | some psPowerDevice =>
    dsimp only
    split
    · rintro eError left ⟨services, -, answers⟩
      rw [sgxAnswers, sgxPreClockSpeedChange] at answers
      split at answers
      · rw [if_neg (by simp), Prod.mk.injEq] at answers
        obtain ⟨-, rfl⟩ := answers
        exact answered eError
      · cases answers
        exact answered eError
    · exact answered pvrsrvOk

/-- A change that idles the device stops the timer of SGX if it is on. -/
theorem ensures_preClockCallback_idling
    (clock : pfnPostClockSpeedChange sgx = true)
    (settled : Settled sgx world.shared world.outside)
    (failed : ∀ eError, eError ≠ pvrsrvOk → post eError world)
    (ready : ∀ left, ClockReady sgx ui32DeviceIndex world.shared left →
      post pvrsrvOk (world.served left)) :
    (clockCallback pfnPostClockSpeedChange
      (fun psPowerDevice device =>
        .pfnPreClockSpeedChange psPowerDevice device.hDevCookie true
          device.eCurrentPowerState)
      ui32DeviceIndex).Ensures (clockServing sgx) world post := by
  -- Nothing changes unless the change is made on SGX while it is on.
  have stays : ¬(findPowerDevice ui32DeviceIndex world.shared = some sgx ∧
      recorded sgx world.shared = .on) → ∀ eError, post eError world := by
    intro notSgx eError
    by_cases ok : eError = pvrsrvOk
    · rw [ok]
      refine ready world.outside ?_
      rw [ClockReady, if_neg notSgx]
      exact settled
    · exact failed eError ok
  rw [clockCallback, ensures_bind, ensures_get]
  cases found : findPowerDevice ui32DeviceIndex world.shared with
  | none => exact stays (by simp [found]) pvrsrvOk
  | some psPowerDevice =>
    dsimp only
    by_cases isSgx : psPowerDevice = sgx
    · rw [isSgx, if_pos clock]
      rintro eError left ⟨services, smooth, answers⟩
      have prepares := (if_pos rfl).mp answers
      rw [sgxPreClockSpeedChange] at prepares
      by_cases on :
          (world.shared.psPowerDevice sgx).eCurrentPowerState = .on
      · have leaves : PvrsrvDevPowerState.idle ≠ .on := by decide
        obtain ⟨stopped, prepared, orderly, inactive⟩ :=
          sgxPrePowerState_leaves settled.orderly
            (settled.follows.mpr on) leaves (smooth rfl on rfl)
            fun isOff => nomatch isOff
        rw [if_pos ⟨on, rfl⟩, prepared, Prod.mk.injEq] at prepares
        obtain ⟨rfl, rfl⟩ := prepares
        refine ready stopped ?_
        rw [ClockReady, if_pos ⟨by rw [found, isSgx], on⟩]
        exact ⟨settled.registered, orderly, on, inactive⟩
      · rw [if_neg fun idles => on idles.1] at prepares
        cases prepares
        exact stays (fun idles => on idles.2) pvrsrvOk
    · have notSgx : ¬(findPowerDevice ui32DeviceIndex world.shared =
          some sgx ∧ recorded sgx world.shared = .on) := by
        rintro ⟨same, -⟩
        rw [found] at same
        exact isSgx (Option.some.inj same)
      split
      · rintro eError left ⟨services, -, answers⟩
        obtain rfl := (if_neg isSgx).mp answers
        exact stays notSgx eError
      · exact stays notSgx pvrsrvOk

/-- A change that does not idle the device leaves the timer alone. -/
theorem ensures_preClockSpeedChange_running
    (answered : ∀ eError, post eError world) :
    (pvrsrvDevicePreClockSpeedChange pfnPostClockSpeedChange ui32DeviceIndex
      false).Ensures (clockServing sgx) world post := by
  rw [pvrsrvDevicePreClockSpeedChange, ensures_bind]
  apply ensures_clockLock
  · intro _
    rw [if_neg (by decide), ensures_bind]
    apply ensures_preClockCallback_running
    intro eError
    rw [ensures_bind]
    exact ensures_callPower (answered eError)
  · intro eError unsuccessful
    rw [if_pos unsuccessful]
    exact answered eError
  · intro idles
    cases idles

/-- `PVRSRVDevicePreClockSpeedChange` keeps the lock with SGX idled, or changes
nothing. -/
theorem ensures_preClockSpeedChange_idling
    (clock : pfnPostClockSpeedChange sgx = true)
    (settled : world.resource = none →
      Settled sgx world.shared world.outside)
    (failed : ∀ eError, eError ≠ pvrsrvOk → post eError world)
    (ready : world.resource = none → ∀ left,
      ClockReady sgx ui32DeviceIndex world.shared left →
        post pvrsrvOk ((world.take kernelId).served left)) :
    (pvrsrvDevicePreClockSpeedChange pfnPostClockSpeedChange ui32DeviceIndex
      true).Ensures (clockServing sgx) world post := by
  rw [pvrsrvDevicePreClockSpeedChange, ensures_bind]
  apply ensures_clockLock
  · intro running
    cases running
  · intro eError unsuccessful
    rw [if_pos unsuccessful]
    exact failed eError unsuccessful
  · intro _ free
    have taken : Settled sgx (world.take kernelId).shared
        (world.take kernelId).outside :=
      settled free
    rw [if_neg (by decide), ensures_bind]
    apply ensures_preClockCallback_idling clock taken
    · intro eError unsuccessful
      rw [ensures_bind]
      apply ensures_callPower
      rw [powerUnlockIf, if_pos (by simpa using unsuccessful),
        pvrsrvPowerUnlock, ensures_release, ensures_pure,
        drop_take free]
      exact failed eError unsuccessful
    · intro left isReady
      rw [ensures_bind]
      apply ensures_callPower
      exact ready free left isReady

/-- SGX goes on after a change of the clock speed. -/
theorem sgxPostPowerState_resumes
    {psDevInfo : SgxDevInfo}
    {services : SgxServices}
    (orderly : Orderly psDevInfo)
    (stopped : psDevInfo.bActive = some false)
    (scheduled : services.sgxScheduleCCBCommand = pvrsrvOk) :
    ∃ left,
      sgxPostPowerState services .on .idle psDevInfo = (pvrsrvOk, left) ∧
        Orderly left ∧ Active left := by
  refine ⟨sgxStartTimer psDevInfo, ?_, osEnableTimer_spec orderly stopped⟩
  rw [sgxPostPowerState, if_pos (by decide), if_neg (by decide),
    if_neg (not_not_intro scheduled)]

/-- A change that does not idle the device is not made on SGX while it is
on. -/
theorem ensures_postClockSpeedChange_running
    (answered : ∀ eError, post eError world) :
    (pvrsrvDevicePostClockSpeedChange pfnPostClockSpeedChange ui32DeviceIndex
      false).Ensures (clockServing sgx) world post := by
  have unlocks : ∀ eError : PvrsrvError, Program.Ensures (clockServing sgx)
      (do
        callPower (powerUnlockIf false kernelId)
        pure eError : ClockProgram PvrsrvError) world post := by
    intro eError
    rw [ensures_bind]
    exact ensures_callPower (answered eError)
  rw [pvrsrvDevicePostClockSpeedChange, ensures_bind, clockCallback,
    ensures_bind, ensures_get]
  cases findPowerDevice ui32DeviceIndex world.shared with
  | none => exact unlocks pvrsrvOk
  | some psPowerDevice =>
    dsimp only
    split
    · rintro eError left ⟨services, smooth, answers⟩
      by_cases isSgx : psPowerDevice = sgx
      · rw [isSgx] at answers smooth
        have follows := (if_pos rfl).mp answers
        have notOn : ¬(world.shared.psPowerDevice
            sgx).eCurrentPowerState = .on := by
          intro on
          cases (smooth rfl on).1
        rw [sgxPostClockSpeedChange, if_neg notOn] at follows
        cases follows
        exact unlocks pvrsrvOk
      · obtain rfl := (if_neg isSgx).mp answers
        exact unlocks pvrsrvOk
    · exact unlocks pvrsrvOk

/-- `PVRSRVDevicePostClockSpeedChange` starts the timer of SGX again. -/
theorem ensures_postClockSpeedChange_idling
    (clock : pfnPostClockSpeedChange sgx = true)
    (ready : ClockReady sgx ui32DeviceIndex world.shared world.outside)
    (ends : ∀ eError after, Settled sgx after.shared after.outside →
      post eError after) :
    (pvrsrvDevicePostClockSpeedChange pfnPostClockSpeedChange ui32DeviceIndex
      true).Ensures (clockServing sgx) world post := by
  have unlocks : ∀ after : World SysData (BitVec 32) SgxDevInfo,
      Settled sgx after.shared after.outside →
        Program.Ensures (clockServing sgx)
          (do
            callPower (powerUnlockIf true kernelId)
            pure pvrsrvOk : ClockProgram PvrsrvError) after post := by
    intro after settled
    rw [ensures_bind]
    exact ensures_callPower (ends pvrsrvOk _ settled)
  have stays : ¬(findPowerDevice ui32DeviceIndex world.shared = some sgx ∧
      recorded sgx world.shared = .on) →
        Settled sgx world.shared world.outside := by
    intro notSgx
    rw [ClockReady, if_neg notSgx] at ready
    exact ready
  rw [pvrsrvDevicePostClockSpeedChange, ensures_bind, clockCallback,
    ensures_bind, ensures_get]
  cases found : findPowerDevice ui32DeviceIndex world.shared with
  | none => exact unlocks world (stays (by simp [found]))
  | some psPowerDevice =>
    dsimp only
    by_cases isSgx : psPowerDevice = sgx
    · rw [isSgx, if_pos clock]
      rintro eError left ⟨services, smooth, answers⟩
      have follows := (if_pos rfl).mp answers
      rw [sgxPostClockSpeedChange] at follows
      by_cases on :
          (world.shared.psPowerDevice sgx).eCurrentPowerState = .on
      · rw [ClockReady, if_pos ⟨by rw [found, isSgx], on⟩] at ready
        obtain ⟨updated, timing, updatedOrderly, updatedStopped⟩ :=
          sgxUpdateTimingInfo_stopped services ready.orderly ready.stopped
        obtain ⟨resumed, posted, orderly, active⟩ :=
          sgxPostPowerState_resumes updatedOrderly updatedStopped
            (smooth rfl on).2
        rw [if_pos on, timing] at follows
        dsimp only at follows
        rw [if_neg (by decide), if_pos rfl, posted, Prod.mk.injEq]
          at follows
        obtain ⟨rfl, rfl⟩ := follows
        have hasTimer : resumed.hTimer ≠ none := by
          intro noTimer
          rw [Active, bActive_eq_none.mpr noTimer] at active
          cases active
        exact unlocks _ ⟨ready.registered, orderly, fun _ => hasTimer,
          iff_of_true active on⟩
      · rw [if_neg on] at follows
        cases follows
        exact unlocks world (stays fun idles => on idles.2)
    · have notSgx : ¬(findPowerDevice ui32DeviceIndex world.shared =
          some sgx ∧ recorded sgx world.shared = .on) := by
        rintro ⟨same, -⟩
        rw [found] at same
        exact isSgx (Option.some.inj same)
      split
      · rintro eError left ⟨services, -, answers⟩
        obtain rfl := (if_neg isSgx).mp answers
        exact unlocks world (stays notSgx)
      · exact unlocks world (stays notSgx)

end ClockSpeed

end Calls

/-! ## Runs -/

/-- What every call keeps. -/
def Invariant (sgx : Address) (system : TimerSystem) : Prop :=
  match system.pending with
  | none => Settled sgx system.world.shared system.world.outside
  | some (.clockChange ui32DeviceIndex) =>
    system.world.resource = some kernelId ∧
      ClockReady sgx ui32DeviceIndex system.world.shared system.world.outside
  | some (.systemTransition eNewSysPowerState) =>
    system.world.resource = some kernelId ∧
      SystemReady sgx eNewSysPowerState system.world.shared
        system.world.outside

section Runs

variable {sgx : Address} {pfnPostClockSpeedChange : Address → Bool}
  {system : TimerSystem}

theorem Initial.invariant
    (initial : Initial sgx pfnPostClockSpeedChange system) :
    Invariant sgx system := by
  rw [Invariant, initial.idle]
  refine ⟨⟨initial.listed, initial.once, initial.prePower,
    initial.postPower, initial.default⟩, ⟨?_, ?_⟩, ?_, ?_⟩
  · rw [initial.unused]
    simp
  · rw [initial.noTimer]
    simp
  · exact fun notOff => absurd initial.current notOff
  · refine iff_of_false ?_ ?_
    · simp [Active, SgxDevInfo.bActive, initial.noTimer]
    · rw [recorded, initial.current]
      simp

/-- With the lock free nothing is in progress. -/
theorem Invariant.free
    (invariant : Invariant sgx system)
    (free : system.world.resource = none) :
    system.pending = none ∧
      Settled sgx system.world.shared system.world.outside := by
  rw [Invariant] at invariant
  split at invariant
  · next idle => exact ⟨idle, invariant⟩
  · rw [free] at invariant
    cases invariant.1
  · rw [free] at invariant
    cases invariant.1

theorem Invariant.sound (invariant : Invariant sgx system) :
    Sound sgx system := by
  rw [Invariant] at invariant
  split at invariant
  · exact ⟨invariant.orderly.uses, fun _ => invariant.follows⟩
  · next clock =>
    refine ⟨?_, fun idle => by rw [idle] at clock; cases clock⟩
    rw [ClockReady] at invariant
    split at invariant
    · exact invariant.2.orderly.uses
    · exact invariant.2.orderly.uses
  · next transition =>
    refine ⟨?_, fun idle => by rw [idle] at transition; cases transition⟩
    rw [SystemReady] at invariant
    split at invariant
    · exact invariant.2.registered.2.uses
    · exact invariant.2.orderly.uses

/-- Every power function keeps the invariant. -/
theorem power_keeps
    {call : PowerCall}
    (invariant : Invariant sgx system)
    (mayFollow : (TimerCall.power call).MayFollow system) :
    call.body.Ensures (powerServing sgx) system.world fun eError after =>
      Invariant sgx
        ⟨after, (TimerCall.power call).pendingAfter system.pending eError⟩ := by
  have settled := fun free => (invariant.free free).2
  -- A call that changes only what is under the lock.
  have ends : system.world.resource = none →
      ∀ after : World SysData (BitVec 32) SgxDevInfo,
        Settled sgx after.shared after.outside →
          Invariant sgx ⟨after, system.pending⟩ := by
    intro free after followed
    rw [(invariant.free free).1]
    exact followed
  cases call with
  | powerLock ui32CallerID bSystemPowerEvent =>
    exact ensures_pvrsrvPowerLock (fun _ _ => invariant)
      fun free => ends free _ (settled free)
  | powerUnlock ui32CallerID =>
    obtain ⟨idle, -⟩ := mayFollow
    rw [Invariant, idle] at invariant
    rw [idle]
    exact invariant
  | setDevicePowerState ui32DeviceIndex eNewPowerState ui32CallerID
      bRetainMutex =>
    exact ensures_pvrsrvSetDevicePowerState (fun _ _ => invariant) settled
      fun free _ => ends free
  | systemPrePowerState eNewSysPowerState =>
    apply ensures_pvrsrvSystemPrePowerState settled
    · intro eError unsuccessful
      rw [pendingAfter, if_neg unsuccessful]
      exact invariant
    · intro free eError after unsuccessful followed
      rw [pendingAfter, if_neg unsuccessful]
      exact ends free after followed
    · intro free left ready
      rw [pendingAfter, if_pos rfl]
      exact ⟨rfl, ready⟩
  | systemPostPowerState eNewSysPowerState =>
    rw [Invariant, mayFollow] at invariant
    exact ensures_pvrsrvSystemPostPowerState invariant.2
      fun _ _ followed => followed
  | setPowerState eNewSysPowerState =>
    exact ensures_pvrsrvSetPowerState settled (fun _ => invariant)
      fun free _ => ends free
  | sgxScheduleCCBCommand ui32DeviceIndex ui32CallerID arguments =>
    exact ensures_sgxScheduleCCBCommandKM settled (fun _ => invariant)
      fun free _ => ends free

/-- Every clock function keeps the invariant. -/
theorem call_keeps
    {call : TimerCall}
    (clock : pfnPostClockSpeedChange sgx = true)
    (invariant : Invariant sgx system)
    (mayFollow : call.MayFollow system) :
    (call.body pfnPostClockSpeedChange).Ensures (clockServing sgx)
      system.world fun eError after =>
        Invariant sgx ⟨after, call.pendingAfter system.pending eError⟩ := by
  cases call with
  | power call => exact ensures_callPower (power_keeps invariant mayFollow)
  | preClockSpeedChange ui32DeviceIndex bIdleDevice =>
    cases bIdleDevice with
    | false => exact ensures_preClockSpeedChange_running fun _ => invariant
    | true =>
      apply ensures_preClockSpeedChange_idling clock
        fun free => (invariant.free free).2
      · intro eError unsuccessful
        rw [pendingAfter, if_neg unsuccessful]
        exact invariant
      · intro free left ready
        rw [pendingAfter, if_pos rfl]
        exact ⟨rfl, ready⟩
  | postClockSpeedChange ui32DeviceIndex bIdleDevice =>
    cases bIdleDevice with
    | false => exact ensures_postClockSpeedChange_running fun _ => invariant
    | true =>
      rw [Invariant, mayFollow] at invariant
      exact ensures_postClockSpeedChange_idling clock invariant.2
        fun _ _ followed => followed

theorem Reached.invariant
    (reached : Reached sgx pfnPostClockSpeedChange (Smooth sgx) system) :
    pfnPostClockSpeedChange sgx = true ∧ Invariant sgx system := by
  induction reached with
  | initial initial => exact ⟨initial.clock, initial.invariant⟩
  | call _ mayFollow runs ih =>
    obtain ⟨clock, invariant⟩ := ih
    exact ⟨clock, runs.ensured (call_keeps clock invariant mayFollow)⟩

/-- In every run whose steps are smooth the timer is used rightly and is
active just when SGX is recorded as on and nothing is in progress. -/
theorem timer_follows
    (sgx : Address)
    (pfnPostClockSpeedChange : Address → Bool)
    (system : TimerSystem)
    (reached : Reached sgx pfnPostClockSpeedChange (Smooth sgx) system) :
    Sound sgx system :=
  reached.invariant.2.sound

end Runs

/-! ## A device that is switched on -/

/-- Everything below SGX succeeds. -/
def willing : SgxServices := ⟨200, 100000, pvrsrvOk, pvrsrvOk, pvrsrvOk⟩

/-- The answers to a transition that switches SGX on. -/
def serveArrival
    (callback : ClockCallback) (_ : SysData) (psDevInfo : SgxDevInfo) :
    Option (PvrsrvError × SgxDevInfo) :=
  match callback with
  | .power (.pfnPrePower 0 _ _ .on eCurrent) =>
    some (sgxPrePowerState willing .on eCurrent psDevInfo)
  | .power (.pfnPostPower 0 _ _ .on eCurrent) =>
    some (sgxPostPowerState willing .on eCurrent psDevInfo)
  | .power (.sysDevicePrePowerState _ _ _ _) => some (pvrsrvOk, psDevInfo)
  | .power (.sysDevicePostPowerState _ _ _ _) => some (pvrsrvOk, psDevInfo)
  | _ => none

theorem serveArrival_smooth
    (callback : ClockCallback)
    (psSysData : SysData)
    (psDevInfo : SgxDevInfo)
    (eError : PvrsrvError)
    (left : SgxDevInfo)
    (served : serveArrival callback psSysData psDevInfo =
      some (eError, left)) :
    sgxServing 0 (Smooth 0) callback psSysData psDevInfo eError left := by
  refine ⟨willing, ?_⟩
  unfold serveArrival at served
  split at served
  · exact ⟨by simp [Smooth], Option.some.inj served⟩
  · exact ⟨by simp [Smooth], Option.some.inj served⟩
  · cases served
    exact ⟨fun _ => rfl, rfl⟩
  · cases served
    exact ⟨fun _ => rfl, rfl⟩
  · cases served

/-- SGX is the only power device, and is off. -/
def offSystem : TimerSystem where
  world :=
    { resource := none
      shared :=
        { eCurrentPowerState := .d0
          psPowerDeviceList := [0]
          psPowerDevice := fun _ => ⟨some 1, some 2, 0, 7, .off, .off⟩
          progress := fun _ => ⟨.off, .settled⟩ }
      outside := ⟨none, 0, 0, fun _ => ⟨false, false⟩, []⟩ }
  pending := none

theorem offSystem_initial : Initial 0 (fun _ => true) offSystem where
  listed := by decide
  once := by decide
  prePower := rfl
  postPower := rfl
  clock := rfl
  default := rfl
  current := rfl
  noTimer := rfl
  unused := rfl
  free := rfl
  idle := rfl

/-- The request that switches SGX on. -/
def switchOn : TimerCall :=
  .power (.setDevicePowerState 7 .on kernelId false)

/-- The result of the request. -/
def switchedOn :
    PvrsrvError × World SysData (BitVec 32) SgxDevInfo :=
  ((switchOn.body fun _ => true).follow serveArrival offSystem.world).getD
    (1, offSystem.world)

theorem switchOn_runs :
    (switchOn.body fun _ => true).follow serveArrival offSystem.world =
      some switchedOn :=
  rfl

/-- SGX is on. -/
def onSystem : TimerSystem := ⟨switchedOn.2, none⟩

theorem onSystem_reached
    (allows : StepCondition)
    (smooth : ∀ callback psSysData psDevInfo services eError,
      Smooth 0 callback psSysData psDevInfo services eError →
        allows callback psSysData psDevInfo services eError) :
    Reached 0 (fun _ => true) allows onSystem := by
  have mayFollow : switchOn.MayFollow offSystem := trivial
  refine .call (.initial offSystem_initial) mayFollow
    (Program.runs_of_follow ?_ switchOn_runs)
  intro callback psSysData psDevInfo eError left served
  obtain ⟨services, isSmooth, answers⟩ :=
    serveArrival_smooth callback psSysData psDevInfo eError left served
  exact ⟨services, smooth _ _ _ _ _ isSmooth, answers⟩

theorem timer_follows_on :
    Active onSystem.world.outside ∧ Sound 0 onSystem :=
  ⟨rfl, timer_follows 0 (fun _ => true) onSystem
    (onSystem_reached _ fun _ _ _ _ _ smooth => smooth)⟩

/-- The end of a change of the clock speed that did not idle SGX. -/
def clockChanged : TimerCall := .postClockSpeedChange 7 false

/-- The timer as the change leaves it. -/
def startedTwice : SgxDevInfo :=
  (sgxPostClockSpeedChange willing false .on onSystem.world.outside).2

theorem clockChanged_runs :
    Program.Runs (sgxServing 0 fun _ _ _ _ _ => True)
      (clockChanged.body fun _ => true) onSystem.world pvrsrvOk
        (onSystem.world.served startedTwice) :=
  .read (.call ⟨willing, trivial, rfl⟩ .done)

/-- A change of the clock speed that does not idle SGX starts the timer that is
already active. -/
theorem timer_misused :
    ¬∀ sgx pfnPostClockSpeedChange system,
      Reached sgx pfnPostClockSpeedChange (fun _ _ _ _ _ => True) system →
        Sound sgx system := by
  intro allSound
  have mayFollow : clockChanged.MayFollow onSystem := trivial
  have reached : Reached 0 (fun _ => true) (fun _ _ _ _ _ => True)
      ⟨onSystem.world.served startedTwice, none⟩ :=
    .call (onSystem_reached _ fun _ _ _ _ _ _ => trivial) mayFollow
      clockChanged_runs
  have right := (allSound _ _ _ reached).uses ⟨.enable, some true⟩ (by decide)
  cases right

end PvrServices.Power.RecoveryTimer
