import PvrServices.Lib.SequentialCalls
import PvrServices.Power.LockBalance

/-!
# The hardware recovery timer

SGX looks for lockups from a timer that runs while the device is on.  Its
power callbacks start and stop the timer, and a change of the clock speed may
idle the device for a while or give it another timer.
-/

namespace PvrServices.Power.RecoveryTimer

open LockedCalls
open Resman (PvrsrvError pvrsrvOk pvrsrvErrorOutOfMemory)

/-! ## Timers -/

/-- `OS_MAX_TIMERS`. -/
def osMaxTimers : Nat := 8

/-- The flags of a `TIMER_CALLBACK_DATA`. -/
structure TimerCallbackData where
  bInUse : Bool
  bActive : Bool
deriving DecidableEq, Repr

/-- What is done to a timer that is there. -/
inductive TimerOperation
  | enable
  | disable
  | remove
deriving DecidableEq, Repr

/-- One use of the timer of the device, with the state it was found in; a use
without a timer has none. -/
structure TimerUse where
  operation : TimerOperation
  bActive : Option Bool
deriving DecidableEq, Repr

/-- What the timer functions assert: a timer is active when it is disabled, and
inactive when it is enabled or removed. -/
def TimerUse.Right (use : TimerUse) : Prop :=
  match use.operation with
  | .disable => use.bActive = some true
  | .enable | .remove => use.bActive = some false

/-- The part of `PVRSRV_SGXDEV_INFO` that has to do with the timer, the timers
of the system, and how the device has used its timer. -/
structure SgxDevInfo where
  hTimer : Option Nat
  ui32CoreClockSpeed : BitVec 32
  ui32uKernelTimerClock : BitVec 32
  sTimers : Nat → TimerCallbackData
  uses : List TimerUse

namespace SgxDevInfo

/-- Whether the timer of the device is active, if there is one. -/
def bActive (psDevInfo : SgxDevInfo) : Option Bool :=
  psDevInfo.hTimer.map fun hTimer => (psDevInfo.sTimers hTimer).bActive

/-- Uses the timer of the device. -/
def useTimer
    (operation : TimerOperation)
    (change : TimerCallbackData → TimerCallbackData)
    (psDevInfo : SgxDevInfo) : SgxDevInfo :=
  { psDevInfo with
    sTimers :=
      match psDevInfo.hTimer with
      | none => psDevInfo.sTimers
      | some hTimer =>
        Function.update psDevInfo.sTimers hTimer
          (change (psDevInfo.sTimers hTimer))
    uses := psDevInfo.uses ++ [⟨operation, psDevInfo.bActive⟩] }

end SgxDevInfo

/-- `OSRemoveTimer`. -/
def osRemoveTimer (psDevInfo : SgxDevInfo) : SgxDevInfo :=
  psDevInfo.useTimer .remove fun psTimerCBData =>
    { psTimerCBData with bInUse := false }

/-- `OSEnableTimer`. -/
def osEnableTimer (psDevInfo : SgxDevInfo) : SgxDevInfo :=
  psDevInfo.useTimer .enable fun psTimerCBData =>
    { psTimerCBData with bActive := true }

/-- `OSDisableTimer`. -/
def osDisableTimer (psDevInfo : SgxDevInfo) : SgxDevInfo :=
  psDevInfo.useTimer .disable fun psTimerCBData =>
    { psTimerCBData with bActive := false }

/-- `OSAddTimer`: the first timer that is not in use. -/
def osAddTimer (psDevInfo : SgxDevInfo) : Option Nat × SgxDevInfo :=
  match (List.range osMaxTimers).find? fun ui32i =>
      !(psDevInfo.sTimers ui32i).bInUse with
  | none => (none, psDevInfo)
  | some ui32i =>
    (some ui32i, { psDevInfo with
      sTimers := Function.update psDevInfo.sTimers ui32i ⟨true, false⟩ })

/-! ## Callbacks of the device -/

/-- What the code below the callbacks answers. -/
structure SgxServices where
  ui32uKernelFreq : BitVec 32
  ui32CoreClockSpeed : BitVec 32
  sgxScheduleCCBCommand : PvrsrvError
  sgxInitialise : PvrsrvError
  sgxDeinitialise : PvrsrvError
deriving DecidableEq, Repr

/-- The end of `SGXUpdateTimingInfo`. -/
def SgxDevInfo.updateClock
    (psDevInfo : SgxDevInfo) (services : SgxServices) : SgxDevInfo :=
  { psDevInfo with
    ui32CoreClockSpeed := services.ui32CoreClockSpeed
    ui32uKernelTimerClock :=
      services.ui32CoreClockSpeed / services.ui32uKernelFreq }

/-- `SGXUpdateTimingInfo`. -/
def sgxUpdateTimingInfo (services : SgxServices) (psDevInfo : SgxDevInfo) :
    PvrsrvError × SgxDevInfo :=
  match psDevInfo.hTimer with
  | some _ =>
    if psDevInfo.ui32CoreClockSpeed / psDevInfo.ui32uKernelTimerClock ≠
        services.ui32uKernelFreq then
      match osAddTimer psDevInfo with
      | (none, psDevInfo) => (pvrsrvOk, psDevInfo.updateClock services)
      | (some hNewTimer, psDevInfo) =>
        (pvrsrvOk, ({ osRemoveTimer psDevInfo with
          hTimer := some hNewTimer } : SgxDevInfo).updateClock services)
    else (pvrsrvOk, psDevInfo.updateClock services)
  | none =>
    match osAddTimer psDevInfo with
    | (none, psDevInfo) => (pvrsrvErrorOutOfMemory, psDevInfo)
    | (some hTimer, psDevInfo) =>
      (pvrsrvOk, ({ psDevInfo with
        hTimer := some hTimer } : SgxDevInfo).updateClock services)

/-- `SGXStartTimer`. -/
def sgxStartTimer (psDevInfo : SgxDevInfo) : SgxDevInfo :=
  osEnableTimer psDevInfo

section

variable (services : SgxServices)
  (eNewPowerState eCurrentPowerState : PvrsrvDevPowerState)

/-- `SGXPrePowerState`. -/
def sgxPrePowerState
    (psDevInfo : SgxDevInfo) :
    PvrsrvError × SgxDevInfo :=
  if eNewPowerState ≠ eCurrentPowerState ∧ eNewPowerState ≠ .on then
    let psDevInfo := osDisableTimer psDevInfo
    if services.sgxScheduleCCBCommand ≠ pvrsrvOk then
      (services.sgxScheduleCCBCommand, psDevInfo)
    else if eNewPowerState = .off then
      (services.sgxDeinitialise, psDevInfo)
    else (pvrsrvOk, psDevInfo)
  else (pvrsrvOk, psDevInfo)

/-- `SGXPostPowerState`. -/
def sgxPostPowerState
    (psDevInfo : SgxDevInfo) :
    PvrsrvError × SgxDevInfo :=
  if eNewPowerState ≠ eCurrentPowerState ∧ eCurrentPowerState ≠ .on then
    if eCurrentPowerState = .off then
      let (eError, psDevInfo) := sgxUpdateTimingInfo services psDevInfo
      if eError ≠ pvrsrvOk then (eError, psDevInfo)
      else if services.sgxInitialise ≠ pvrsrvOk then
        (services.sgxInitialise, psDevInfo)
      else (pvrsrvOk, sgxStartTimer psDevInfo)
    else if services.sgxScheduleCCBCommand ≠ pvrsrvOk then
      (services.sgxScheduleCCBCommand, psDevInfo)
    else (pvrsrvOk, sgxStartTimer psDevInfo)
  else (pvrsrvOk, psDevInfo)

end

section

variable (services : SgxServices) (bIdleDevice : Bool)
  (eCurrentPowerState : PvrsrvDevPowerState)

/-- `SGXPreClockSpeedChange`. -/
def sgxPreClockSpeedChange
    (psDevInfo : SgxDevInfo) :
    PvrsrvError × SgxDevInfo :=
  if eCurrentPowerState = .on ∧ bIdleDevice then
    sgxPrePowerState services .idle .on psDevInfo
  else (pvrsrvOk, psDevInfo)

/-- `SGXPostClockSpeedChange`. -/
def sgxPostClockSpeedChange
    (psDevInfo : SgxDevInfo) :
    PvrsrvError × SgxDevInfo :=
  if eCurrentPowerState = .on then
    let (eError, psDevInfo) := sgxUpdateTimingInfo services psDevInfo
    if eError ≠ pvrsrvOk then (eError, psDevInfo)
    else if bIdleDevice then
      sgxPostPowerState services .on .idle psDevInfo
    else (pvrsrvOk, sgxStartTimer psDevInfo)
  else (pvrsrvOk, psDevInfo)

end

/-! ## Changing the clock speed -/

/-- What the power functions and the clock functions call. -/
inductive ClockCallback
  | power (callback : PowerCallback)
  | pfnPreClockSpeedChange (psPowerDevice : Address) (hDevCookie : BitVec 64)
      (bIdleDevice : Bool) (eCurrentPowerState : PvrsrvDevPowerState)
  | pfnPostClockSpeedChange (psPowerDevice : Address) (hDevCookie : BitVec 64)
      (bIdleDevice : Bool) (eCurrentPowerState : PvrsrvDevPowerState)
deriving DecidableEq, Repr

/-- A power function or a clock function with its result. -/
abbrev ClockProgram :=
  Program SysData (BitVec 32) ClockCallback (BitVec 32)

/-- The call of a power function. -/
def callPower {result : Type} (program : PowerProgram result) :
    ClockProgram result :=
  program.mapCallback .power

/-- `List_PVRSRV_POWER_DEV_Any_va` with `MatchPowerDeviceIndex_AnyVaCb`. -/
def findPowerDevice
    (ui32DeviceIndex : BitVec 32) (psSysData : SysData) : Option Address :=
  psSysData.psPowerDeviceList.find? fun psPowerDevice =>
    ui32DeviceIndex == (psSysData.psPowerDevice psPowerDevice).ui32DeviceIndex

section ClockSpeed

-- Both functions ask whether a device has `pfnPostClockSpeedChange`.
variable (pfnPostClockSpeedChange : Address → Bool)

/-- The callback of the device of an index, if both are there. -/
def clockCallback
    (callback : Address → PvrsrvPowerDev → ClockCallback)
    (ui32DeviceIndex : BitVec 32) :
    ClockProgram PvrsrvError := do
  let psSysData ← Program.get
  match findPowerDevice ui32DeviceIndex psSysData with
  | none => pure pvrsrvOk
  | some psPowerDevice =>
    if pfnPostClockSpeedChange psPowerDevice then
      Program.invoke
        (callback psPowerDevice (psSysData.psPowerDevice psPowerDevice))
    else pure pvrsrvOk

/-- The lock of a change that idles the device. -/
def clockLock (bIdleDevice : Bool) : ClockProgram PvrsrvError :=
  if bIdleDevice then callPower (pvrsrvPowerLock kernelId false)
  else pure pvrsrvOk

/-- `PVRSRVDevicePreClockSpeedChange`. -/
def pvrsrvDevicePreClockSpeedChange
    (ui32DeviceIndex : BitVec 32) (bIdleDevice : Bool) :
    ClockProgram PvrsrvError := do
  let eError ← clockLock bIdleDevice
  if eError ≠ pvrsrvOk then pure eError
  else
    let eError ← clockCallback pfnPostClockSpeedChange
      (fun psPowerDevice device =>
        .pfnPreClockSpeedChange psPowerDevice device.hDevCookie bIdleDevice
          device.eCurrentPowerState)
      ui32DeviceIndex
    callPower (powerUnlockIf (bIdleDevice && eError != pvrsrvOk) kernelId)
    pure eError

/-- `PVRSRVDevicePostClockSpeedChange`, which has no result. -/
def pvrsrvDevicePostClockSpeedChange
    (ui32DeviceIndex : BitVec 32) (bIdleDevice : Bool) :
    ClockProgram PvrsrvError := do
  let _ ← clockCallback pfnPostClockSpeedChange
    (fun psPowerDevice device =>
      .pfnPostClockSpeedChange psPowerDevice device.hDevCookie bIdleDevice
        device.eCurrentPowerState)
    ui32DeviceIndex
  callPower (powerUnlockIf bIdleDevice kernelId)
  pure pvrsrvOk

end ClockSpeed

/-! ## Calls and runs -/

/-- How a callback is answered, with what the code below SGX answers: only the
callbacks of SGX have to do with its timer. -/
def sgxAnswers
    (sgx : Address)
    (callback : ClockCallback)
    (services : SgxServices)
    (psDevInfo : SgxDevInfo)
    (eError : PvrsrvError)
    (left : SgxDevInfo) : Prop :=
  match callback with
  | .power (.pfnPrePower psPowerDevice _ _ eNew eCurrent) =>
    if psPowerDevice = sgx then
      sgxPrePowerState services eNew eCurrent psDevInfo = (eError, left)
    else left = psDevInfo
  | .power (.pfnPostPower psPowerDevice _ _ eNew eCurrent) =>
    if psPowerDevice = sgx then
      sgxPostPowerState services eNew eCurrent psDevInfo = (eError, left)
    else left = psDevInfo
  | .power _ => left = psDevInfo
  | .pfnPreClockSpeedChange psPowerDevice _ bIdleDevice eCurrent =>
    if psPowerDevice = sgx then
      sgxPreClockSpeedChange services bIdleDevice eCurrent psDevInfo =
        (eError, left)
    else left = psDevInfo
  | .pfnPostClockSpeedChange psPowerDevice _ bIdleDevice eCurrent =>
    if psPowerDevice = sgx then
      sgxPostClockSpeedChange services bIdleDevice eCurrent psDevInfo =
        (eError, left)
    else left = psDevInfo

/-- What a step may be: the callback, the records and the timer before it, what
the code below SGX answers, and the error of the callback. -/
abbrev StepCondition :=
  ClockCallback → SysData → SgxDevInfo → SgxServices → PvrsrvError → Prop

/-- The answers that a condition allows. -/
def sgxServing (sgx : Address) (allows : StepCondition) :
    Serving SysData ClockCallback PvrsrvError SgxDevInfo :=
  fun callback psSysData psDevInfo eError left =>
    ∃ services, allows callback psSysData psDevInfo services eError ∧
      sgxAnswers sgx callback services psDevInfo eError left

/-- What is in progress between two calls. -/
inductive Pending
  | clockChange (ui32DeviceIndex : BitVec 32)
  | systemTransition (eNewSysPowerState : PvrsrvSysPowerState)
deriving DecidableEq, Repr

/-- The power devices, the timer and what is in progress.  A clock change that
does not idle the device takes no lock and is not noted. -/
structure TimerSystem where
  world : World SysData (BitVec 32) SgxDevInfo
  pending : Option Pending

/-- A call of a power function or a clock function. -/
inductive TimerCall
  | power (call : PowerCall)
  | preClockSpeedChange (ui32DeviceIndex : BitVec 32) (bIdleDevice : Bool)
  | postClockSpeedChange (ui32DeviceIndex : BitVec 32) (bIdleDevice : Bool)
deriving DecidableEq, Repr

namespace TimerCall

/-- The function that is called. -/
def body (pfnPostClockSpeedChange : Address → Bool) :
    TimerCall → ClockProgram PvrsrvError
  | power call => callPower call.body
  | preClockSpeedChange ui32DeviceIndex bIdleDevice =>
    pvrsrvDevicePreClockSpeedChange pfnPostClockSpeedChange ui32DeviceIndex
      bIdleDevice
  | postClockSpeedChange ui32DeviceIndex bIdleDevice =>
    pvrsrvDevicePostClockSpeedChange pfnPostClockSpeedChange ui32DeviceIndex
      bIdleDevice

/-- A second half follows its first half, and a lock that was kept is released
by whoever kept it. -/
def MayFollow (system : TimerSystem) : TimerCall → Prop
  | power (.powerUnlock ui32CallerID) =>
    system.pending = none ∧ system.world.resource = some ui32CallerID
  | power (.systemPostPowerState eNewSysPowerState) =>
    system.pending = some (.systemTransition eNewSysPowerState)
  | postClockSpeedChange ui32DeviceIndex true =>
    system.pending = some (.clockChange ui32DeviceIndex)
  | _ => True

/-- What is in progress after a call. -/
def pendingAfter
    (pending : Option Pending) (eError : PvrsrvError) :
    TimerCall → Option Pending
  | power (.systemPrePowerState eNewSysPowerState) =>
    if eError = pvrsrvOk then some (.systemTransition eNewSysPowerState)
    else pending
  | power (.systemPostPowerState _) => none
  | preClockSpeedChange ui32DeviceIndex true =>
    if eError = pvrsrvOk then some (.clockChange ui32DeviceIndex)
    else pending
  | postClockSpeedChange _ true => none
  | _ => pending

end TimerCall

/-- SGX has been registered as a power device that is off, with its callbacks,
and has not used a timer. -/
structure Initial
    (sgx : Address)
    (pfnPostClockSpeedChange : Address → Bool)
    (system : TimerSystem) : Prop where
  listed : sgx ∈ system.world.shared.psPowerDeviceList
  once : system.world.shared.psPowerDeviceList.Nodup
  prePower :
    (system.world.shared.psPowerDevice sgx).pfnPrePower.isSome
  postPower :
    (system.world.shared.psPowerDevice sgx).pfnPostPower.isSome
  clock : pfnPostClockSpeedChange sgx = true
  default : (system.world.shared.psPowerDevice sgx).eDefaultPowerState = .off
  current : (system.world.shared.psPowerDevice sgx).eCurrentPowerState = .off
  noTimer : system.world.outside.hTimer = none
  unused : system.world.outside.uses = []
  free : system.world.resource = none
  idle : system.pending = none

/-- The systems that calls reach, with every step allowed by a condition. -/
inductive Reached
    (sgx : Address)
    (pfnPostClockSpeedChange : Address → Bool)
    (allows : StepCondition) :
    TimerSystem → Prop
  | initial
      {system : TimerSystem}
      (initial : Initial sgx pfnPostClockSpeedChange system) :
      Reached sgx pfnPostClockSpeedChange allows system
  | call
      {system : TimerSystem}
      {call : TimerCall}
      {eError : PvrsrvError}
      {after : World SysData (BitVec 32) SgxDevInfo}
      (before : Reached sgx pfnPostClockSpeedChange allows system)
      (mayFollow : call.MayFollow system)
      (runs : Program.Runs (sgxServing sgx allows)
        (call.body pfnPostClockSpeedChange) system.world eError after) :
      Reached sgx pfnPostClockSpeedChange allows
        ⟨after, call.pendingAfter system.pending eError⟩

end PvrServices.Power.RecoveryTimer
