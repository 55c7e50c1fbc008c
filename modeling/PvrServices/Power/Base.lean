import PvrServices.Lib.LockedCalls
import PvrServices.Resman.Base

/-!
# Power transitions

A device changes its power state in two passes over the registered devices:
every device prepares, then every device follows and records its new state.
Either pass stops at the first callback that fails, and nothing is undone.
The power lock is held for both passes; a system transition makes them in two
calls and keeps the lock in between.

The build neither wraps the power lock for the platform nor dumps parameters.
-/

namespace PvrServices.Power

open LockedCalls
open Resman (PvrsrvError pvrsrvOk)
open Program (get invoke modify)

/-- `PVRSRV_ERROR_RETRY`. -/
abbrev pvrsrvErrorRetry : PvrsrvError := 24

/-- `PVRSRV_ERROR_UNABLE_TO_LOCK_RESOURCE`. -/
abbrev pvrsrvErrorUnableToLockResource : PvrsrvError := 106

/-- `KERNEL_ID`. -/
abbrev kernelId : BitVec 32 := 0xffffffff

/-- `ISR_ID`. -/
abbrev isrId : BitVec 32 := 0xfffffffd

/-! ## Data -/

/-- `PVRSRV_SYS_POWER_STATE`. -/
inductive PvrsrvSysPowerState
  | unspecified
  | d0
  | d1
  | d2
  | d3
  | d4
deriving DecidableEq, Repr

/-- The values of the enumeration. -/
def PvrsrvSysPowerState.value : PvrsrvSysPowerState → Int
  | unspecified => -1
  | d0 => 0
  | d1 => 1
  | d2 => 2
  | d3 => 3
  | d4 => 4

/-- `PVRSRV_DEV_POWER_STATE`. -/
inductive PvrsrvDevPowerState
  | default
  | on
  | idle
  | off
deriving DecidableEq, Repr

/-- Address of a `PVRSRV_POWER_DEV`. -/
abbrev Address := Nat

/-- `PVRSRV_POWER_DEV` without its links and its clock speed callbacks. -/
structure PvrsrvPowerDev where
  pfnPrePower : Option (BitVec 64)
  pfnPostPower : Option (BitVec 64)
  hDevCookie : BitVec 64
  ui32DeviceIndex : BitVec 32
  eDefaultPowerState : PvrsrvDevPowerState
  eCurrentPowerState : PvrsrvDevPowerState
deriving DecidableEq, Repr

/-- How far a device has come on its way to another state. -/
inductive Stage
  | settled
  | prePowerDone (eNewPowerState : PvrsrvDevPowerState)
  | prepared (eNewPowerState : PvrsrvDevPowerState)
  | sysPostDone (eNewPowerState : PvrsrvDevPowerState)
deriving DecidableEq, Repr

/-- What a device has really done: the state whose pre and post transitions
both completed last, and how far it is on its way to another. -/
structure Progress where
  reached : PvrsrvDevPowerState
  stage : Stage
deriving DecidableEq, Repr

/-- The part of `SYS_DATA` under the power lock, with what the devices have
really done. -/
structure SysData where
  eCurrentPowerState : PvrsrvSysPowerState
  psPowerDeviceList : List Address
  psPowerDevice : Address → PvrsrvPowerDev
  progress : Address → Progress

/-- The arguments that `SGXScheduleCCBCommandKM` passes on. -/
structure SgxCcbArguments where
  eCmdType : BitVec 32
  psCommandData : BitVec 64
  ui32PDumpFlags : BitVec 32
  hDevMemContext : BitVec 64
  bLastInScene : Bool
deriving DecidableEq, Repr

/-- What the power functions call or write outside the lock.  A callback for a
device names the device it is called for. -/
inductive PowerCallback
  | pfnPrePower (psPowerDevice : Address) (pfnPrePower : BitVec 64)
      (hDevCookie : BitVec 64)
      (eNewPowerState eCurrentPowerState : PvrsrvDevPowerState)
  | pfnPostPower (psPowerDevice : Address) (pfnPostPower : BitVec 64)
      (hDevCookie : BitVec 64)
      (eNewPowerState eCurrentPowerState : PvrsrvDevPowerState)
  | sysDevicePrePowerState (psPowerDevice : Address)
      (ui32DeviceIndex : BitVec 32)
      (eNewPowerState eCurrentPowerState : PvrsrvDevPowerState)
  | sysDevicePostPowerState (psPowerDevice : Address)
      (ui32DeviceIndex : BitVec 32)
      (eNewPowerState eCurrentPowerState : PvrsrvDevPowerState)
  | sysSystemPrePowerState (eNewSysPowerState : PvrsrvSysPowerState)
  | sysSystemPostPowerState (eNewSysPowerState : PvrsrvSysPowerState)
  | setFailedPowerState (eFailedPowerState : PvrsrvSysPowerState)
  | getInitServerStateSuccessful
  | scheduleDeviceCallbacks
  | setReProcessDeviceCommandComplete (value : Bool)
  | osScheduleMISR
  | sgxScheduleCCBCommand (ui32CallerID : BitVec 32)
      (arguments : SgxCcbArguments)
deriving DecidableEq, Repr

/-- A power function with its result. -/
abbrev PowerProgram :=
  Program SysData (BitVec 32) PowerCallback (BitVec 32)

/-- `_IsSystemStatePowered`. -/
def isSystemStatePowered (eSystemPowerState : PvrsrvSysPowerState) : Bool :=
  decide (eSystemPowerState.value < PvrsrvSysPowerState.d2.value)

/-- The state that a request means for a device. -/
def PvrsrvPowerDev.eNewDevicePowerState
    (psPowerDevice : PvrsrvPowerDev)
    (eNewPowerState : PvrsrvDevPowerState) :
    PvrsrvDevPowerState :=
  if eNewPowerState = .default then psPowerDevice.eDefaultPowerState
  else eNewPowerState

/-- The request is for the device. -/
def PvrsrvPowerDev.addressed
    (psPowerDevice : PvrsrvPowerDev)
    (bAllDevices : Bool)
    (ui32DeviceIndex : BitVec 32) :
    Bool :=
  bAllDevices || ui32DeviceIndex == psPowerDevice.ui32DeviceIndex

/-- Writes the record of a device. -/
def SysData.setCurrentPowerState
    (psSysData : SysData)
    (psPowerDevice : Address)
    (eNewPowerState : PvrsrvDevPowerState) :
    SysData :=
  { psSysData with
    psPowerDevice := Function.update psSysData.psPowerDevice psPowerDevice
      { psSysData.psPowerDevice psPowerDevice with
        eCurrentPowerState := eNewPowerState } }

/-! ## The lock -/

/-- `PVRSRVPowerUnlock`. -/
def pvrsrvPowerUnlock (ui32CallerID : BitVec 32) : PowerProgram Unit :=
  Program.release ui32CallerID

/-- The loop of `PVRSRVPowerLock`, with the attempts that are left. -/
def powerLockAttempts
    (ui32CallerID : BitVec 32)
    (bTryLock : Bool) :
    Nat → PowerProgram PvrsrvError
  | 0 => pure pvrsrvErrorUnableToLockResource
  | ui32Timeout + 1 => do
      let locked ← Program.acquire ui32CallerID
      if locked then pure pvrsrvOk
      else if bTryLock then pure pvrsrvErrorRetry
      else powerLockAttempts ui32CallerID bTryLock ui32Timeout

/-- `PVRSRVPowerLock`. -/
def pvrsrvPowerLock
    (ui32CallerID : BitVec 32)
    (bSystemPowerEvent : Bool) :
    PowerProgram PvrsrvError := do
  let eError ←
    powerLockAttempts ui32CallerID (ui32CallerID == isrId) 1000000
  if eError = pvrsrvOk ∧ bSystemPowerEvent = false then
    let psSysData ← get
    if isSystemStatePowered psSysData.eCurrentPowerState then pure eError
    else
      pvrsrvPowerUnlock ui32CallerID
      pure pvrsrvErrorRetry
  else pure eError

/-! ## Passes over the devices -/

/-- `List_PVRSRV_POWER_DEV_PVRSRV_ERROR_Any_va`: calls a function for each
device until one fails. -/
def listPowerDevAnyVa
    (pfnCallBack : Address → PowerProgram PvrsrvError) :
    List Address → PowerProgram PvrsrvError
  | [] => pure pvrsrvOk
  | psHead :: psNext => do
      let result ← pfnCallBack psHead
      if result = pvrsrvOk then listPowerDevAnyVa pfnCallBack psNext
      else pure result

/-- A device's own callback, if it has one. -/
def powerDevCallback
    (pfnCallBack : Option (BitVec 64))
    (callback : BitVec 64 → PowerCallback) :
    PowerProgram PvrsrvError :=
  match pfnCallBack with
  | none => pure pvrsrvOk
  | some pfnCallBack => invoke (callback pfnCallBack)

section

variable (bAllDevices : Bool) (ui32DeviceIndex : BitVec 32)

/-- `PVRSRVDevicePrePowerStateKM_AnyVaCb`. -/
def devicePrePowerStateAnyVaCb
    (eNewPowerState : PvrsrvDevPowerState)
    (psPowerDevice : Address) :
    PowerProgram PvrsrvError := do
  let psSysData ← get
  let device := psSysData.psPowerDevice psPowerDevice
  let eNewDevicePowerState := device.eNewDevicePowerState eNewPowerState
  if device.addressed bAllDevices ui32DeviceIndex ∧
      device.eCurrentPowerState ≠ eNewDevicePowerState then
    let eError ← powerDevCallback device.pfnPrePower fun pfnPrePower =>
      .pfnPrePower psPowerDevice pfnPrePower device.hDevCookie
        eNewDevicePowerState device.eCurrentPowerState
    if eError = pvrsrvOk then
      invoke (.sysDevicePrePowerState psPowerDevice
        device.ui32DeviceIndex eNewDevicePowerState device.eCurrentPowerState)
    else pure eError
  else pure pvrsrvOk

/-- `PVRSRVDevicePrePowerStateKM`. -/
def devicePrePowerState
    (eNewPowerState : PvrsrvDevPowerState) :
    PowerProgram PvrsrvError := do
  let psSysData ← get
  listPowerDevAnyVa
    (devicePrePowerStateAnyVaCb bAllDevices ui32DeviceIndex eNewPowerState)
    psSysData.psPowerDeviceList

/-- `PVRSRVDevicePostPowerStateKM_AnyVaCb`. -/
def devicePostPowerStateAnyVaCb
    (eNewPowerState : PvrsrvDevPowerState)
    (psPowerDevice : Address) :
    PowerProgram PvrsrvError := do
  let psSysData ← get
  let device := psSysData.psPowerDevice psPowerDevice
  let eNewDevicePowerState := device.eNewDevicePowerState eNewPowerState
  if device.addressed bAllDevices ui32DeviceIndex ∧
      device.eCurrentPowerState ≠ eNewDevicePowerState then
    let eError ← invoke (.sysDevicePostPowerState psPowerDevice
      device.ui32DeviceIndex eNewDevicePowerState device.eCurrentPowerState)
    if eError = pvrsrvOk then
      let eError ← powerDevCallback device.pfnPostPower fun pfnPostPower =>
        .pfnPostPower psPowerDevice pfnPostPower device.hDevCookie
          eNewDevicePowerState device.eCurrentPowerState
      if eError = pvrsrvOk then
        modify fun psSysData =>
          psSysData.setCurrentPowerState psPowerDevice eNewDevicePowerState
        pure pvrsrvOk
      else pure eError
    else pure eError
  else pure pvrsrvOk

/-- `PVRSRVDevicePostPowerStateKM`. -/
def devicePostPowerState
    (eNewPowerState : PvrsrvDevPowerState) :
    PowerProgram PvrsrvError := do
  let psSysData ← get
  listPowerDevAnyVa
    (devicePostPowerStateAnyVaCb bAllDevices ui32DeviceIndex eNewPowerState)
    psSysData.psPowerDeviceList

end

/-! ## Transitions -/

/-- Goes on unless there was an error. -/
def unlessError
    (eError : PvrsrvError)
    (next : PowerProgram PvrsrvError) :
    PowerProgram PvrsrvError :=
  if eError = pvrsrvOk then next else pure eError

/-- Releases the lock if the lock is not to be kept. -/
def powerUnlockIf
    (releases : Bool)
    (ui32CallerID : BitVec 32) :
    PowerProgram Unit :=
  if releases then pvrsrvPowerUnlock ui32CallerID else pure ()

/-- `PVRSRVSetDevicePowerStateKM`. -/
def pvrsrvSetDevicePowerState
    (ui32DeviceIndex : BitVec 32)
    (eNewPowerState : PvrsrvDevPowerState)
    (ui32CallerID : BitVec 32)
    (bRetainMutex : Bool) :
    PowerProgram PvrsrvError := do
  let eError ← pvrsrvPowerLock ui32CallerID false
  if eError ≠ pvrsrvOk then pure eError
  else
    let eError ← devicePrePowerState false ui32DeviceIndex eNewPowerState
    let eError ← unlessError eError
      (devicePostPowerState false ui32DeviceIndex eNewPowerState)
    powerUnlockIf (!bRetainMutex || eError != pvrsrvOk) ui32CallerID
    pure eError

/-- The state that a system transition asks of every device. -/
def eNewDevicePowerState
    (eNewSysPowerState : PvrsrvSysPowerState) :
    PvrsrvDevPowerState :=
  if isSystemStatePowered eNewSysPowerState then .default else .off

/-- The pass of a system transition over the devices, if it is made. -/
def systemDevicePass
    (pass : PvrsrvDevPowerState → PowerProgram PvrsrvError)
    (eNewSysPowerState : PvrsrvSysPowerState) :
    PowerProgram PvrsrvError := do
  let psSysData ← get
  if isSystemStatePowered eNewSysPowerState ≠
      isSystemStatePowered psSysData.eCurrentPowerState then
    pass (eNewDevicePowerState eNewSysPowerState)
  else pure pvrsrvOk

/-- The call of the system's own function, if the state changes. -/
def systemCallback
    (callback : PowerCallback)
    (eNewSysPowerState : PvrsrvSysPowerState) :
    PowerProgram PvrsrvError := do
  let psSysData ← get
  if eNewSysPowerState ≠ psSysData.eCurrentPowerState then
    invoke callback
  else pure pvrsrvOk

/-- `PVRSRVSystemPrePowerStateKM`. -/
def pvrsrvSystemPrePowerState
    (eNewSysPowerState : PvrsrvSysPowerState) :
    PowerProgram PvrsrvError := do
  let eError ← pvrsrvPowerLock kernelId true
  if eError ≠ pvrsrvOk then pure eError
  else
    let eError ←
      systemDevicePass (devicePrePowerState true 0) eNewSysPowerState
    let eError ← unlessError eError
      (systemCallback (.sysSystemPrePowerState eNewSysPowerState)
        eNewSysPowerState)
    if eError = pvrsrvOk then pure eError
    else
      let _ ← invoke (.setFailedPowerState eNewSysPowerState)
      pvrsrvPowerUnlock kernelId
      pure eError

/-- The device callbacks that a powered system runs once it is set up. -/
def systemDeviceCallbacks
    (eNewSysPowerState : PvrsrvSysPowerState) :
    PowerProgram Unit := do
  if isSystemStatePowered eNewSysPowerState then
    let successful ← invoke .getInitServerStateSuccessful
    if successful = 0 then pure ()
    else
      let _ ← invoke .scheduleDeviceCallbacks
      pure ()
  else pure ()

/-- `PVRSRVSystemPostPowerStateKM`. -/
def pvrsrvSystemPostPowerState
    (eNewSysPowerState : PvrsrvSysPowerState) :
    PowerProgram PvrsrvError := do
  let eError ←
    systemCallback (.sysSystemPostPowerState eNewSysPowerState)
      eNewSysPowerState
  let eError ← unlessError eError
    (systemDevicePass (devicePostPowerState true 0) eNewSysPowerState)
  let eError ← unlessError eError do
    modify fun psSysData =>
      { psSysData with eCurrentPowerState := eNewSysPowerState }
    pure pvrsrvOk
  pvrsrvPowerUnlock kernelId
  systemDeviceCallbacks eNewSysPowerState
  pure eError

/-- `PVRSRVSetPowerStateKM`. -/
def pvrsrvSetPowerState
    (eNewSysPowerState : PvrsrvSysPowerState) :
    PowerProgram PvrsrvError := do
  let eError ← pvrsrvSystemPrePowerState eNewSysPowerState
  let eError ←
    unlessError eError (pvrsrvSystemPostPowerState eNewSysPowerState)
  let _ ← invoke (.setFailedPowerState
    (if eError = pvrsrvOk then .unspecified else eNewSysPowerState))
  pure eError

/-- `SGXScheduleCCBCommandKM`. -/
def sgxScheduleCCBCommandKM
    (ui32DeviceIndex : BitVec 32)
    (ui32CallerID : BitVec 32)
    (arguments : SgxCcbArguments) :
    PowerProgram PvrsrvError := do
  let eError ←
    pvrsrvSetDevicePowerState ui32DeviceIndex .on ui32CallerID true
  if eError = pvrsrvOk then
    let _ ← invoke (.setReProcessDeviceCommandComplete false)
    let eError ←
      invoke (.sgxScheduleCCBCommand ui32CallerID arguments)
    pvrsrvPowerUnlock ui32CallerID
    pure eError
  else if eError = pvrsrvErrorRetry ∧ ui32CallerID = isrId then
    let _ ← invoke (.setReProcessDeviceCommandComplete true)
    let _ ← invoke .osScheduleMISR
    pure pvrsrvOk
  else pure eError

end PvrServices.Power
