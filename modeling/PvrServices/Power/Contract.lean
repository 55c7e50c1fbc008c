import PvrServices.Power.Base

/-!
# What the power functions keep

Every power function is judged alone: when it takes and releases the power
lock, and how the records of the devices follow what the devices have really
done.
-/

namespace PvrServices.Power

open Function (update_of_ne update_self)
open LockedCalls
open Resman (PvrsrvError pvrsrvOk)
open Program (invoke modify)

variable {bAllDevices bTryLock bSystemPowerEvent bRetainMutex : Bool}
  {ui32DeviceIndex ui32CallerID : BitVec 32}
  {eNewPowerState eCurrentPowerState : PvrsrvDevPowerState}
  {eNewSysPowerState : PvrsrvSysPowerState}
  {psSysData psSysData' psSysData'' : SysData} {psPowerDevice : Address}
  {callback : PowerCallback}
  {post : PvrsrvError → Ownership SysData (BitVec 32) → Prop}

/-! ## What the devices have done -/

/-- Writes what a device has done. -/
def SysData.setProgress
    (psSysData : SysData)
    (psPowerDevice : Address)
    (progress : Progress) :
    SysData :=
  { psSysData with
    progress := Function.update psSysData.progress psPowerDevice progress }

/-- Writes how far a device is on its way. -/
def SysData.setStage
    (psSysData : SysData)
    (psPowerDevice : Address)
    (stage : Stage) :
    SysData :=
  psSysData.setProgress psPowerDevice
    { psSysData.progress psPowerDevice with stage := stage }

/-- What a device has done once a callback answered.  A transition is complete
when each of its callbacks succeeded in turn; a device need not have callbacks
of its own. -/
def recordCallback
    (callback : PowerCallback)
    (eError : PvrsrvError)
    (psSysData : SysData) :
    SysData :=
  if eError = pvrsrvOk then
    match callback with
    | .pfnPrePower psPowerDevice _ _ eNewPowerState _ =>
      psSysData.setStage psPowerDevice (.prePowerDone eNewPowerState)
    | .sysDevicePrePowerState psPowerDevice _ eNewPowerState _ =>
      if (psSysData.psPowerDevice psPowerDevice).pfnPrePower = none ∨
          (psSysData.progress psPowerDevice).stage =
            .prePowerDone eNewPowerState then
        psSysData.setStage psPowerDevice (.prepared eNewPowerState)
      else psSysData
    | .sysDevicePostPowerState psPowerDevice _ eNewPowerState _ =>
      if (psSysData.progress psPowerDevice).stage =
          .prepared eNewPowerState then
        if (psSysData.psPowerDevice psPowerDevice).pfnPostPower = none then
          psSysData.setProgress psPowerDevice ⟨eNewPowerState, .settled⟩
        else psSysData.setStage psPowerDevice (.sysPostDone eNewPowerState)
      else psSysData
    | .pfnPostPower psPowerDevice _ _ eNewPowerState _ =>
      if (psSysData.progress psPowerDevice).stage =
          .sysPostDone eNewPowerState then
        psSysData.setProgress psPowerDevice ⟨eNewPowerState, .settled⟩
      else psSysData
    | _ => psSysData
  else psSysData

@[simp] theorem recordCallback_of_ne
    {eError : PvrsrvError}
    (failed : eError ≠ pvrsrvOk) :
    recordCallback callback eError psSysData = psSysData :=
  if_neg failed

/-- The device that makes a transition by the callback, if one does. -/
def PowerCallback.movedDevice : PowerCallback → Option Address
  | .pfnPrePower psPowerDevice _ _ _ _ => some psPowerDevice
  | .pfnPostPower psPowerDevice _ _ _ _ => some psPowerDevice
  | .sysDevicePrePowerState psPowerDevice _ _ _ => some psPowerDevice
  | .sysDevicePostPowerState psPowerDevice _ _ _ => some psPowerDevice
  | _ => none

/-- A callback that is for no device moves no device. -/
theorem recordCallback_of_none
    (general : callback.movedDevice = none)
    (eError : PvrsrvError) :
    recordCallback callback eError psSysData = psSysData := by
  rcases eq_or_ne eError pvrsrvOk with rfl | unsuccessful
  · cases callback <;> first | rfl | cases general
  · exact recordCallback_of_ne unsuccessful

variable {eCurrentPowerState : PvrsrvDevPowerState} {devices : List Address}

theorem recordCallback_pfnPrePower
    {pfnPrePower hDevCookie : BitVec 64} :
    recordCallback (.pfnPrePower psPowerDevice pfnPrePower hDevCookie
        eNewPowerState eCurrentPowerState) pvrsrvOk psSysData =
      psSysData.setStage psPowerDevice (.prePowerDone eNewPowerState) :=
  if_pos rfl

theorem recordCallback_sysDevicePrePowerState
    (started :
      (psSysData.psPowerDevice psPowerDevice).pfnPrePower = none ∨
        (psSysData.progress psPowerDevice).stage =
          .prePowerDone eNewPowerState) :
    recordCallback (.sysDevicePrePowerState psPowerDevice ui32DeviceIndex
        eNewPowerState eCurrentPowerState) pvrsrvOk psSysData =
      psSysData.setStage psPowerDevice (.prepared eNewPowerState) :=
  if_pos started

/-- Every device is recorded in the state that it reached. -/
def Truthful (psSysData : SysData) : Prop :=
  ∀ psPowerDevice,
    (psSysData.psPowerDevice psPowerDevice).eCurrentPowerState =
      (psSysData.progress psPowerDevice).reached

/-- The power lock protects truthful records. -/
def powerDiscipline : Discipline SysData PowerCallback PvrsrvError where
  invariant := Truthful
  effect := recordCallback

/-- The device is ready for its post transition, if it will make one. -/
def PreparedFor
    (bAllDevices : Bool)
    (ui32DeviceIndex : BitVec 32)
    (eNewPowerState : PvrsrvDevPowerState)
    (psSysData : SysData)
    (psPowerDevice : Address) :
    Prop :=
  let device := psSysData.psPowerDevice psPowerDevice
  device.addressed bAllDevices ui32DeviceIndex = true →
    device.eCurrentPowerState ≠ device.eNewDevicePowerState eNewPowerState →
      (psSysData.progress psPowerDevice).stage =
        .prepared (device.eNewDevicePowerState eNewPowerState)

/-! ## Preparing -/

/-- Preparing changes only how far devices are on their way. -/
structure Preparing (psSysData psSysData' : SysData) : Prop where
  system : psSysData'.eCurrentPowerState = psSysData.eCurrentPowerState
  list : psSysData'.psPowerDeviceList = psSysData.psPowerDeviceList
  devices : psSysData'.psPowerDevice = psSysData.psPowerDevice
  reached : ∀ psPowerDevice,
    (psSysData'.progress psPowerDevice).reached =
      (psSysData.progress psPowerDevice).reached

theorem Preparing.refl (psSysData : SysData) :
    Preparing psSysData psSysData :=
  ⟨rfl, rfl, rfl, fun _ => rfl⟩

theorem Preparing.trans
    (first : Preparing psSysData psSysData')
    (second : Preparing psSysData' psSysData'') :
    Preparing psSysData psSysData'' where
  system := second.system.trans first.system
  list := second.list.trans first.list
  devices := second.devices.trans first.devices
  reached := fun psPowerDevice =>
    (second.reached psPowerDevice).trans (first.reached psPowerDevice)

theorem Preparing.truthful
    (preparing : Preparing psSysData psSysData')
    (truthful : Truthful psSysData) :
    Truthful psSysData' := by
  intro psPowerDevice
  rw [preparing.devices, preparing.reached]
  exact truthful psPowerDevice

@[simp] theorem progress_setStage (stage : Stage) :
    (psSysData.setStage psPowerDevice stage).progress psPowerDevice =
      { psSysData.progress psPowerDevice with stage := stage } :=
  update_self _ _ _

theorem progress_setStage_of_ne
    {stage : Stage}
    {other : Address}
    (different : other ≠ psPowerDevice) :
    (psSysData.setStage psPowerDevice stage).progress other =
      psSysData.progress other :=
  update_of_ne different _ _

theorem preparing_setStage (stage : Stage) :
    Preparing psSysData (psSysData.setStage psPowerDevice stage) where
  system := rfl
  list := rfl
  devices := rfl
  reached := by
    intro other
    rcases eq_or_ne other psPowerDevice with rfl | different
    · rw [progress_setStage]
    · rw [progress_setStage_of_ne different]

/-- One callback is recorded, whatever its answer. -/
theorem safe_callback
    (succeeded : post pvrsrvOk (.owned ui32CallerID
      (recordCallback callback pvrsrvOk psSysData)))
    (failed : ∀ eError, eError ≠ pvrsrvOk →
      post eError (.owned ui32CallerID psSysData)) :
    Safe powerDiscipline (invoke callback)
      (.owned ui32CallerID psSysData) post := by
  rw [safe_invoke_owned]
  intro eError
  change post eError
    (.owned ui32CallerID (recordCallback callback eError psSysData))
  rcases eq_or_ne eError pvrsrvOk with rfl | unsuccessful
  · exact succeeded
  · rw [recordCallback_of_ne unsuccessful]
    exact failed eError unsuccessful

/-- A callback that is for no device may be called with and without the
lock. -/
theorem safe_generalCallback
    {own : Ownership SysData (BitVec 32)}
    (general : callback.movedDevice = none)
    (ends : ∀ eError, post eError own) :
    Safe powerDiscipline (invoke callback) own post := by
  cases own with
  | free =>
    rw [safe_invoke_free]
    intro eError
    constructor
    · intro psSysData
      exact recordCallback_of_none general eError
    · exact ends eError
  | owned owner psSysData =>
    rw [safe_invoke_owned]
    intro eError
    rw [show powerDiscipline.effect callback eError psSysData = psSysData
      from recordCallback_of_none general eError]
    exact ends eError

/-- A device's own callback is recorded if it has one. -/
theorem safe_powerDevCallback
    {pfnCallBack : Option (BitVec 64)}
    {callback : BitVec 64 → PowerCallback}
    (absent : pfnCallBack = none →
      post pvrsrvOk (.owned ui32CallerID psSysData))
    (succeeded : ∀ address, pfnCallBack = some address →
      post pvrsrvOk (.owned ui32CallerID
        (recordCallback (callback address) pvrsrvOk psSysData)))
    (failed : ∀ address eError, pfnCallBack = some address →
      eError ≠ pvrsrvOk → post eError (.owned ui32CallerID psSysData)) :
    Safe powerDiscipline (powerDevCallback pfnCallBack callback)
      (.owned ui32CallerID psSysData) post := by
  cases pfnCallBack with
  | none => exact absent rfl
  | some address =>
    apply safe_callback (succeeded address rfl)
    intro eError unsuccessful
    exact failed address eError rfl unsuccessful

section

variable (failed : ∀ eError psSysData', eError ≠ pvrsrvOk →
  Preparing psSysData psSysData' →
  post eError (.owned ui32CallerID psSysData'))
include failed

/-- The pre transition of one device ends with the device ready for its post
transition, or fails. -/
theorem safe_devicePrePowerStateAnyVaCb
    (prepared : ∀ psSysData', Preparing psSysData psSysData' →
      (∀ other, other ≠ psPowerDevice →
        psSysData'.progress other = psSysData.progress other) →
      PreparedFor bAllDevices ui32DeviceIndex eNewPowerState psSysData'
        psPowerDevice →
      post pvrsrvOk (.owned ui32CallerID psSysData')) :
    Safe powerDiscipline
      (devicePrePowerStateAnyVaCb bAllDevices ui32DeviceIndex eNewPowerState
        psPowerDevice)
      (.owned ui32CallerID psSysData) post := by
  simp only [devicePrePowerStateAnyVaCb, safe_bind, safe_get_owned]
  split
  · rw [safe_bind]
    apply safe_powerDevCallback
    · intro absent
      rw [if_pos rfl]
      apply safe_callback
      · rw [recordCallback_sysDevicePrePowerState (.inl absent)]
        apply prepared _ (preparing_setStage _)
        · intro other different
          exact progress_setStage_of_ne different
        · intro _ _
          rw [progress_setStage]
          rfl
      · intro eError unsuccessful
        exact failed _ _ unsuccessful (.refl _)
    · intro pfnPrePower registered
      rw [if_pos rfl]
      rw [recordCallback_pfnPrePower]
      apply safe_callback
      · rw [recordCallback_sysDevicePrePowerState
          (.inr (by rw [progress_setStage]))]
        apply prepared _ ((preparing_setStage _).trans (preparing_setStage _))
        · intro other different
          rw [progress_setStage_of_ne different,
            progress_setStage_of_ne different]
        · intro _ _
          rw [progress_setStage]
          rfl
      · intro eError unsuccessful
        exact failed _ _ unsuccessful (preparing_setStage _)
    · intro _ eError _ unsuccessful
      rw [if_neg unsuccessful, safe_pure]
      exact failed _ _ unsuccessful (.refl _)
  · next unaffected =>
    apply prepared _ (.refl _) fun _ _ => rfl
    intro addressed moves
    exact absurd ⟨addressed, moves⟩ unaffected

/-- The pre transitions of a list of devices end with all of them ready for
their post transitions, or fail. -/
theorem safe_listPowerDevAnyVa_pre
    (done : List Address)
    (ready : ∀ psPowerDevice ∈ done,
      PreparedFor bAllDevices ui32DeviceIndex eNewPowerState psSysData
        psPowerDevice)
    (prepared : ∀ psSysData', Preparing psSysData psSysData' →
      (∀ psPowerDevice ∈ done ++ devices,
        PreparedFor bAllDevices ui32DeviceIndex eNewPowerState psSysData'
          psPowerDevice) →
      post pvrsrvOk (.owned ui32CallerID psSysData')) :
    Safe powerDiscipline
      (listPowerDevAnyVa
        (devicePrePowerStateAnyVaCb bAllDevices ui32DeviceIndex
          eNewPowerState) devices)
      (.owned ui32CallerID psSysData) post := by
  induction devices generalizing psSysData done with
  | nil =>
    apply prepared _ (.refl _)
    rw [List.append_nil]
    exact ready
  | cons psHead psNext ih =>
    rw [listPowerDevAnyVa, safe_bind]
    apply safe_devicePrePowerStateAnyVaCb
    · intro eError psSysData' unsuccessful preparing
      rw [if_neg unsuccessful, safe_pure]
      exact failed _ _ unsuccessful preparing
    · intro psSysData' preparing others headReady
      rw [if_pos rfl]
      have failedLater := fun eError psSysData'' unsuccessful rest =>
        failed eError psSysData'' unsuccessful (preparing.trans rest)
      apply ih failedLater (done ++ [psHead])
      · intro psPowerDevice member
        rcases eq_or_ne psPowerDevice psHead with rfl | different
        · exact headReady
        · have earlier : psPowerDevice ∈ done := by
            simpa [different] using member
          unfold PreparedFor
          rw [preparing.devices, others psPowerDevice different]
          exact ready psPowerDevice earlier
      · intro psSysData'' rest allReady
        apply prepared _ (preparing.trans rest)
        simpa using allReady

/-- The pre pass ends with all devices ready for the post pass, or fails. -/
theorem safe_devicePrePowerState
    (prepared : ∀ psSysData', Preparing psSysData psSysData' →
      (∀ psPowerDevice ∈ psSysData'.psPowerDeviceList,
        PreparedFor bAllDevices ui32DeviceIndex eNewPowerState psSysData'
          psPowerDevice) →
      post pvrsrvOk (.owned ui32CallerID psSysData')) :
    Safe powerDiscipline
      (devicePrePowerState bAllDevices ui32DeviceIndex eNewPowerState)
      (.owned ui32CallerID psSysData) post := by
  rw [devicePrePowerState, safe_bind, safe_get_owned]
  apply safe_listPowerDevAnyVa_pre failed []
  · intro _ member
    cases member
  · intro psSysData' preparing allReady
    apply prepared _ preparing
    rw [preparing.list]
    exact allReady

end

/-! ## Following -/

/-- The post pass keeps the records truthful and leaves the system alone. -/
structure Following (psSysData psSysData' : SysData) : Prop where
  system : psSysData'.eCurrentPowerState = psSysData.eCurrentPowerState
  list : psSysData'.psPowerDeviceList = psSysData.psPowerDeviceList
  truthful : Truthful psSysData'

theorem Following.trans
    (first : Following psSysData psSysData')
    (second : Following psSysData' psSysData'') :
    Following psSysData psSysData'' where
  system := second.system.trans first.system
  list := second.list.trans first.list
  truthful := second.truthful

/-- A stage changes no record. -/
theorem following_setStage
    (truthful : Truthful psSysData)
    (stage : Stage) :
    Following psSysData (psSysData.setStage psPowerDevice stage) where
  system := rfl
  list := rfl
  truthful := (preparing_setStage stage).truthful truthful

/-- A device that has reached a state is recorded in it. -/
def SysData.arrive
    (psSysData : SysData)
    (psPowerDevice : Address)
    (eNewPowerState : PvrsrvDevPowerState) :
    SysData :=
  (psSysData.setProgress psPowerDevice
    ⟨eNewPowerState, .settled⟩).setCurrentPowerState psPowerDevice
      eNewPowerState

theorem following_arrive
    (truthful : Truthful psSysData) :
    Following psSysData (psSysData.arrive psPowerDevice eNewPowerState) where
  system := rfl
  list := rfl
  truthful := by
    intro other
    simp only [SysData.arrive, SysData.setCurrentPowerState,
      SysData.setProgress]
    rcases eq_or_ne other psPowerDevice with rfl | different
    · rw [update_self, update_self]
    · rw [update_of_ne different, update_of_ne different]
      exact truthful other

theorem recordCallback_sysDevicePostPowerState_absent
    (ready : (psSysData.progress psPowerDevice).stage =
      .prepared eNewPowerState)
    (absent :
      (psSysData.psPowerDevice psPowerDevice).pfnPostPower = none) :
    recordCallback (.sysDevicePostPowerState psPowerDevice ui32DeviceIndex
        eNewPowerState eCurrentPowerState) pvrsrvOk psSysData =
      psSysData.setProgress psPowerDevice ⟨eNewPowerState, .settled⟩ := by
  simp only [recordCallback, ready, absent, if_true]

theorem recordCallback_sysDevicePostPowerState_present
    {pfnPostPower : BitVec 64}
    (ready : (psSysData.progress psPowerDevice).stage =
      .prepared eNewPowerState)
    (present : (psSysData.psPowerDevice psPowerDevice).pfnPostPower =
      some pfnPostPower) :
    recordCallback (.sysDevicePostPowerState psPowerDevice ui32DeviceIndex
        eNewPowerState eCurrentPowerState) pvrsrvOk psSysData =
      psSysData.setStage psPowerDevice (.sysPostDone eNewPowerState) := by
  simp only [recordCallback, ready, present, if_true, reduceCtorEq, if_false]

theorem recordCallback_pfnPostPower
    {pfnPostPower hDevCookie : BitVec 64} :
    recordCallback (.pfnPostPower psPowerDevice pfnPostPower hDevCookie
        eNewPowerState eCurrentPowerState) pvrsrvOk
        (psSysData.setStage psPowerDevice (.sysPostDone eNewPowerState)) =
      psSysData.setProgress psPowerDevice ⟨eNewPowerState, .settled⟩ := by
  rw [recordCallback, if_pos rfl]
  simp only [progress_setStage, if_true]
  simp only [SysData.setStage, SysData.setProgress, Function.update_idem]

section

variable (truthful : Truthful psSysData)
include truthful

/-- The post transition of one device that is ready ends with the device
recorded in its new state, or fails and leaves its record alone. -/
theorem safe_devicePostPowerStateAnyVaCb
    (ready : PreparedFor bAllDevices ui32DeviceIndex eNewPowerState psSysData
      psPowerDevice)
    (followed : ∀ psSysData', Following psSysData psSysData' →
      (∀ other, other ≠ psPowerDevice →
        psSysData'.progress other = psSysData.progress other ∧
          psSysData'.psPowerDevice other = psSysData.psPowerDevice other) →
      PreparedFor bAllDevices ui32DeviceIndex eNewPowerState psSysData'
        psPowerDevice →
      post pvrsrvOk (.owned ui32CallerID psSysData'))
    (failed : ∀ eError psSysData', eError ≠ pvrsrvOk →
      Following psSysData psSysData' →
      post eError (.owned ui32CallerID psSysData')) :
    Safe powerDiscipline
      (devicePostPowerStateAnyVaCb bAllDevices ui32DeviceIndex eNewPowerState
        psPowerDevice)
      (.owned ui32CallerID psSysData) post := by
  have unchanged : Following psSysData psSysData := ⟨rfl, rfl, truthful⟩
  simp only [devicePostPowerStateAnyVaCb, safe_bind, safe_get_owned]
  split
  · next moves =>
    have stage := ready moves.1 moves.2
    have arrived : post pvrsrvOk (.owned ui32CallerID
        (psSysData.arrive psPowerDevice
          ((psSysData.psPowerDevice psPowerDevice).eNewDevicePowerState
            eNewPowerState))) := by
      apply followed _ (following_arrive truthful)
      · intro other different
        constructor
        · exact update_of_ne different _ _
        · exact update_of_ne different _ _
      · intro _ still
        exfalso
        apply still
        simp [SysData.arrive, SysData.setCurrentPowerState,
          SysData.setProgress, PvrsrvPowerDev.eNewDevicePowerState]
    rw [safe_bind]
    apply safe_callback
    · rw [if_pos rfl, safe_bind]
      apply safe_powerDevCallback
      · intro absent
        rw [recordCallback_sysDevicePostPowerState_absent stage absent,
          if_pos rfl, safe_bind, safe_modify]
        exact arrived
      · intro pfnPostPower present
        rw [recordCallback_sysDevicePostPowerState_present stage present,
          recordCallback_pfnPostPower, if_pos rfl, safe_bind, safe_modify]
        exact arrived
      · intro pfnPostPower eError present unsuccessful
        rw [if_neg unsuccessful, safe_pure,
          recordCallback_sysDevicePostPowerState_present stage present]
        exact failed _ _ unsuccessful (following_setStage truthful _)
    · intro eError unsuccessful
      rw [if_neg unsuccessful, safe_pure]
      exact failed _ _ unsuccessful unchanged
  · next unaffected =>
    apply followed _ unchanged fun _ _ => ⟨rfl, rfl⟩
    intro addressed moves
    exact absurd ⟨addressed, moves⟩ unaffected

/-- The post transitions of devices that are ready keep the records truthful,
wherever they stop. -/
theorem safe_listPowerDevAnyVa_post
    (ready : ∀ psPowerDevice ∈ devices,
      PreparedFor bAllDevices ui32DeviceIndex eNewPowerState psSysData
        psPowerDevice)
    (ends : ∀ eError psSysData', Following psSysData psSysData' →
      post eError (.owned ui32CallerID psSysData')) :
    Safe powerDiscipline
      (listPowerDevAnyVa
        (devicePostPowerStateAnyVaCb bAllDevices ui32DeviceIndex
          eNewPowerState) devices)
      (.owned ui32CallerID psSysData) post := by
  induction devices generalizing psSysData with
  | nil => exact ends _ _ ⟨rfl, rfl, truthful⟩
  | cons psHead psNext ih =>
    rw [listPowerDevAnyVa, safe_bind]
    apply safe_devicePostPowerStateAnyVaCb truthful
      (ready psHead (List.mem_cons_self ..))
    · intro psSysData' following others headReady
      rw [if_pos rfl]
      apply ih following.truthful
      · intro psPowerDevice member
        rcases eq_or_ne psPowerDevice psHead with rfl | different
        · exact headReady
        · obtain ⟨sameProgress, sameDevice⟩ := others psPowerDevice different
          unfold PreparedFor
          rw [sameProgress, sameDevice]
          exact ready psPowerDevice (List.mem_cons_of_mem _ member)
      · intro eError psSysData'' rest
        exact ends _ _ (following.trans rest)
    · intro eError psSysData' unsuccessful following
      rw [if_neg unsuccessful, safe_pure]
      exact ends _ _ following

/-- The post pass over devices that are ready keeps the records truthful. -/
theorem safe_devicePostPowerState
    (ready : ∀ psPowerDevice ∈ psSysData.psPowerDeviceList,
      PreparedFor bAllDevices ui32DeviceIndex eNewPowerState psSysData
        psPowerDevice)
    (ends : ∀ eError psSysData', Following psSysData psSysData' →
      post eError (.owned ui32CallerID psSysData')) :
    Safe powerDiscipline
      (devicePostPowerState bAllDevices ui32DeviceIndex eNewPowerState)
      (.owned ui32CallerID psSysData) post := by
  rw [devicePostPowerState, safe_bind, safe_get_owned]
  exact safe_listPowerDevAnyVa_post truthful ready ends

end

/-! ## The lock -/

section

variable (refused : ∀ eError, eError ≠ pvrsrvOk → post eError .free)
  (taken : ∀ psSysData, Truthful psSysData →
    post pvrsrvOk (.owned ui32CallerID psSysData))
include refused taken

/-- The attempts end with the lock taken, or fail without it. -/
theorem safe_powerLockAttempts
    (ui32Timeout : Nat) :
    Safe powerDiscipline
      (powerLockAttempts ui32CallerID bTryLock ui32Timeout) .free post := by
  induction ui32Timeout with
  | zero => exact refused _ (by decide)
  | succ ui32Timeout ih =>
    rw [powerLockAttempts, safe_bind, safe_acquire]
    constructor
    · rw [if_neg (by decide)]
      split
      · exact refused _ (by decide)
      · exact ih
    · intro psSysData truthful
      exact taken psSysData truthful

/-- The power lock is taken exactly when the result is `PVRSRV_OK`. -/
theorem safe_pvrsrvPowerLock :
    Safe powerDiscipline
      (pvrsrvPowerLock ui32CallerID bSystemPowerEvent) .free post := by
  rw [pvrsrvPowerLock, safe_bind]
  apply safe_powerLockAttempts
  · intro eError unsuccessful
    rw [if_neg fun locked => unsuccessful locked.1, safe_pure]
    exact refused eError unsuccessful
  · intro psSysData truthful
    split
    · rw [safe_bind, safe_get_owned]
      split
      · exact taken psSysData truthful
      · rw [safe_bind, pvrsrvPowerUnlock, safe_release]
        exact ⟨truthful, refused _ (by decide)⟩
    · exact taken psSysData truthful

end

/-! ## Device transitions -/

/-- `PVRSRVSetDevicePowerStateKM` keeps the lock only when it succeeds and is
asked to. -/
theorem safe_pvrsrvSetDevicePowerState
    (failed : ∀ eError, eError ≠ pvrsrvOk → post eError .free)
    (released : bRetainMutex = false → post pvrsrvOk .free)
    (retained : bRetainMutex = true → ∀ psSysData, Truthful psSysData →
      post pvrsrvOk (.owned ui32CallerID psSysData)) :
    Safe powerDiscipline
      (pvrsrvSetDevicePowerState ui32DeviceIndex eNewPowerState ui32CallerID
        bRetainMutex) .free post := by
  -- What follows the two passes: the lock is kept or released.
  have leaves : ∀ eError psSysData, Truthful psSysData →
      Safe powerDiscipline
        (powerUnlockIf (!bRetainMutex || eError != pvrsrvOk) ui32CallerID)
        (.owned ui32CallerID psSysData) fun _ own => post eError own := by
    intro eError psSysData truthful
    rw [powerUnlockIf]
    split
    · next releases =>
      rw [pvrsrvPowerUnlock, safe_release]
      refine ⟨truthful, ?_⟩
      rcases eq_or_ne eError pvrsrvOk with rfl | unsuccessful
      · apply released
        simpa using releases
      · exact failed eError unsuccessful
    · next keeps =>
      simp only [Bool.or_eq_true, not_or, Bool.not_eq_true', bne_iff_ne,
        Bool.not_eq_false, ne_eq, not_not] at keeps
      obtain ⟨retains, rfl⟩ := keeps
      exact retained retains psSysData truthful
  rw [pvrsrvSetDevicePowerState, safe_bind]
  apply safe_pvrsrvPowerLock
  · intro eError unsuccessful
    rw [if_pos unsuccessful]
    exact failed eError unsuccessful
  · intro psSysData truthful
    rw [if_neg (by decide), safe_bind]
    apply safe_devicePrePowerState
    · intro eError psSysData' unsuccessful preparing
      rw [safe_bind, unlessError, if_neg unsuccessful, safe_pure, safe_bind]
      exact leaves eError _ (preparing.truthful truthful)
    · intro psSysData' preparing ready
      rw [safe_bind, unlessError, if_pos rfl]
      apply safe_devicePostPowerState (preparing.truthful truthful) ready
      intro eError psSysData'' following
      rw [safe_bind]
      exact leaves eError _ following.truthful

/-- `SGXScheduleCCBCommandKM` returns without the lock. -/
theorem safe_sgxScheduleCCBCommandKM
    {arguments : SgxCcbArguments}
    (ends : ∀ eError, post eError .free) :
    Safe powerDiscipline
      (sgxScheduleCCBCommandKM ui32DeviceIndex ui32CallerID arguments)
      .free post := by
  rw [sgxScheduleCCBCommandKM, safe_bind]
  apply safe_pvrsrvSetDevicePowerState
  · intro eError unsuccessful
    rw [if_neg unsuccessful]
    split
    · rw [safe_bind]
      apply safe_generalCallback rfl
      intro _
      rw [safe_bind]
      apply safe_generalCallback rfl
      intro _
      exact ends pvrsrvOk
    · exact ends eError
  · intro unretained
    cases unretained
  · intro _ psSysData truthful
    rw [if_pos rfl, safe_bind]
    apply safe_generalCallback rfl
    intro _
    rw [safe_bind]
    apply safe_generalCallback rfl
    intro eError
    rw [safe_bind, pvrsrvPowerUnlock, safe_release]
    exact ⟨truthful, ends eError⟩

/-! ## System transitions -/

/-- Between the two halves of a system transition all devices are ready, if
the devices are to change at all. -/
def SystemPrepared
    (eNewSysPowerState : PvrsrvSysPowerState)
    (psSysData : SysData) :
    Prop :=
  isSystemStatePowered eNewSysPowerState ≠
      isSystemStatePowered psSysData.eCurrentPowerState →
    ∀ psPowerDevice ∈ psSysData.psPowerDeviceList,
      PreparedFor true 0 (eNewDevicePowerState eNewSysPowerState) psSysData
        psPowerDevice

/-- The system's own function moves no device. -/
theorem safe_systemCallback
    (general : callback.movedDevice = none)
    (ends : ∀ eError, post eError (.owned ui32CallerID psSysData)) :
    Safe powerDiscipline (systemCallback callback eNewSysPowerState)
      (.owned ui32CallerID psSysData) post := by
  rw [systemCallback, safe_bind, safe_get_owned]
  split
  · exact safe_generalCallback general ends
  · exact ends pvrsrvOk

/-- `PVRSRVSystemPrePowerStateKM` keeps the lock exactly when it succeeds, and
then the devices are ready. -/
theorem safe_pvrsrvSystemPrePowerState
    (failed : ∀ eError, eError ≠ pvrsrvOk → post eError .free)
    (prepared : ∀ psSysData, Truthful psSysData →
      SystemPrepared eNewSysPowerState psSysData →
      post pvrsrvOk (.owned kernelId psSysData)) :
    Safe powerDiscipline (pvrsrvSystemPrePowerState eNewSysPowerState)
      .free post := by
  -- What follows the pass over the devices once something failed.
  have fails : ∀ eError psSysData, eError ≠ pvrsrvOk → Truthful psSysData →
      Safe powerDiscipline
        (do
          let _ ← invoke (.setFailedPowerState eNewSysPowerState)
          pvrsrvPowerUnlock kernelId
          pure eError)
        (.owned kernelId psSysData) post := by
    intro eError psSysData unsuccessful truthful
    rw [safe_bind]
    apply safe_generalCallback rfl
    intro _
    rw [safe_bind, pvrsrvPowerUnlock, safe_release]
    exact ⟨truthful, failed eError unsuccessful⟩
  -- What follows a pass over the devices that succeeded.
  have goesOn : ∀ psSysData, Truthful psSysData →
      SystemPrepared eNewSysPowerState psSysData →
      Safe powerDiscipline
        (systemCallback (.sysSystemPrePowerState eNewSysPowerState)
          eNewSysPowerState)
        (.owned kernelId psSysData) fun eError own =>
          Safe powerDiscipline
            (if eError = pvrsrvOk then pure eError
            else do
              let _ ← invoke (.setFailedPowerState eNewSysPowerState)
              pvrsrvPowerUnlock kernelId
              pure eError) own post := by
    intro psSysData truthful ready
    apply safe_systemCallback rfl
    intro eError
    rcases eq_or_ne eError pvrsrvOk with rfl | unsuccessful
    · rw [if_pos rfl]
      exact prepared psSysData truthful ready
    · rw [if_neg unsuccessful]
      exact fails eError psSysData unsuccessful truthful
  rw [pvrsrvSystemPrePowerState, safe_bind]
  apply safe_pvrsrvPowerLock
  · intro eError unsuccessful
    rw [if_pos unsuccessful]
    exact failed eError unsuccessful
  · intro psSysData truthful
    rw [if_neg (by decide), safe_bind, systemDevicePass, safe_bind,
      safe_get_owned]
    split
    · next changes =>
      apply safe_devicePrePowerState
      · intro eError psSysData' unsuccessful preparing
        rw [unlessError, if_neg unsuccessful, safe_bind, safe_pure,
          if_neg unsuccessful]
        exact fails eError psSysData' unsuccessful
          (preparing.truthful truthful)
      · intro psSysData' preparing ready
        rw [unlessError, if_pos rfl, safe_bind]
        exact goesOn psSysData' (preparing.truthful truthful) fun _ => ready
    · next same =>
      rw [safe_pure, unlessError, if_pos rfl, safe_bind]
      exact goesOn psSysData truthful fun changes => absurd changes same

/-- The device callbacks run without the lock. -/
theorem safe_systemDeviceCallbacks
    {post : Unit → Ownership SysData (BitVec 32) → Prop}
    (ends : post () .free) :
    Safe powerDiscipline (systemDeviceCallbacks eNewSysPowerState)
      .free post := by
  rw [systemDeviceCallbacks]
  split
  · rw [safe_bind]
    apply safe_generalCallback rfl
    intro successful
    split
    · exact ends
    · rw [safe_bind]
      apply safe_generalCallback rfl
      intro _
      exact ends
  · exact ends

/-- `PVRSRVSystemPostPowerStateKM`, called with the lock that the first half
of the transition kept, returns without it. -/
theorem safe_pvrsrvSystemPostPowerState
    (truthful : Truthful psSysData)
    (ready : SystemPrepared eNewSysPowerState psSysData)
    (ends : ∀ eError, post eError .free) :
    Safe powerDiscipline (pvrsrvSystemPostPowerState eNewSysPowerState)
      (.owned kernelId psSysData) post := by
  -- What follows the pass over the devices, whatever its result.
  have leaves : ∀ eError psSysData, Truthful psSysData →
      Safe powerDiscipline
        (unlessError eError do
          modify fun psSysData =>
            { psSysData with eCurrentPowerState := eNewSysPowerState }
          pure pvrsrvOk)
        (.owned kernelId psSysData) fun eError own =>
          Safe powerDiscipline
            (do
              pvrsrvPowerUnlock kernelId
              systemDeviceCallbacks eNewSysPowerState
              pure eError) own post := by
    intro eError psSysData truthful
    have unlocks : ∀ eError psSysData, Truthful psSysData →
        Safe powerDiscipline
          (do
            pvrsrvPowerUnlock kernelId
            systemDeviceCallbacks eNewSysPowerState
            pure eError) (.owned kernelId psSysData) post := by
      intro eError psSysData truthful
      rw [safe_bind, pvrsrvPowerUnlock, safe_release, safe_bind]
      exact ⟨truthful, safe_systemDeviceCallbacks (ends eError)⟩
    rw [unlessError]
    split
    · rw [safe_bind, safe_modify]
      exact unlocks pvrsrvOk _ truthful
    · exact unlocks eError _ truthful
  rw [pvrsrvSystemPostPowerState, safe_bind]
  apply safe_systemCallback rfl
  intro eError
  rw [safe_bind, unlessError]
  split
  · rw [systemDevicePass, safe_bind, safe_get_owned]
    split
    · next changes =>
      apply safe_devicePostPowerState truthful (ready changes)
      intro eError psSysData' following
      rw [safe_bind]
      exact leaves eError psSysData' following.truthful
    · rw [safe_pure, safe_bind]
      exact leaves pvrsrvOk psSysData truthful
  · rw [safe_pure, safe_bind]
    exact leaves eError psSysData truthful

/-- `PVRSRVSetPowerStateKM` returns without the lock. -/
theorem safe_pvrsrvSetPowerState
    (ends : ∀ eError, post eError .free) :
    Safe powerDiscipline (pvrsrvSetPowerState eNewSysPowerState)
      .free post := by
  have notes : ∀ eError,
      Safe powerDiscipline
        (do
          let _ ← invoke (.setFailedPowerState
            (if eError = pvrsrvOk then .unspecified else eNewSysPowerState))
          pure eError)
        .free post := by
    intro eError
    rw [safe_bind]
    apply safe_generalCallback rfl
    intro _
    exact ends eError
  rw [pvrsrvSetPowerState, safe_bind]
  apply safe_pvrsrvSystemPrePowerState
  · intro eError unsuccessful
    rw [unlessError, if_neg unsuccessful, safe_bind, safe_pure]
    exact notes eError
  · intro psSysData truthful ready
    rw [unlessError, if_pos rfl, safe_bind]
    exact safe_pvrsrvSystemPostPowerState truthful ready notes

end PvrServices.Power
