import PvrServices.Power.RecoveryTimer

/-!
# The recovery timer through one transition

The pass before a transition stops the timer if SGX leaves the state on, and
the pass after it starts the timer if SGX comes to that state.
-/

namespace PvrServices.Power.RecoveryTimer

open LockedCalls
open Resman (PvrsrvError pvrsrvOk pvrsrvErrorOutOfMemory)
open Program (ensures_bind ensures_get ensures_invoke ensures_modify invoke)
open SgxDevInfo (bActive updateClock useTimer)

/-! ## What is to hold -/

/-- The state that SGX is recorded in. -/
def recorded (sgx : Address) (psSysData : SysData) : PvrsrvDevPowerState :=
  (psSysData.psPowerDevice sgx).eCurrentPowerState

/-- The device has a timer that is active. -/
def Active (psDevInfo : SgxDevInfo) : Prop :=
  psDevInfo.bActive = some true

/-- Every use of the timer was right, and with nothing in progress the timer is
active just when SGX is recorded as on.  Between the halves of a system
transition or of a change of the clock speed the timer may be either. -/
structure Sound (sgx : Address) (system : TimerSystem) : Prop where
  uses : ∀ use ∈ system.world.outside.uses, use.Right
  follows : system.pending = none →
    (Active system.world.outside ↔ recorded sgx system.world.shared = .on)

/-- The timer is stopped although SGX is recorded as on. -/
def Paused
    (sgx : Address) (psSysData : SysData) (psDevInfo : SgxDevInfo) : Prop :=
  recorded sgx psSysData = .on ∧ ¬Active psDevInfo

/-- Nothing fails while the timer is stopped although SGX is recorded as on,
SGX goes to or from the state on, and a change of the clock speed idles it if
it is on. -/
def Smooth (sgx : Address) : StepCondition :=
  fun callback psSysData psDevInfo services eError =>
    match callback with
    | .power (.pfnPrePower psPowerDevice _ _ eNew eCurrent) =>
      if psPowerDevice = sgx then
        (eNew = .on ∨ eCurrent = .on) ∧
          (eNew ≠ .on → services.sgxScheduleCCBCommand = pvrsrvOk ∧
            (eNew = .off → services.sgxDeinitialise = pvrsrvOk))
      else Paused sgx psSysData psDevInfo → eError = pvrsrvOk
    | .power (.pfnPostPower psPowerDevice _ _ eNew eCurrent) =>
      if psPowerDevice = sgx then eNew = .on ∨ eCurrent = .on
      else Paused sgx psSysData psDevInfo → eError = pvrsrvOk
    | .power (.sysDevicePrePowerState _ _ _ _)
    | .power (.sysDevicePostPowerState _ _ _ _)
    | .power (.sysSystemPrePowerState _)
    | .power (.sysSystemPostPowerState _) =>
      Paused sgx psSysData psDevInfo → eError = pvrsrvOk
    | .power _ => True
    | .pfnPreClockSpeedChange psPowerDevice _ bIdleDevice eCurrent =>
      psPowerDevice = sgx → eCurrent = .on → bIdleDevice = true →
        services.sgxScheduleCCBCommand = pvrsrvOk
    | .pfnPostClockSpeedChange psPowerDevice _ bIdleDevice eCurrent =>
      psPowerDevice = sgx → eCurrent = .on →
        bIdleDevice = true ∧ services.sgxScheduleCCBCommand = pvrsrvOk

/-! ## The timer of the device -/

/-- The device has used its timer rightly, and the timer it has is in use. -/
structure Orderly (psDevInfo : SgxDevInfo) : Prop where
  uses : ∀ use ∈ psDevInfo.uses, use.Right
  inUse : ∀ hTimer, psDevInfo.hTimer = some hTimer →
    (psDevInfo.sTimers hTimer).bInUse = true

section Timer

variable {psDevInfo : SgxDevInfo} {services : SgxServices}
  {operation : TimerOperation}

theorem bActive_eq_none : psDevInfo.bActive = none ↔
    psDevInfo.hTimer = none :=
  Option.map_eq_none_iff

theorem uses_useTimer
    (orderly : Orderly psDevInfo)
    (right : TimerUse.Right ⟨operation, psDevInfo.bActive⟩)
    (change : TimerCallbackData → TimerCallbackData) :
    ∀ use ∈ (psDevInfo.useTimer operation change).uses, use.Right := by
  intro use member
  rcases List.mem_append.mp member with old | new
  · exact orderly.uses use old
  · rw [List.mem_singleton.mp new]
    exact right

theorem bActive_useTimer
    (operation : TimerOperation)
    (change : TimerCallbackData → TimerCallbackData)
    {hTimer : Nat}
    (hasTimer : psDevInfo.hTimer = some hTimer) :
    (psDevInfo.useTimer operation change).bActive =
      some (change (psDevInfo.sTimers hTimer)).bActive := by
  simp [bActive, useTimer, hasTimer]

section

variable (orderly : Orderly psDevInfo)
include orderly

theorem inUse_useTimer
    {change : TimerCallbackData → TimerCallbackData}
    (keeps : ∀ timer, (change timer).bInUse = timer.bInUse) :
    ∀ hTimer, (psDevInfo.useTimer operation change).hTimer = some hTimer →
      ((psDevInfo.useTimer operation change).sTimers hTimer).bInUse =
        true := by
  intro hTimer hasTimer
  change psDevInfo.hTimer = some hTimer at hasTimer
  simp [useTimer, hasTimer, keeps, orderly.inUse hTimer hasTimer]

/-- A stopped timer is started. -/
theorem osEnableTimer_spec
    (stopped : psDevInfo.bActive = some false) :
    Orderly (osEnableTimer psDevInfo) ∧ Active (osEnableTimer psDevInfo) := by
  obtain ⟨hTimer, hasTimer, _⟩ := Option.map_eq_some_iff.mp stopped
  have right : TimerUse.Right ⟨.enable, psDevInfo.bActive⟩ := stopped
  exact ⟨⟨uses_useTimer orderly right _,
      inUse_useTimer orderly fun _ => rfl⟩,
    bActive_useTimer _ _ hasTimer⟩

/-- An active timer is stopped. -/
theorem osDisableTimer_spec
    (active : Active psDevInfo) :
    Orderly (osDisableTimer psDevInfo) ∧
      (osDisableTimer psDevInfo).bActive = some false := by
  obtain ⟨hTimer, hasTimer, _⟩ := Option.map_eq_some_iff.mp active
  have right : TimerUse.Right ⟨.disable, psDevInfo.bActive⟩ := active
  exact ⟨⟨uses_useTimer orderly right _,
      inUse_useTimer orderly fun _ => rfl⟩,
    bActive_useTimer _ _ hasTimer⟩

end

/-- A new timer is in use and inactive, and was not in use before. -/
theorem osAddTimer_spec (psDevInfo : SgxDevInfo) :
    osAddTimer psDevInfo = (none, psDevInfo) ∨
      ∃ ui32i, (psDevInfo.sTimers ui32i).bInUse = false ∧
        osAddTimer psDevInfo = (some ui32i, { psDevInfo with
          sTimers := Function.update psDevInfo.sTimers ui32i
            ⟨true, false⟩ }) := by
  rw [osAddTimer]
  cases search : (List.range osMaxTimers).find? fun ui32i =>
      !(psDevInfo.sTimers ui32i).bInUse with
  | none => exact Or.inl rfl
  | some ui32i =>
    refine Or.inr ⟨ui32i, ?_, rfl⟩
    simpa using List.find?_some search

/-- A stopped timer is kept or replaced by another one that is stopped. -/
theorem sgxUpdateTimingInfo_stopped
    (services : SgxServices)
    (orderly : Orderly psDevInfo)
    (stopped : psDevInfo.bActive = some false) :
    ∃ left, sgxUpdateTimingInfo services psDevInfo = (pvrsrvOk, left) ∧
      Orderly left ∧ left.bActive = some false := by
  obtain ⟨hTimer, hasTimer, inactive⟩ := Option.map_eq_some_iff.mp stopped
  have kept : Orderly (psDevInfo.updateClock services) ∧
      (psDevInfo.updateClock services).bActive = some false :=
    ⟨⟨orderly.uses, orderly.inUse⟩, stopped⟩
  rw [sgxUpdateTimingInfo, hasTimer]
  dsimp only
  by_cases changed :
      psDevInfo.ui32CoreClockSpeed / psDevInfo.ui32uKernelTimerClock ≠
        services.ui32uKernelFreq
  · rw [if_pos changed]
    rcases osAddTimer_spec psDevInfo with
      noTimer | ⟨ui32i, unused, added⟩
    · rw [noTimer]
      exact ⟨_, rfl, kept⟩
    · have differs : hTimer ≠ ui32i := by
        rintro rfl
        rw [orderly.inUse hTimer hasTimer] at unused
        cases unused
      rw [added]
      refine ⟨_, rfl, ⟨?_, ?_⟩, ?_⟩
      · intro use member
        rcases List.mem_append.mp member with old | new
        · exact orderly.uses use old
        · rw [List.mem_singleton.mp new]
          simp [TimerUse.Right, bActive, hasTimer, differs, inactive]
      · intro other isOther
        obtain rfl : ui32i = other := Option.some.inj isOther
        simp [updateClock, osRemoveTimer, useTimer, hasTimer, Ne.symm differs]
      · simp [updateClock, osRemoveTimer, useTimer,
          bActive, hasTimer, Ne.symm differs]
  · rw [if_neg changed]
    exact ⟨_, rfl, kept⟩

/-- A device without a timer gets one that is stopped, or none. -/
theorem sgxUpdateTimingInfo_none
    (services : SgxServices)
    (orderly : Orderly psDevInfo)
    (noTimer : psDevInfo.hTimer = none) :
    ∃ eError left,
      sgxUpdateTimingInfo services psDevInfo = (eError, left) ∧
        Orderly left ∧
          (if eError = pvrsrvOk then left.bActive = some false
            else left.hTimer = none) := by
  rw [sgxUpdateTimingInfo, noTimer]
  rcases osAddTimer_spec psDevInfo with failed | ⟨ui32i, _, added⟩
  · rw [failed]
    exact ⟨pvrsrvErrorOutOfMemory, _, rfl, orderly, noTimer⟩
  · rw [added]
    refine ⟨pvrsrvOk, _, rfl, ⟨orderly.uses, ?_⟩, ?_⟩
    · intro other isOther
      obtain rfl : ui32i = other := Option.some.inj isOther
      simp [updateClock]
    · simp [updateClock, bActive]

/-! ## The callbacks of the device -/

/-- SGX leaves the state on with its timer stopped. -/
theorem sgxPrePowerState_leaves
    {eNewPowerState : PvrsrvDevPowerState}
    (orderly : Orderly psDevInfo)
    (active : Active psDevInfo)
    (leaves : eNewPowerState ≠ .on)
    (scheduled : services.sgxScheduleCCBCommand = pvrsrvOk)
    (deinitialised :
      eNewPowerState = .off → services.sgxDeinitialise = pvrsrvOk) :
    ∃ left,
      sgxPrePowerState services eNewPowerState .on psDevInfo =
          (pvrsrvOk, left) ∧
        Orderly left ∧ left.bActive = some false := by
  refine ⟨osDisableTimer psDevInfo, ?_, osDisableTimer_spec orderly active⟩
  rw [sgxPrePowerState, if_pos ⟨leaves, leaves⟩]
  dsimp only
  rw [if_neg (not_not_intro scheduled)]
  by_cases off : eNewPowerState = .off
  · rw [if_pos off, deinitialised off]
  · rw [if_neg off]

theorem sgxPrePowerState_on (eCurrentPowerState : PvrsrvDevPowerState) :
    sgxPrePowerState services .on eCurrentPowerState psDevInfo =
      (pvrsrvOk, psDevInfo) :=
  if_neg fun arrives => arrives.2 rfl

theorem sgxPostPowerState_leaves (eNewPowerState : PvrsrvDevPowerState) :
    sgxPostPowerState services eNewPowerState .on psDevInfo =
      (pvrsrvOk, psDevInfo) :=
  if_neg fun arrives => arrives.2 rfl

/-- SGX comes to the state on with its timer started, or its timer stays
stopped. -/
theorem sgxPostPowerState_arrives
    {eCurrentPowerState : PvrsrvDevPowerState}
    (services : SgxServices)
    (orderly : Orderly psDevInfo)
    (inactive : ¬Active psDevInfo)
    (arrives : eCurrentPowerState ≠ .on)
    (hasTimer : eCurrentPowerState ≠ .off → psDevInfo.hTimer ≠ none) :
    ∃ eError left,
      sgxPostPowerState services .on eCurrentPowerState psDevInfo =
          (eError, left) ∧
        Orderly left ∧ (Active left ↔ eError = pvrsrvOk) ∧
          (eCurrentPowerState ≠ .off → left.hTimer ≠ none) := by
  have stoppedOf : psDevInfo.hTimer ≠ none →
      psDevInfo.bActive = some false := by
    intro hasOne
    cases timer : psDevInfo.bActive with
    | none => exact absurd (bActive_eq_none.mp timer) hasOne
    | some active =>
      cases active with
      | false => rfl
      | true => exact absurd timer inactive
  have notActive : ∀ {left : SgxDevInfo}, left.bActive = some false →
      ∀ {eError : PvrsrvError}, eError ≠ pvrsrvOk →
        (Active left ↔ eError = pvrsrvOk) := by
    intro left stopped eError failed
    exact iff_of_false (by simp [Active, stopped]) failed
  rw [sgxPostPowerState, if_pos ⟨Ne.symm arrives, arrives⟩]
  by_cases off : eCurrentPowerState = .off
  · rw [if_pos off]
    have ends : ∀ left, Orderly left → left.bActive = some false →
        ∃ eError after,
          (if services.sgxInitialise ≠ pvrsrvOk then
              (services.sgxInitialise, left)
            else (pvrsrvOk, sgxStartTimer left)) = (eError, after) ∧
            Orderly after ∧ (Active after ↔ eError = pvrsrvOk) ∧
              (eCurrentPowerState ≠ .off → after.hTimer ≠ none) := by
      intro left leftOrderly stopped
      by_cases failed : services.sgxInitialise ≠ pvrsrvOk
      · rw [if_pos failed]
        exact ⟨_, left, rfl, leftOrderly, notActive stopped failed, absurd off⟩
      · obtain ⟨started, active⟩ := osEnableTimer_spec leftOrderly stopped
        rw [if_neg failed]
        exact ⟨_, _, rfl, started, iff_of_true active rfl, absurd off⟩
    cases timer : psDevInfo.hTimer with
    | none =>
      obtain ⟨eError, left, updated, leftOrderly, leftTimer⟩ :=
        sgxUpdateTimingInfo_none services orderly timer
      rw [updated]
      dsimp only
      by_cases failed : eError = pvrsrvOk
      · rw [if_pos failed] at leftTimer
        rw [if_neg (not_not_intro failed)]
        exact ends left leftOrderly leftTimer
      · rw [if_neg failed] at leftTimer
        rw [if_pos failed]
        have leftInactive : ¬Active left := by
          simp [Active, bActive, leftTimer]
        exact ⟨_, left, rfl, leftOrderly,
          iff_of_false leftInactive failed, absurd off⟩
    | some hTimer =>
      have stopped := stoppedOf (by rw [timer]; simp)
      obtain ⟨left, updated, leftOrderly, leftStopped⟩ :=
        sgxUpdateTimingInfo_stopped services orderly stopped
      rw [updated]
      exact ends left leftOrderly leftStopped
  · rw [if_neg off]
    have stopped := stoppedOf (hasTimer off)
    by_cases failed : services.sgxScheduleCCBCommand ≠ pvrsrvOk
    · rw [if_pos failed]
      exact ⟨_, _, rfl, orderly, notActive stopped failed, hasTimer⟩
    · obtain ⟨started, active⟩ := osEnableTimer_spec orderly stopped
      rw [if_neg failed]
      exact ⟨_, _, rfl, started, iff_of_true active rfl, hasTimer⟩

end Timer

/-! ## Between the steps -/

/-- SGX is in the list of power devices, with its callbacks. -/
structure Registered (sgx : Address) (psSysData : SysData) : Prop where
  listed : sgx ∈ psSysData.psPowerDeviceList
  once : psSysData.psPowerDeviceList.Nodup
  prePower : (psSysData.psPowerDevice sgx).pfnPrePower.isSome
  postPower : (psSysData.psPowerDevice sgx).pfnPostPower.isSome
  default : (psSysData.psPowerDevice sgx).eDefaultPowerState = .off

/-- The timer is active just when SGX is recorded as on. -/
structure Settled
    (sgx : Address) (psSysData : SysData) (psDevInfo : SgxDevInfo) :
    Prop where
  registered : Registered sgx psSysData
  orderly : Orderly psDevInfo
  hasTimer : recorded sgx psSysData ≠ .off → psDevInfo.hTimer ≠ none
  follows : Active psDevInfo ↔ recorded sgx psSysData = .on

/-- The timer is stopped for SGX to leave the state on. -/
structure Stopped
    (sgx : Address) (psSysData : SysData) (psDevInfo : SgxDevInfo) :
    Prop where
  registered : Registered sgx psSysData
  orderly : Orderly psDevInfo
  on : recorded sgx psSysData = .on
  stopped : psDevInfo.bActive = some false

/-- What the records say of SGX has not changed. -/
structure Unmoved (sgx : Address) (before after : SysData) : Prop where
  list : after.psPowerDeviceList = before.psPowerDeviceList
  device : after.psPowerDevice sgx = before.psPowerDevice sgx

section Between

variable {sgx : Address} {before after : SysData} {psDevInfo : SgxDevInfo}

theorem Unmoved.trans
    {last : SysData}
    (first : Unmoved sgx before after)
    (second : Unmoved sgx after last) :
    Unmoved sgx before last :=
  ⟨second.list.trans first.list, second.device.trans first.device⟩

theorem Unmoved.recorded
    (unmoved : Unmoved sgx before after) :
    recorded sgx after = recorded sgx before :=
  congrArg PvrsrvPowerDev.eCurrentPowerState unmoved.device

theorem Registered.congr
    (registered : Registered sgx before)
    (unmoved : Unmoved sgx before after) :
    Registered sgx after := by
  obtain ⟨listed, once, prePower, postPower, default⟩ := registered
  refine ⟨?_, ?_, ?_, ?_, ?_⟩
  · rw [unmoved.list]
    exact listed
  · rw [unmoved.list]
    exact once
  · rw [unmoved.device]
    exact prePower
  · rw [unmoved.device]
    exact postPower
  · rw [unmoved.device]
    exact default

theorem Settled.congr
    (settled : Settled sgx before psDevInfo)
    (unmoved : Unmoved sgx before after) :
    Settled sgx after psDevInfo := by
  refine ⟨settled.registered.congr unmoved, settled.orderly, ?_, ?_⟩
  · rw [unmoved.recorded]
    exact settled.hasTimer
  · rw [unmoved.recorded]
    exact settled.follows

theorem Stopped.congr
    (stopped : Stopped sgx before psDevInfo)
    (unmoved : Unmoved sgx before after) :
    Stopped sgx after psDevInfo := by
  refine ⟨stopped.registered.congr unmoved, stopped.orderly, ?_,
    stopped.stopped⟩
  rw [unmoved.recorded]
  exact stopped.on

theorem Stopped.paused (stopped : Stopped sgx before psDevInfo) :
    Paused sgx before psDevInfo := by
  refine ⟨stopped.on, ?_⟩
  rw [Active, stopped.stopped]
  simp

/-- A device other than SGX is recorded in another state. -/
theorem unmoved_setCurrentPowerState
    {psPowerDevice : Address}
    (other : psPowerDevice ≠ sgx)
    (eNewPowerState : PvrsrvDevPowerState) :
    Unmoved sgx before
      (before.setCurrentPowerState psPowerDevice eNewPowerState) :=
  ⟨rfl, Function.update_of_ne (Ne.symm other) ..⟩

end Between

/-! ## The pass before a transition -/

/-- The answers of a run of power functions. -/
abbrev powerServing (sgx : Address) :
    Serving SysData PowerCallback PvrsrvError SgxDevInfo :=
  fun callback => sgxServing sgx (Smooth sgx) (.power callback)

/-- A callback that may stop a transition and does not reach SGX. -/
def Foreign (sgx : Address) : PowerCallback → Prop
  | .pfnPrePower psPowerDevice _ _ _ _ => psPowerDevice ≠ sgx
  | .pfnPostPower psPowerDevice _ _ _ _ => psPowerDevice ≠ sgx
  | .sysDevicePrePowerState _ _ _ _ => True
  | .sysDevicePostPowerState _ _ _ _ => True
  | .sysSystemPrePowerState _ => True
  | .sysSystemPostPowerState _ => True
  | _ => False

section

variable (sgx : Address) (bAllDevices : Bool) (ui32DeviceIndex : BitVec 32)
  (eNewPowerState : PvrsrvDevPowerState)

/-- The request makes SGX leave the state on. -/
def Leaves
    (psSysData : SysData) : Prop :=
  recorded sgx psSysData = .on ∧
    (psSysData.psPowerDevice sgx).addressed bAllDevices ui32DeviceIndex ∧
      (psSysData.psPowerDevice sgx).eNewDevicePowerState eNewPowerState ≠ .on

/-- SGX is ready for the pass after the transition. -/
def Prepared
    (psSysData : SysData)
    (psDevInfo : SgxDevInfo) : Prop :=
  (Leaves sgx bAllDevices ui32DeviceIndex eNewPowerState psSysData →
      Stopped sgx psSysData psDevInfo) ∧
    (¬Leaves sgx bAllDevices ui32DeviceIndex eNewPowerState psSysData →
      Settled sgx psSysData psDevInfo)

end

theorem Prepared.registered
    {sgx : Address}
    {bAllDevices : Bool}
    {ui32DeviceIndex : BitVec 32}
    {eNewPowerState : PvrsrvDevPowerState}
    {psSysData : SysData}
    {psDevInfo : SgxDevInfo}
    (prepared : Prepared sgx bAllDevices ui32DeviceIndex eNewPowerState
      psSysData psDevInfo) :
    Registered sgx psSysData ∧ Orderly psDevInfo := by
  by_cases leaves : Leaves sgx bAllDevices ui32DeviceIndex eNewPowerState
      psSysData
  · have stopped := prepared.1 leaves
    exact ⟨stopped.registered, stopped.orderly⟩
  · have settled := prepared.2 leaves
    exact ⟨settled.registered, settled.orderly⟩

section Passes

variable {sgx psPowerDevice : Address} {bAllDevices : Bool}
  {ui32DeviceIndex : BitVec 32} {eNewPowerState : PvrsrvDevPowerState}
  {world after : World SysData (BitVec 32) SgxDevInfo}
  {post : PvrsrvError → World SysData (BitVec 32) SgxDevInfo → Prop}
  {callback : PowerCallback} {devices : List Address} {psSysData : SysData}
  {psDevInfo : SgxDevInfo}

theorem ensures_foreign
    (foreign : Foreign sgx callback)
    (answered : ∀ eError,
      (Paused sgx world.shared world.outside → eError = pvrsrvOk) →
        post eError world) :
    (invoke callback).Ensures (powerServing sgx) world post := by
  rw [ensures_invoke]
  rintro eError left ⟨services, smooth, answers⟩
  cases callback with
  | pfnPrePower psPowerDevice _ _ _ _ | pfnPostPower psPowerDevice _ _ _ _ =>
    obtain rfl := (if_neg foreign).mp answers
    exact answered eError ((if_neg foreign).mp smooth)
  | sysDevicePrePowerState _ _ _ _ | sysDevicePostPowerState _ _ _ _
  | sysSystemPrePowerState _ | sysSystemPostPowerState _ =>
    cases answers
    exact answered eError smooth
  | _ => cases foreign

/-- A callback that is for no device leaves the timer alone. -/
theorem ensures_general
    (general : callback.movedDevice = none)
    (answered : ∀ eError, post eError world) :
    (invoke callback).Ensures (powerServing sgx) world post := by
  rw [ensures_invoke]
  rintro eError left ⟨services, -, answers⟩
  cases callback with
  | pfnPrePower _ _ _ _ _ => cases general
  | pfnPostPower _ _ _ _ _ => cases general
  | _ =>
    cases answers
    exact answered eError

section

variable (answered : ∀ eError,
  (Paused sgx world.shared world.outside → eError = pvrsrvOk) →
    post eError world)
include answered

theorem ensures_powerDevCallback
    {pfnCallBack : Option (BitVec 64)}
    {callback : BitVec 64 → PowerCallback}
    (foreign : ∀ pfnCallBack, Foreign sgx (callback pfnCallBack)) :
    (powerDevCallback pfnCallBack callback).Ensures (powerServing sgx) world
      post := by
  cases pfnCallBack with
  | none => exact answered pvrsrvOk fun _ => rfl
  | some pfnCallBack => exact ensures_foreign (foreign pfnCallBack) answered

/-- The preparation of another device leaves SGX alone. -/
theorem ensures_pre_other
    (other : psPowerDevice ≠ sgx) :
    (devicePrePowerStateAnyVaCb bAllDevices ui32DeviceIndex eNewPowerState
      psPowerDevice).Ensures (powerServing sgx) world post := by
  rw [devicePrePowerStateAnyVaCb, ensures_bind, ensures_get]
  dsimp only
  split
  · rw [ensures_bind]
    refine ensures_powerDevCallback (fun eError ok => ?_) fun _ => other
    split
    · exact ensures_foreign trivial answered
    · exact answered eError ok
  · exact answered pvrsrvOk fun _ => rfl

theorem ensures_list_pre_other
    (others : sgx ∉ devices) :
    (listPowerDevAnyVa
      (devicePrePowerStateAnyVaCb bAllDevices ui32DeviceIndex eNewPowerState)
      devices).Ensures (powerServing sgx) world post := by
  induction devices with
  | nil => exact answered pvrsrvOk fun _ => rfl
  | cons first rest ih =>
    rw [List.mem_cons, not_or] at others
    rw [listPowerDevAnyVa, ensures_bind]
    refine ensures_pre_other (fun eError ok => ?_) (Ne.symm others.1)
    split
    · exact ih others.2
    · exact answered eError ok

end

theorem powerDevCallback_some
    (pfnCallBack : BitVec 64) (callback : BitVec 64 → PowerCallback) :
    powerDevCallback (some pfnCallBack) callback =
      invoke (callback pfnCallBack) :=
  rfl

section

variable (settled : Settled sgx world.shared world.outside)
  (stays : ¬Leaves sgx bAllDevices ui32DeviceIndex eNewPowerState
    world.shared → ∀ eError, post eError world)
  (leaves : Leaves sgx bAllDevices ui32DeviceIndex eNewPowerState
    world.shared → ∀ left, Stopped sgx world.shared left →
      post pvrsrvOk (world.served left))
include settled stays leaves

/-- SGX prepares: it stops its timer if it leaves the state on. -/
theorem ensures_pre_sgx :
    (devicePrePowerStateAnyVaCb bAllDevices ui32DeviceIndex eNewPowerState
      sgx).Ensures (powerServing sgx) world post := by
  obtain ⟨pfnPrePower, isCallback⟩ :=
    Option.isSome_iff_exists.mp settled.registered.prePower
  rw [devicePrePowerStateAnyVaCb, ensures_bind, ensures_get]
  dsimp only
  rw [isCallback, powerDevCallback_some]
  by_cases moves :
      (world.shared.psPowerDevice sgx).addressed bAllDevices
          ui32DeviceIndex ∧
        (world.shared.psPowerDevice sgx).eCurrentPowerState ≠
          (world.shared.psPowerDevice sgx).eNewDevicePowerState eNewPowerState
  · rw [if_pos moves, ensures_bind, ensures_invoke]
    rintro eError left ⟨services, smooth, answers⟩
    have prepares := (if_pos rfl).mp answers
    obtain ⟨toOrFromOn, nothingFails⟩ := (if_pos rfl).mp smooth
    by_cases arrives :
        (world.shared.psPowerDevice sgx).eNewDevicePowerState
          eNewPowerState = .on
    · rw [arrives, sgxPrePowerState_on] at prepares
      cases prepares
      have notLeaves : ¬Leaves sgx bAllDevices ui32DeviceIndex eNewPowerState
          world.shared := fun leaves => leaves.2.2 arrives
      rw [if_pos rfl]
      exact ensures_foreign trivial fun eError _ => stays notLeaves eError
    · have on := toOrFromOn.resolve_left arrives
      obtain ⟨scheduled, deinitialised⟩ := nothingFails arrives
      obtain ⟨stopped, prepared, orderly, inactive⟩ :=
        sgxPrePowerState_leaves settled.orderly (settled.follows.mpr on)
          arrives scheduled deinitialised
      rw [on, prepared, Prod.mk.injEq] at prepares
      obtain ⟨rfl, rfl⟩ := prepares
      have isStopped : Stopped sgx world.shared stopped :=
        ⟨settled.registered, orderly, on, inactive⟩
      rw [if_pos rfl]
      refine ensures_foreign trivial fun eError ok => ?_
      rw [ok isStopped.paused]
      exact leaves ⟨on, moves.1, arrives⟩ stopped isStopped
  · rw [if_neg moves]
    refine stays ?_ pvrsrvOk
    rintro ⟨on, addressed, leaves⟩
    refine moves ⟨addressed, ?_⟩
    intro same
    exact leaves (same.symm.trans on)

theorem ensures_list_pre
    (listed : sgx ∈ devices)
    (once : devices.Nodup)
    (failed : ∀ eError, eError ≠ pvrsrvOk → post eError world) :
    (listPowerDevAnyVa
      (devicePrePowerStateAnyVaCb bAllDevices ui32DeviceIndex eNewPowerState)
      devices).Ensures (powerServing sgx) world post := by
  induction devices with
  | nil => cases listed
  | cons first rest ih =>
    obtain ⟨notRest, restOnce⟩ := List.nodup_cons.mp once
    rw [listPowerDevAnyVa, ensures_bind]
    by_cases isSgx : first = sgx
    · rw [isSgx] at notRest ⊢
      refine ensures_pre_sgx settled ?_ ?_
      · intro notLeaves eError
        split
        · exact ensures_list_pre_other
            (fun eError _ => stays notLeaves eError) notRest
        · exact stays notLeaves eError
      · intro isLeaving left stopped
        rw [if_pos rfl]
        refine ensures_list_pre_other (fun eError ok => ?_) notRest
        rw [ok stopped.paused]
        exact leaves isLeaving left stopped
    · have inRest : sgx ∈ rest :=
        (List.mem_cons.mp listed).resolve_left (Ne.symm isSgx)
      refine ensures_pre_other (fun eError _ => ?_) isSgx
      split
      · exact ih inRest restOnce
      · next unsuccessful => exact failed eError unsuccessful

end

/-- The pass before a transition fails with everything as it was, or makes SGX
ready for the pass after the transition. -/
theorem ensures_devicePrePowerState
    (settled : Settled sgx world.shared world.outside)
    (failed : ∀ eError, eError ≠ pvrsrvOk → post eError world)
    (ready : ∀ left,
      Prepared sgx bAllDevices ui32DeviceIndex eNewPowerState world.shared
        left → post pvrsrvOk (world.served left)) :
    (devicePrePowerState bAllDevices ui32DeviceIndex
      eNewPowerState).Ensures (powerServing sgx) world post := by
  rw [devicePrePowerState, ensures_bind, ensures_get]
  refine ensures_list_pre settled ?_ ?_ settled.registered.listed
    settled.registered.once failed
  · intro notLeaves eError
    by_cases ok : eError = pvrsrvOk
    · rw [ok]
      exact ready world.outside
        ⟨fun leaves => absurd leaves notLeaves, fun _ => settled⟩
    · exact failed eError ok
  · intro isLeaving left stopped
    exact ready left
      ⟨fun _ => stopped, fun notLeaves => absurd isLeaving notLeaves⟩

/-! ## The pass after a transition -/

/-- Another device was recorded in another state. -/
structure Beside
    (sgx : Address) (world after : World SysData (BitVec 32) SgxDevInfo) :
    Prop where
  resource : after.resource = world.resource
  system :
    after.shared.eCurrentPowerState = world.shared.eCurrentPowerState
  outside : after.outside = world.outside
  unmoved : Unmoved sgx world.shared after.shared

theorem Beside.refl
    (sgx : Address) (world : World SysData (BitVec 32) SgxDevInfo) :
    Beside sgx world world :=
  ⟨rfl, rfl, rfl, ⟨rfl, rfl⟩⟩

theorem Beside.trans
    {last : World SysData (BitVec 32) SgxDevInfo}
    (first : Beside sgx world after)
    (second : Beside sgx after last) :
    Beside sgx world last :=
  ⟨second.resource.trans first.resource, second.system.trans first.system,
    second.outside.trans first.outside, first.unmoved.trans second.unmoved⟩

theorem Beside.prepared
    (beside : Beside sgx world after)
    (prepared : Prepared sgx bAllDevices ui32DeviceIndex eNewPowerState
      world.shared world.outside) :
    Prepared sgx bAllDevices ui32DeviceIndex eNewPowerState after.shared
      after.outside := by
  have leavesEq :
      Leaves sgx bAllDevices ui32DeviceIndex eNewPowerState after.shared =
        Leaves sgx bAllDevices ui32DeviceIndex eNewPowerState
          world.shared := by
    rw [Leaves, Leaves, beside.unmoved.recorded, beside.unmoved.device]
  rw [Prepared, leavesEq, beside.outside]
  exact ⟨fun leaves => (prepared.1 leaves).congr beside.unmoved,
    fun notLeaves => (prepared.2 notLeaves).congr beside.unmoved⟩

/-- SGX is settled if it is ready and its timer is not stopped. -/
theorem Prepared.settled
    (prepared : Prepared sgx bAllDevices ui32DeviceIndex eNewPowerState
      psSysData psDevInfo)
    (notPaused : ¬Paused sgx psSysData psDevInfo) :
    Settled sgx psSysData psDevInfo :=
  prepared.2 fun leaves => notPaused (prepared.1 leaves).paused

/-- The transition of another device leaves SGX alone. -/
theorem ensures_post_other
    (other : psPowerDevice ≠ sgx)
    (ends : ∀ eError after, Beside sgx world after →
      (Paused sgx world.shared world.outside → eError = pvrsrvOk) →
        post eError after) :
    (devicePostPowerStateAnyVaCb bAllDevices ui32DeviceIndex eNewPowerState
      psPowerDevice).Ensures (powerServing sgx) world post := by
  have stays : ∀ eError,
      (Paused sgx world.shared world.outside → eError = pvrsrvOk) →
        post eError world :=
    fun eError => ends eError world (Beside.refl sgx world)
  rw [devicePostPowerStateAnyVaCb, ensures_bind, ensures_get]
  dsimp only
  split
  · rw [ensures_bind]
    refine ensures_foreign trivial fun eError ok => ?_
    split
    · rw [ensures_bind]
      refine ensures_powerDevCallback (fun eError ok => ?_) fun _ => other
      split
      · rw [ensures_bind, ensures_modify]
        exact ends pvrsrvOk _
          ⟨rfl, rfl, rfl, unmoved_setCurrentPowerState other _⟩ fun _ => rfl
      · exact stays eError ok
    · exact stays eError ok
  · exact stays pvrsrvOk fun _ => rfl

theorem ensures_list_post_other
    (others : sgx ∉ devices)
    (ends : ∀ eError after, Beside sgx world after → post eError after) :
    (listPowerDevAnyVa
      (devicePostPowerStateAnyVaCb bAllDevices ui32DeviceIndex eNewPowerState)
      devices).Ensures (powerServing sgx) world post := by
  induction devices generalizing world with
  | nil => exact ends pvrsrvOk world (Beside.refl sgx world)
  | cons first rest ih =>
    rw [List.mem_cons, not_or] at others
    rw [listPowerDevAnyVa, ensures_bind]
    refine ensures_post_other (Ne.symm others.1)
      fun eError after beside _ => ?_
    split
    · exact ih others.2 fun eError last restBeside =>
        ends eError last (beside.trans restBeside)
    · exact ends eError after beside

/-- A transition has ended: the lock is held as before, the system is recorded
as before, and SGX is settled. -/
structure Followed
    (sgx : Address) (world after : World SysData (BitVec 32) SgxDevInfo) :
    Prop where
  resource : after.resource = world.resource
  system :
    after.shared.eCurrentPowerState = world.shared.eCurrentPowerState
  settled : Settled sgx after.shared after.outside

theorem Registered.setCurrentPowerState
    (registered : Registered sgx psSysData)
    (eNewPowerState : PvrsrvDevPowerState) :
    Registered sgx (psSysData.setCurrentPowerState sgx eNewPowerState) := by
  obtain ⟨listed, once, prePower, postPower, default⟩ := registered
  have device :
      (psSysData.setCurrentPowerState sgx eNewPowerState).psPowerDevice sgx =
        { psSysData.psPowerDevice sgx with
          eCurrentPowerState := eNewPowerState } :=
    Function.update_self ..
  refine ⟨listed, once, ?_, ?_, ?_⟩
  · rw [device]
    exact prePower
  · rw [device]
    exact postPower
  · rw [device]
    exact default

theorem recorded_setCurrentPowerState
    (psSysData : SysData) (eNewPowerState : PvrsrvDevPowerState) :
    recorded sgx (psSysData.setCurrentPowerState sgx eNewPowerState) =
      eNewPowerState := by
  rw [recorded, SysData.setCurrentPowerState]
  dsimp only
  rw [Function.update_self]

/-- SGX is recorded in a new state. -/
theorem Registered.settled
    (registered : Registered sgx psSysData)
    (orderly : Orderly psDevInfo)
    (hasTimer : psDevInfo.bActive ≠ none)
    (follows : Active psDevInfo ↔ eNewPowerState = .on) :
    Settled sgx (psSysData.setCurrentPowerState sgx eNewPowerState)
      psDevInfo := by
  refine ⟨registered.setCurrentPowerState _, orderly, fun _ => ?_, ?_⟩
  · exact mt bActive_eq_none.mpr hasTimer
  · rw [recorded_setCurrentPowerState]
    exact follows

variable
    (prepared : Prepared sgx bAllDevices ui32DeviceIndex eNewPowerState
      world.shared world.outside)
    (ends : ∀ eError after, Followed sgx world after → post eError after)
include prepared ends

/-- SGX makes its transition and is settled, whether it succeeds or not. -/
theorem ensures_post_sgx :
    (devicePostPowerStateAnyVaCb bAllDevices ui32DeviceIndex eNewPowerState
      sgx).Ensures (powerServing sgx) world post := by
  have stays : ∀ eError, ¬Paused sgx world.shared world.outside →
      post eError world :=
    fun eError notPaused =>
      ends eError world ⟨rfl, rfl, prepared.settled notPaused⟩
  have registered := prepared.registered.1
  obtain ⟨pfnPostPower, isCallback⟩ :=
    Option.isSome_iff_exists.mp registered.postPower
  rw [devicePostPowerStateAnyVaCb, ensures_bind, ensures_get]
  dsimp only
  rw [isCallback, powerDevCallback_some]
  by_cases moves :
      (world.shared.psPowerDevice sgx).addressed bAllDevices
          ui32DeviceIndex ∧
        (world.shared.psPowerDevice sgx).eCurrentPowerState ≠
          (world.shared.psPowerDevice sgx).eNewDevicePowerState eNewPowerState
  · rw [if_pos moves, ensures_bind]
    refine ensures_foreign trivial fun eError ok => ?_
    by_cases failed : eError = pvrsrvOk
    · rw [if_pos failed, ensures_bind, ensures_invoke]
      rintro eError left ⟨services, smooth, answers⟩
      have follows := (if_pos rfl).mp answers
      have toOrFromOn := (if_pos rfl).mp smooth
      by_cases on : (world.shared.psPowerDevice sgx).eCurrentPowerState = .on
      · -- SGX leaves the state on with its timer stopped.
        have leaves : (world.shared.psPowerDevice sgx).eNewDevicePowerState
            eNewPowerState ≠ .on := by
          intro same
          exact moves.2 (on.trans same.symm)
        have stopped := prepared.1 ⟨on, moves.1, leaves⟩
        rw [on, sgxPostPowerState_leaves] at follows
        cases follows
        rw [if_pos rfl, ensures_bind, ensures_modify]
        have hasTimer : world.outside.bActive ≠ none := by
          rw [stopped.stopped]
          simp
        exact ends pvrsrvOk _ ⟨rfl, rfl,
          registered.settled stopped.orderly hasTimer
            (iff_of_false stopped.paused.2 leaves)⟩
      · -- SGX comes to the state on.
        have arrives := toOrFromOn.resolve_right on
        have settled := prepared.2 fun leaves => on leaves.1
        obtain ⟨result, after, posted, orderly, started, keepsTimer⟩ :=
          sgxPostPowerState_arrives services settled.orderly
            (fun active => on (settled.follows.mp active)) on
            settled.hasTimer
        rw [arrives, posted, Prod.mk.injEq] at follows
        obtain ⟨rfl, rfl⟩ := follows
        by_cases failed : result = pvrsrvOk
        · rw [if_pos failed, ensures_bind, ensures_modify]
          have active : after.bActive = some true := started.mpr failed
          have hasTimer : after.bActive ≠ none := by
            rw [active]
            simp
          exact ends pvrsrvOk _ ⟨rfl, rfl,
            registered.settled orderly hasTimer (iff_of_true active arrives)⟩
        · rw [if_neg failed]
          exact ends result _ ⟨rfl, rfl, registered, orderly, keepsTimer,
            iff_of_false (mt started.mp failed) on⟩
    · rw [if_neg failed]
      exact stays eError fun paused => failed (ok paused)
  · rw [if_neg moves]
    have notLeaves : ¬Leaves sgx bAllDevices ui32DeviceIndex eNewPowerState
        world.shared := by
      rintro ⟨on, addressed, leaves⟩
      exact moves ⟨addressed, fun same => leaves (same.symm.trans on)⟩
    exact ends pvrsrvOk world ⟨rfl, rfl, prepared.2 notLeaves⟩

/-- The pass after a transition leaves SGX settled. -/
theorem ensures_list_post
    (listed : sgx ∈ devices)
    (once : devices.Nodup) :
    (listPowerDevAnyVa
      (devicePostPowerStateAnyVaCb bAllDevices ui32DeviceIndex eNewPowerState)
      devices).Ensures (powerServing sgx) world post := by
  induction devices generalizing world with
  | nil => cases listed
  | cons first rest ih =>
    obtain ⟨notRest, restOnce⟩ := List.nodup_cons.mp once
    rw [listPowerDevAnyVa, ensures_bind]
    by_cases isSgx : first = sgx
    · rw [isSgx] at notRest ⊢
      refine ensures_post_sgx prepared fun eError after followed => ?_
      split
      · refine ensures_list_post_other notRest
          fun eError last beside => ends eError last ⟨?_, ?_, ?_⟩
        · exact beside.resource.trans followed.resource
        · exact beside.system.trans followed.system
        · rw [beside.outside]
          exact followed.settled.congr beside.unmoved
      · exact ends eError after followed
    · have inRest : sgx ∈ rest :=
        (List.mem_cons.mp listed).resolve_left (Ne.symm isSgx)
      refine ensures_post_other isSgx fun eError after beside ok => ?_
      split
      · refine ih (beside.prepared prepared) (fun eError last followed =>
          ends eError last ⟨?_, ?_, followed.settled⟩) inRest restOnce
        · exact followed.resource.trans beside.resource
        · exact followed.system.trans beside.system
      · next unsuccessful =>
        have settled := prepared.settled
          fun paused => unsuccessful (ok paused)
        refine ends eError after ⟨beside.resource, beside.system, ?_⟩
        rw [beside.outside]
        exact settled.congr beside.unmoved

theorem ensures_devicePostPowerState :
    (devicePostPowerState bAllDevices ui32DeviceIndex
      eNewPowerState).Ensures (powerServing sgx) world post := by
  have registered := prepared.registered.1
  rw [devicePostPowerState, ensures_bind, ensures_get]
  exact ensures_list_post prepared ends registered.listed registered.once

end Passes

end PvrServices.Power.RecoveryTimer
