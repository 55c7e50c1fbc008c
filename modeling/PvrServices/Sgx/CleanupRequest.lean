import PvrServices.Resman.Base
import Mathlib.Data.Nat.Basic

/-!
# Clean-up requests to the microkernel

`SGXCleanupRequest` puts a CLEANUP command in the kernel CCB and polls one bit
of `ui32CleanupStatus`, which the microkernel sets after the command.  The bit
does not say which command was finished, and a call that times out leaves its
command behind.  The global lock of the services admits one call at a time.
-/

namespace PvrServices.SgxCleanup

open Resman

/-! ## Data -/

/-- `PVRSRV_ERROR_TIMEOUT`. -/
abbrev pvrsrvErrorTimeout : PvrsrvError := 9

/-- `PVRSRV_USSE_EDM_CLEANUPCMD_COMPLETE`. -/
abbrev cleanupcmdComplete : BitVec 32 := 1

/-- `SGXMKIF_CC_INVAL_DATA`. -/
abbrev ccInvalData : BitVec 32 := 8

/-- `PVRSRV_CLEANUPCMD_RC`. -/
abbrev cleanupcmdRC : BitVec 32 := 2

/-- `SGXMKIF_CMD_TYPE`. -/
inductive SgxmkifCmdType where
  | ta
  | transfer
  | twoD
  | power
  | contextsuspend
  | cleanup
  | getmiscinfo
  | processQueues
  | databreakpoint
  | sethwperfstatus
  | flushpdcache
deriving DecidableEq, Repr

/-- A `SGXMKIF_COMMAND` in the kernel CCB, with the type that selects its
service address. -/
structure SgxmkifCommand where
  eCmdType : SgxmkifCmdType
  ui32CacheControl : BitVec 32
  ui32Data : BitVec 32 × BitVec 32
deriving DecidableEq, Repr

/-- The parameters of a call of `SGXCleanupRequest`. -/
structure Request where
  psHWDataDevVAddr : Option (BitVec 32)
  ui32CleanupType : BitVec 32
  bForceCleanup : Bool
deriving DecidableEq, Repr

/-- The words of the command of a request. -/
def Request.ui32Data (request : Request) : BitVec 32 × BitVec 32 :=
  (request.ui32CleanupType, request.psHWDataDevVAddr.getD 0)

/-- Where the call in progress is.  A command is named by its place among all
commands that were scheduled. -/
inductive Call where
  | idle
  | polling (request : Request) (command : Nat)
  | clearing (request : Request) (command : Option Nat)
  | returned
      (request : Request)
      (command : Option Nat)
      (eError : PvrsrvError)
deriving DecidableEq, Repr

/-- The device.  `commands` are all commands that were put in the kernel CCB,
of which the microkernel has finished the first `finished`; `signalled` are the
CLEANUP commands for which it has set the bit. -/
structure Device where
  commands : List SgxmkifCommand
  finished : Nat
  signalled : List Nat
  ui32CleanupStatus : BitVec 32
  ui32CacheControl : BitVec 32
  call : Call
deriving DecidableEq, Repr

/-- The device after its initialisation. -/
def initialDevice : Device where
  commands := []
  finished := 0
  signalled := []
  ui32CleanupStatus := 0
  ui32CacheControl := 0
  call := .idle

/-! ## Steps -/

/-- `SGXScheduleCCBCommand` once it has a slot. -/
def Device.scheduleCCBCommand
    (device : Device)
    (eCmdType : SgxmkifCmdType)
    (ui32Data : BitVec 32 × BitVec 32) :
    Device :=
  { device with
    commands := device.commands ++
      [⟨eCmdType, device.ui32CacheControl, ui32Data⟩]
    ui32CacheControl := 0 }

/-- `SGXCleanupRequest` up to the poll; `eError` is what
`SGXScheduleCCBCommandKM` returns. -/
def Device.cleanupRequest
    (device : Device)
    (request : Request)
    (eError : PvrsrvError) :
    Device :=
  if request.bForceCleanup then
    { device with call := .clearing request none }
  else if eError ≠ pvrsrvOk then
    { device with call := .returned request none eError }
  else
    { device.scheduleCCBCommand .cleanup request.ui32Data with
      call := .polling request device.commands.length }

/-- One round of the loop of `PollForValueKM`. -/
def Device.poll (device : Device) : Option Device :=
  match device.call with
  | .polling request command =>
    if device.ui32CleanupStatus &&& cleanupcmdComplete =
        cleanupcmdComplete then
      some { device with call := .clearing request (some command) }
    else
      some device
  | _ => none

/-- The loop of `PollForValueKM` runs out of time. -/
def Device.timeout (device : Device) : Option Device :=
  match device.call with
  | .polling request command =>
    some { device with
      call := .returned request (some command) pvrsrvErrorTimeout }
  | _ => none

/-- `SGXCleanupRequest` after the poll.  A signal between the read and the
write of the status is lost, like one just before them. -/
def Device.clearStatus (device : Device) : Option Device :=
  match device.call with
  | .clearing request command =>
    some { device with
      ui32CleanupStatus := device.ui32CleanupStatus &&& ~~~cleanupcmdComplete
      ui32CacheControl := device.ui32CacheControl ||| ccInvalData
      call := .returned request command pvrsrvOk }
  | _ => none

/-- A command is a CLEANUP command. -/
def Device.IsCleanup (device : Device) (command : Nat) : Prop :=
  (device.commands[command]?.map (·.eCmdType)) = some .cleanup

instance (device : Device) (command : Nat) :
    Decidable (device.IsCleanup command) :=
  inferInstanceAs (Decidable (_ = _))

/-- What the host and the microkernel do.  The commands of other callers and
the cache bits the MMU asks for come at any time. -/
inductive Label where
  | request (request : Request) (eError : PvrsrvError)
  | poll
  | timeout
  | clearStatus
  | leave
  | schedule (eCmdType : SgxmkifCmdType) (ui32Data : BitVec 32 × BitVec 32)
  | invalidate (ui32CacheControl : BitVec 32)
  | finish
  | signal (command : Nat)
deriving DecidableEq, Repr

/-- One step.  The microkernel finishes the commands in order, and sets the
bit once for each CLEANUP command, at any time after it has finished it. -/
def Device.step (device : Device) : Label → Option Device
  | .request request eError =>
    if device.call = .idle then
      some (device.cleanupRequest request eError)
    else
      none
  | .poll => device.poll
  | .timeout => device.timeout
  | .clearStatus => device.clearStatus
  | .leave =>
    match device.call with
    | .returned _ _ _ => some { device with call := .idle }
    | _ => none
  | .schedule eCmdType ui32Data =>
    if eCmdType = .cleanup then none
    else some (device.scheduleCCBCommand eCmdType ui32Data)
  | .invalidate ui32CacheControl =>
    some { device with
      ui32CacheControl := device.ui32CacheControl ||| ui32CacheControl }
  | .finish =>
    if device.finished < device.commands.length then
      some { device with finished := device.finished + 1 }
    else
      none
  | .signal command =>
    if device.IsCleanup command ∧ command < device.finished ∧
        command ∉ device.signalled then
      some { device with
        ui32CleanupStatus := device.ui32CleanupStatus ||| cleanupcmdComplete
        signalled := command :: device.signalled }
    else
      none

/-- The devices that steps of a kind lead to. -/
inductive Reachable (condition : Device → Label → Prop) : Device → Prop
  | initial : Reachable condition initialDevice
  | step {device next : Device}
      (label : Label)
      (reached : Reachable condition device)
      (meets : condition device label)
      (performed : device.step label = some next) :
      Reachable condition next

/-- A call that was not forced returns success only after the microkernel has
finished the CLEANUP command of that call. -/
def Device.ReturnsAfterFinished (device : Device) : Prop :=
  ∀ request command,
    device.call = .returned request command pvrsrvOk →
    request.bForceCleanup = false →
      ∃ place data, command = some place ∧
        device.commands[place]? = some data ∧
        data.eCmdType = .cleanup ∧
        data.ui32Data = request.ui32Data ∧
        place < device.finished

/-- The bit is clear and will stay clear: the microkernel has signalled every
CLEANUP command. -/
def Device.Quiet (device : Device) : Prop :=
  device.ui32CleanupStatus &&& cleanupcmdComplete = 0 ∧
    ∀ command, device.IsCleanup command → command ∈ device.signalled

/-- A call that is not forced is made on a quiet device. -/
def RequestsQuiet (device : Device) : Label → Prop
  | .request request _ => request.bForceCleanup = false → device.Quiet
  | _ => True

/-! ## The invariant -/

/-- The command of a request is at a place. -/
def Device.HasCommand
    (device : Device)
    (request : Request)
    (place : Nat) :
    Prop :=
  ∃ data, device.commands[place]? = some data ∧
    data.eCmdType = .cleanup ∧ data.ui32Data = request.ui32Data

/-- What is known of the call in progress. -/
def Device.CallMatches (device : Device) : Prop :=
  match device.call with
  | .idle => True
  | .polling request command =>
    device.HasCommand request command ∧
      (device.ui32CleanupStatus &&& cleanupcmdComplete =
        cleanupcmdComplete → command ∈ device.signalled) ∧
      ∀ other, device.IsCleanup other → other ≠ command →
        other ∈ device.signalled
  | .clearing request command =>
    request.bForceCleanup = false →
      ∃ place, command = some place ∧
        device.HasCommand request place ∧ place ∈ device.signalled
  | .returned request command eError =>
    eError = pvrsrvOk → request.bForceCleanup = false →
      ∃ place, command = some place ∧
        device.HasCommand request place ∧ place ∈ device.signalled

/-- The invariant of runs whose requests are made on a quiet device. -/
structure CleanupInvariant (device : Device) : Prop where
  finished_le : device.finished ≤ device.commands.length
  signalled : ∀ command ∈ device.signalled, command < device.finished
  callMatches : device.CallMatches

variable {device : Device}

theorem CleanupInvariant.returnsAfterFinished
    (invariant : CleanupInvariant device) :
    device.ReturnsAfterFinished := by
  intro request command isReturned notForced
  have callMatches := invariant.callMatches
  rw [Device.CallMatches, isReturned] at callMatches
  obtain ⟨place, isPlace, ⟨data, isData, isCleanup, words⟩, isSignalled⟩ :=
    callMatches rfl notForced
  exact ⟨place, data, isPlace, isData, isCleanup, words,
    invariant.signalled place isSignalled⟩

section Steps

variable {device next : Device} {command : Nat} {eCmdType : SgxmkifCmdType}

theorem Device.IsCleanup.lt_length
    (isCleanup : device.IsCleanup command) :
    command < device.commands.length := by
  by_contra outside
  rw [Device.IsCleanup, List.getElem?_eq_none (not_lt.mp outside)] at isCleanup
  exact absurd isCleanup (by simp)

/-- Commands keep their places. -/
theorem hasCommand_scheduleCCBCommand
    {request : Request}
    {place : Nat}
    (eCmdType : SgxmkifCmdType)
    (ui32Data : BitVec 32 × BitVec 32)
    (hasCommand : device.HasCommand request place) :
    (device.scheduleCCBCommand eCmdType ui32Data).HasCommand request place := by
  obtain ⟨data, isData, facts⟩ := hasCommand
  have inside : place < device.commands.length :=
    (List.getElem?_eq_some_iff.mp isData).1
  refine ⟨data, ?_, facts⟩
  rw [Device.scheduleCCBCommand, List.getElem?_append_left inside, isData]

/-- The CLEANUP commands after one more command. -/
theorem isCleanup_scheduleCCBCommand
    {ui32Data : BitVec 32 × BitVec 32}
    {command : Nat} :
    (device.scheduleCCBCommand eCmdType ui32Data).IsCleanup command ↔
      device.IsCleanup command ∨
        (command = device.commands.length ∧ eCmdType = .cleanup) := by
  unfold Device.IsCleanup Device.scheduleCCBCommand
  rcases lt_trichotomy command device.commands.length with
    inside | rfl | outside
  · rw [List.getElem?_append_left inside]
    have : command ≠ device.commands.length := Nat.ne_of_lt inside
    tauto
  · simp
  · rw [List.getElem?_eq_none (by simp; omega),
      List.getElem?_eq_none (Nat.le_of_lt outside)]
    have : command ≠ device.commands.length := Nat.ne_of_gt outside
    simp [this]

theorem complete_of_quiet (quiet : device.Quiet) :
    device.ui32CleanupStatus &&& cleanupcmdComplete ≠ cleanupcmdComplete := by
  rw [quiet.1]
  decide

section

variable (invariant : CleanupInvariant device)
include invariant

/-- A request on a quiet device waits for the one command that is not
signalled. -/
theorem CleanupInvariant.request
    {request : Request}
    {eError : PvrsrvError}
    (quiet : request.bForceCleanup = false → device.Quiet) :
    CleanupInvariant (device.cleanupRequest request eError) := by
  unfold Device.cleanupRequest
  split_ifs with isForced failed
  · refine ⟨invariant.finished_le, invariant.signalled, fun notForced => ?_⟩
    exact absurd (isForced.symm.trans notForced) (by decide)
  · exact ⟨invariant.finished_le, invariant.signalled,
      fun succeeded => absurd succeeded failed⟩
  · have isQuiet := quiet (eq_false_of_ne_true isForced)
    refine ⟨?_, invariant.signalled, ?_, ?_, fun other isCleanup notOwn => ?_⟩
    · have := invariant.finished_le
      simp only [Device.scheduleCCBCommand, List.length_append]
      omega
    · exact ⟨_, List.getElem?_concat_length, rfl, rfl⟩
    · exact fun complete => complete_of_quiet isQuiet complete |>.elim
    · rcases isCleanup_scheduleCCBCommand.mp isCleanup with
        before | ⟨isOwn, -⟩
      · exact isQuiet.2 other before
      · exact absurd isOwn notOwn

theorem CleanupInvariant.poll
    (performed : device.poll = some next) :
    CleanupInvariant next := by
  unfold Device.poll at performed
  split at performed
  next request command isPolling =>
    have callMatches := invariant.callMatches
    rw [Device.CallMatches, isPolling] at callMatches
    obtain ⟨hasCommand, ofComplete, -⟩ := callMatches
    split_ifs at performed with complete
    · cases performed
      exact ⟨invariant.finished_le, invariant.signalled,
        fun _ => ⟨command, rfl, hasCommand, ofComplete complete⟩⟩
    · cases performed
      exact invariant
  next => exact absurd performed (by simp)

theorem CleanupInvariant.timeout
    (performed : device.timeout = some next) :
    CleanupInvariant next := by
  unfold Device.timeout at performed
  split at performed
  next =>
    cases performed
    exact ⟨invariant.finished_le, invariant.signalled,
      fun succeeded => absurd succeeded (by decide)⟩
  next => exact absurd performed (by simp)

theorem CleanupInvariant.clearStatus
    (performed : device.clearStatus = some next) :
    CleanupInvariant next := by
  unfold Device.clearStatus at performed
  split at performed
  next request command isClearing =>
    have callMatches := invariant.callMatches
    rw [Device.CallMatches, isClearing] at callMatches
    cases performed
    exact ⟨invariant.finished_le, invariant.signalled,
      fun _ notForced => callMatches notForced⟩
  next => exact absurd performed (by simp)

/-- A command of another caller is no CLEANUP command. -/
theorem CleanupInvariant.schedule
    (ui32Data : BitVec 32 × BitVec 32)
    (isOther : eCmdType ≠ .cleanup) :
    CleanupInvariant (device.scheduleCCBCommand eCmdType ui32Data) := by
  refine ⟨?_, invariant.signalled, ?_⟩
  · have := invariant.finished_le
    simp only [Device.scheduleCCBCommand, List.length_append]
    omega
  · have callMatches := invariant.callMatches
    unfold Device.CallMatches at callMatches ⊢
    cases isCall : device.call with
    | idle => simp only [Device.scheduleCCBCommand, isCall]
    | polling request command =>
      rw [isCall] at callMatches
      simp only [Device.scheduleCCBCommand, isCall]
      obtain ⟨hasCommand, ofComplete, others⟩ := callMatches
      refine ⟨hasCommand_scheduleCCBCommand _ _ hasCommand, ofComplete,
        fun other isCleanup notOwn => others other ?_ notOwn⟩
      exact (isCleanup_scheduleCCBCommand.mp isCleanup).resolve_right
        fun added => isOther added.2
    | clearing request command =>
      rw [isCall] at callMatches
      simp only [Device.scheduleCCBCommand, isCall]
      intro notForced
      obtain ⟨place, isPlace, hasCommand, isSignalled⟩ := callMatches notForced
      exact ⟨place, isPlace, hasCommand_scheduleCCBCommand _ _ hasCommand,
        isSignalled⟩
    | returned request command eError =>
      rw [isCall] at callMatches
      simp only [Device.scheduleCCBCommand, isCall]
      intro succeeded notForced
      obtain ⟨place, isPlace, hasCommand, isSignalled⟩ :=
        callMatches succeeded notForced
      exact ⟨place, isPlace, hasCommand_scheduleCCBCommand _ _ hasCommand,
        isSignalled⟩

/-- While a call polls, only its own command can be signalled. -/
theorem CleanupInvariant.signal
    (isCleanup : device.IsCleanup command)
    (isFinished : command < device.finished)
    (notSignalled : command ∉ device.signalled) :
    CleanupInvariant { device with
      ui32CleanupStatus := device.ui32CleanupStatus ||| cleanupcmdComplete
      signalled := command :: device.signalled } := by
  refine ⟨invariant.finished_le, fun other isMember => ?_, ?_⟩
  · rcases List.mem_cons.mp isMember with rfl | before
    · exact isFinished
    · exact invariant.signalled other before
  · have callMatches := invariant.callMatches
    unfold Device.CallMatches at callMatches ⊢
    cases isCall : device.call with
    | idle => trivial
    | polling request own =>
      rw [isCall] at callMatches
      obtain ⟨hasCommand, -, others⟩ := callMatches
      refine ⟨hasCommand, fun _ => ?_, fun other otherCleanup notOwn =>
        List.mem_cons_of_mem _ (others other otherCleanup notOwn)⟩
      have isOwn : command = own := by
        by_contra notOwn
        exact notSignalled (others command isCleanup notOwn)
      exact isOwn ▸ List.mem_cons_self
    | clearing request own =>
      rw [isCall] at callMatches
      intro notForced
      obtain ⟨place, isPlace, hasCommand, isSignalled⟩ := callMatches notForced
      exact ⟨place, isPlace, hasCommand, List.mem_cons_of_mem _ isSignalled⟩
    | returned request own eError =>
      rw [isCall] at callMatches
      intro succeeded notForced
      obtain ⟨place, isPlace, hasCommand, isSignalled⟩ :=
        callMatches succeeded notForced
      exact ⟨place, isPlace, hasCommand, List.mem_cons_of_mem _ isSignalled⟩

theorem CleanupInvariant.step
    {label : Label}
    (meets : RequestsQuiet device label)
    (performed : device.step label = some next) :
    CleanupInvariant next := by
  cases label with
  | request request eError =>
    simp only [Device.step] at performed
    split_ifs at performed
    cases performed
    exact invariant.request meets
  | poll => exact invariant.poll performed
  | timeout => exact invariant.timeout performed
  | clearStatus => exact invariant.clearStatus performed
  | leave =>
    simp only [Device.step] at performed
    split at performed
    next =>
      cases performed
      exact ⟨invariant.finished_le, invariant.signalled, trivial⟩
    next => exact absurd performed (by simp)
  | schedule eCmdType ui32Data =>
    simp only [Device.step] at performed
    split_ifs at performed with isOther
    cases performed
    exact invariant.schedule ui32Data isOther
  | invalidate ui32CacheControl =>
    cases performed
    exact ⟨invariant.finished_le, invariant.signalled, invariant.callMatches⟩
  | finish =>
    simp only [Device.step] at performed
    split_ifs at performed with remaining
    cases performed
    exact ⟨remaining, fun command isSignalled =>
      Nat.lt_succ_of_lt (invariant.signalled command isSignalled),
      invariant.callMatches⟩
  | signal command =>
    simp only [Device.step] at performed
    split_ifs at performed with allowed
    cases performed
    exact invariant.signal allowed.1 allowed.2.1 allowed.2.2

end

end Steps

theorem Reachable.invariant
    (reached : Reachable RequestsQuiet device) :
    CleanupInvariant device := by
  induction reached with
  | initial => exact ⟨le_refl _, nofun, trivial⟩
  | step label _ meets performed ih => exact ih.step meets performed

/-! ## Requests on a device that is not quiet -/

section Early

variable {condition : Device → Label → Prop} {device next : Device}
  {request : Request}

theorem finished_le_step
    (bounded : device.finished ≤ device.commands.length)
    {label : Label}
    (performed : device.step label = some next) :
    next.finished ≤ next.commands.length := by
  cases label with
  | request request eError =>
    simp only [Device.step, Device.cleanupRequest] at performed
    split_ifs at performed <;> cases performed
    · exact bounded
    · exact bounded
    · exact Nat.le_trans bounded (by simp [Device.scheduleCCBCommand])
  | poll =>
    simp only [Device.step, Device.poll] at performed
    split at performed
    · split_ifs at performed <;> cases performed
      · exact bounded
      · exact bounded
    · exact absurd performed (by simp)
  | timeout =>
    simp only [Device.step, Device.timeout] at performed
    split at performed
    · cases performed
      exact bounded
    · exact absurd performed (by simp)
  | clearStatus =>
    simp only [Device.step, Device.clearStatus] at performed
    split at performed
    · cases performed
      exact bounded
    · exact absurd performed (by simp)
  | leave =>
    simp only [Device.step] at performed
    split at performed
    · cases performed
      exact bounded
    · exact absurd performed (by simp)
  | schedule eCmdType ui32Data =>
    simp only [Device.step] at performed
    split_ifs at performed
    cases performed
    exact Nat.le_trans bounded (by simp [Device.scheduleCCBCommand])
  | invalidate ui32CacheControl =>
    cases performed
    exact bounded
  | finish =>
    simp only [Device.step] at performed
    split_ifs at performed with remaining
    cases performed
    exact remaining
  | signal command =>
    simp only [Device.step] at performed
    split_ifs at performed
    cases performed
    exact bounded

theorem Reachable.finished_le
    (reached : Reachable condition device) :
    device.finished ≤ device.commands.length := by
  induction reached with
  | initial => exact Nat.le_refl _
  | step label _ _ performed ih => exact finished_le_step ih performed

/-- The microkernel may finish any number of the commands. -/
theorem Reachable.finishUpTo
    (reached : Reachable (fun _ _ => True) device)
    {finished : Nat}
    (later : device.finished ≤ finished)
    (bounded : finished ≤ device.commands.length) :
    Reachable (fun _ _ => True) { device with finished := finished } := by
  induction later with
  | refl => exact reached
  | step before ih =>
    have previous := ih (by omega)
    refine previous.step .finish trivial ?_
    simp only [Device.step]
    rw [if_pos (Nat.lt_of_succ_le bounded)]

/-- A poll that finds the bit set ends the call. -/
theorem Reachable.returnOk
    (reached : Reachable (fun _ _ => True) device)
    {command : Nat}
    (isPolling : device.call = .polling request command)
    (complete :
      device.ui32CleanupStatus &&& cleanupcmdComplete = cleanupcmdComplete) :
    ∃ next, Reachable (fun _ _ => True) next ∧
      next.call = .returned request (some command) pvrsrvOk ∧
      next.finished = device.finished := by
  have polled : Reachable (fun _ _ => True)
      { device with call := .clearing request (some command) } :=
    reached.step .poll trivial
      (by simp only [Device.step, Device.poll, isPolling, if_pos complete])
  exact ⟨_, polled.step .clearStatus trivial rfl, rfl, rfl⟩

theorem complete_or (status : BitVec 32) :
    (status ||| cleanupcmdComplete) &&& cleanupcmdComplete =
      cleanupcmdComplete := by
  rw [BitVec.and_or_distrib_right, BitVec.and_self]
  ext i
  simp

theorem complete_of_ne_zero
    {status : BitVec 32}
    (isSet : status &&& cleanupcmdComplete ≠ 0) :
    status &&& cleanupcmdComplete = cleanupcmdComplete := by
  have isBit := BitVec.and_one_eq_setWidth_ofBool_getLsbD (x := status)
  cases isLow : status.getLsbD 0 with
  | false =>
    rw [isLow] at isBit
    exact absurd isBit isSet
  | true =>
    rw [isLow] at isBit
    exact isBit

/-- Whenever a device is not quiet, a call that is not forced may return
success before the microkernel has come to its command. -/
theorem Reachable.early_return
    (reached : Reachable (fun _ _ => True) device)
    (isIdle : device.call = .idle)
    (notQuiet : ¬ device.Quiet)
    (notForced : request.bForceCleanup = false) :
    ∃ next command, Reachable (fun _ _ => True) next ∧
      next.call = .returned request (some command) pvrsrvOk ∧
      next.finished ≤ command := by
  obtain ⟨polling, isPolling⟩ :
    ∃ polling, polling = device.cleanupRequest request pvrsrvOk := ⟨_, rfl⟩
  have requested : Reachable (fun _ _ => True) polling :=
    reached.step (.request request pvrsrvOk) trivial
      (by rw [Device.step, if_pos isIdle, isPolling])
  rw [Device.cleanupRequest, if_neg (by simp [notForced]),
    if_neg (by simp)] at isPolling
  by_cases isClear : device.ui32CleanupStatus &&& cleanupcmdComplete = 0
  · -- an earlier command is still to be signalled
    obtain ⟨early, isCleanup, notSignalled⟩ :
        ∃ early, device.IsCleanup early ∧ early ∉ device.signalled := by
      by_contra none
      exact notQuiet ⟨isClear, fun command isCleanup =>
        by_contra fun notSignalled => none ⟨command, isCleanup, notSignalled⟩⟩
    have inside := isCleanup.lt_length
    have finishedLe := reached.finished_le
    have bounded : max device.finished (early + 1) ≤ device.commands.length :=
      max_le finishedLe inside
    have oneMore : polling.commands.length = device.commands.length + 1 := by
      rw [isPolling, Device.scheduleCCBCommand]
      exact List.length_append
    have isFinished : Reachable (fun _ _ => True)
        { polling with finished := max device.finished (early + 1) } :=
      requested.finishUpTo
        (by rw [isPolling]; exact le_max_left _ _)
        (by rw [oneMore]; exact Nat.le_succ_of_le bounded)
    have stillCleanup : polling.IsCleanup early := by
      rw [isPolling]
      exact isCleanup_scheduleCCBCommand.mpr (.inl isCleanup)
    have notYet : early ∉ polling.signalled := by rwa [isPolling]
    have signalled := isFinished.step (.signal early) trivial
      (if_pos ⟨stillCleanup, Nat.lt_of_succ_le (le_max_right _ _), notYet⟩)
    obtain ⟨next, returned, isReturned, sameFinished⟩ :=
      signalled.returnOk (by rw [isPolling]) (complete_or _)
    refine ⟨next, _, returned, isReturned, ?_⟩
    rw [sameFinished, isPolling]
    exact bounded
  · obtain ⟨next, returned, isReturned, sameFinished⟩ :=
      requested.returnOk (by rw [isPolling])
        (by rw [isPolling]; exact complete_of_ne_zero isClear)
    refine ⟨next, _, returned, isReturned, ?_⟩
    rw [sameFinished, isPolling]
    exact reached.finished_le

end Early

/-! ## The handshake -/

/-- Where every request that is not forced is made on a quiet device, it
returns success only after its own command has been finished. -/
theorem reachable_returnsAfterFinished
    {device : Device}
    (reached : Reachable RequestsQuiet device) :
    device.ReturnsAfterFinished :=
  reached.invariant.returnsAfterFinished

/-- The clean-up of a render context. -/
def renderContextRequest : Request where
  psHWDataDevVAddr := some 0x1000
  ui32CleanupType := cleanupcmdRC
  bForceCleanup := false

/-- The first request, once its command is in the kernel CCB. -/
theorem reachable_firstRequest :
    Reachable RequestsQuiet
      (initialDevice.cleanupRequest renderContextRequest pvrsrvOk) :=
  Reachable.initial.step (.request renderContextRequest pvrsrvOk)
    (fun _ => ⟨by decide, nofun⟩) rfl

/-- A render context is cleaned up. -/
theorem reachable_returnsAfterFinished_renderContext :
    ∃ device : Device,
      device.call = .returned renderContextRequest (some 0) pvrsrvOk ∧
        device.ReturnsAfterFinished :=
  ⟨_, rfl, reachable_returnsAfterFinished
    (reachable_firstRequest.step .finish trivial rfl
      |>.step (.signal 0) trivial rfl
      |>.step .poll trivial rfl
      |>.step .clearStatus trivial rfl)⟩

/-- After a request that timed out the next one may return too early. -/
theorem reachable_returnsAfterFinished_late :
    ¬ ∀ device, Reachable (fun _ _ => True) device →
      device.ReturnsAfterFinished := by
  intro returnsAfter
  have start : Reachable (fun _ _ => True) initialDevice := .initial
  have idle := start.step (.request renderContextRequest pvrsrvOk) trivial rfl
    |>.step .timeout trivial rfl
    |>.step .leave trivial rfl
  have notForced : renderContextRequest.bForceCleanup = false := rfl
  obtain ⟨next, command, returned, isReturned, notFinished⟩ :=
    idle.early_return rfl
      (fun quiet => absurd (quiet.2 0 (by decide)) (by decide)) notForced
  obtain ⟨place, _, isPlace, _, _, _, isFinished⟩ :=
    returnsAfter next returned _ _ isReturned rfl
  cases isPlace
  omega

end PvrServices.SgxCleanup
