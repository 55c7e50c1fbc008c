import PvrServices.Resman.Base
import PvrServices.Sgx.PendingOps

/-!
# Kicks

A kick samples the sync objects of a TA command into the command and becomes
pending on them: the sync objects of the TA and of the 3D core, the sources,
and, for the first kick of a scene, the destinations.  Then it schedules the
command, and undoes part of this when it is told to try again.

The build neither generalises the sync objects nor dumps parameters, and has
the new status values.
-/

namespace PvrServices.SgxSubmit

open Resman (PvrsrvError pvrsrvErrorInvalidParams)

/-- `PVRSRV_ERROR_RETRY`. -/
abbrev pvrsrvErrorRetry : PvrsrvError := 24

/-! ## Data -/

/-- `CTL_STATUS`. -/
structure CtlStatus where
  sStatusDevAddr : BitVec 32
  ui32StatusValue : BitVec 32
deriving DecidableEq, Repr

/-- `SGX_CCB_KICK`, with the bounds that `SGXDoKickBW` checks.  A handle that
is null is `none`, and the numbers of the arrays are their lengths. -/
structure SgxCcbKick where
  ui32CCBOffset : BitVec 32
  hTA3DSyncInfo : Option Address
  bTADependency : Bool
  hTASyncInfo : Option Address
  h3DSyncInfo : Option Address
  asTAStatusUpdate : List CtlStatus
  as3DStatusUpdate : List CtlStatus
  ahSrcKernelSyncInfo : List Address
  bFirstKickOrResume : Bool
  pahDstSyncHandles : List (Option Address)
  taStatusBound : asTAStatusUpdate.length ≤ 32
  threeDStatusBound : as3DStatusUpdate.length ≤ 4
  srcBound : ahSrcKernelSyncInfo.length ≤ 8
  dstBound : pahDstSyncHandles.length < 2 ^ 32

/-- `SGXMKIF_CMDTA_SHARED`. -/
structure CmdTaShared where
  ui32CtrlFlags : BitVec 32
  ui32NumTAStatusVals : Nat
  ui32Num3DStatusVals : Nat
  sTATQSync : DeviceSyncObject
  s3DTQSync : DeviceSyncObject
  ui32NumSrcSyncs : Nat
  asSrcSyncs : Nat → DeviceSyncObject
  sTA3DDependency : DeviceSyncObject
  sCtlTAStatusInfo : Nat → CtlStatus
  sCtl3DStatusInfo : Nat → CtlStatus

/-- `SGXMKIF_HWDEVICE_SYNC_LIST`. -/
structure HwDeviceSyncList where
  ui32NumSyncObjects : Nat
  asSyncData : Nat → DeviceSyncObject

/-- What a kick reads and writes. -/
structure KickState where
  table : SyncTable
  psTACmd : CmdTaShared
  psHWDeviceSyncList : HwDeviceSyncList

/-- `sizeof(SGXMKIF_CMDTA_SHARED)`. -/
abbrev sizeofCmdTaShared : Nat := 480

/-- `CCB_OFFSET_IS_VALID`. -/
def ccbOffsetIsValid
    (sizeofType uAllocSize : Nat)
    (offset : BitVec 32) :
    Bool :=
  decide (sizeofType ≤ uAllocSize) &&
    decide (offset.toNat ≤ uAllocSize - sizeofType)

/-! ## The stages of a kick -/

section

variable (infos : SyncInfos) (psCCBKick : SgxCcbKick)

/-- The TA/3D dependency of `SGXDoKickKM`. -/
def kickTA3DSync
    (state : KickState) :
    KickState :=
  match psCCBKick.hTA3DSyncInfo with
  | none => state
  | some handle =>
    { state with
      psTACmd :=
        { state.psTACmd with
          sTA3DDependency :=
            { state.psTACmd.sTA3DDependency with
              sWriteOpsCompleteDevVAddr :=
                (sample infos state.table handle).sWriteOpsCompleteDevVAddr
              ui32WriteOpsPendingVal :=
                (sample infos state.table handle).ui32WriteOpsPendingVal } }
      table :=
        if psCCBKick.bTADependency then
          change pendWrite state.table (infos.psSyncData handle)
        else state.table }

/-- The TA sync object of `SGXDoKickKM`. -/
def kickTASync
    (state : KickState) :
    KickState :=
  match psCCBKick.hTASyncInfo with
  | none => state
  | some handle =>
    { state with
      psTACmd :=
        { state.psTACmd with sTATQSync := sample infos state.table handle }
      table := change pendRead state.table (infos.psSyncData handle) }

/-- The 3D sync object of `SGXDoKickKM`. -/
def kick3DSync
    (state : KickState) :
    KickState :=
  match psCCBKick.h3DSyncInfo with
  | none => state
  | some handle =>
    { state with
      psTACmd :=
        { state.psTACmd with s3DTQSync := sample infos state.table handle }
      table := change pendRead state.table (infos.psSyncData handle) }

end

/-- The elements of a list in the first entries of an array. -/
def fillArray {entry : Type} (array : Nat → entry) (entries : List entry) :
    Nat → entry :=
  fun index => (entries[index]?).getD (array index)

/-- The status values of `SGXDoKickKM`. -/
def kickStatusVals
    (psCCBKick : SgxCcbKick)
    (state : KickState) :
    KickState :=
  { state with
    psTACmd :=
      { state.psTACmd with
        ui32NumTAStatusVals := psCCBKick.asTAStatusUpdate.length
        sCtlTAStatusInfo :=
          fillArray state.psTACmd.sCtlTAStatusInfo psCCBKick.asTAStatusUpdate
        ui32Num3DStatusVals := psCCBKick.as3DStatusUpdate.length
        sCtl3DStatusInfo :=
          fillArray state.psTACmd.sCtl3DStatusInfo
            psCCBKick.as3DStatusUpdate } }

/-- The loop over the sources, from entry `i` on. -/
def kickSrcSyncs
    (infos : SyncInfos) :
    Nat → List Address → KickState → KickState
  | _, [], state => state
  | i, handle :: rest, state =>
    kickSrcSyncs infos (i + 1) rest
      { state with
        psTACmd :=
          { state.psTACmd with
            asSrcSyncs :=
              Function.update state.psTACmd.asSrcSyncs i
                (sample infos state.table handle) }
        table := change pendRead state.table (infos.psSyncData handle) }

/-- The loop over the destinations, from entry `i` on.  A handle may be
null. -/
def kickDstSyncs
    (infos : SyncInfos) :
    Nat → List (Option Address) → KickState → KickState
  | _, [], state => state
  | i, none :: rest, state =>
    kickDstSyncs infos (i + 1) rest
      { state with
        psHWDeviceSyncList :=
          { state.psHWDeviceSyncList with
            asSyncData :=
              Function.update state.psHWDeviceSyncList.asSyncData i
                ⟨0, 0, 0, 0⟩ } }
  | i, some handle :: rest, state =>
    kickDstSyncs infos (i + 1) rest
      { state with
        psHWDeviceSyncList :=
          { state.psHWDeviceSyncList with
            asSyncData :=
              Function.update state.psHWDeviceSyncList.asSyncData i
                (sample infos state.table handle) }
        table := change pendWrite state.table (infos.psSyncData handle) }

/-- The kick is pending on its destinations. -/
def SgxCcbKick.writesDst (psCCBKick : SgxCcbKick) : Bool :=
  psCCBKick.bFirstKickOrResume &&
    decide (0 < psCCBKick.pahDstSyncHandles.length)

/-- `SGXDoKickKM` up to the scheduling of the command. -/
def kickPrepare
    (infos : SyncInfos)
    (psCCBKick : SgxCcbKick)
    (state : KickState) :
    KickState :=
  let state := kickTA3DSync infos psCCBKick state
  let state := kickTASync infos psCCBKick state
  let state := kick3DSync infos psCCBKick state
  let state := kickStatusVals psCCBKick state
  let state :=
    { state with
      psTACmd :=
        { state.psTACmd with
          ui32NumSrcSyncs := psCCBKick.ahSrcKernelSyncInfo.length } }
  let state := kickSrcSyncs infos 0 psCCBKick.ahSrcKernelSyncInfo state
  let state :=
    if psCCBKick.writesDst then
      kickDstSyncs infos 0 psCCBKick.pahDstSyncHandles
        { state with
          psHWDeviceSyncList :=
            { state.psHWDeviceSyncList with
              ui32NumSyncObjects := psCCBKick.pahDstSyncHandles.length } }
    else state
  { state with
    psTACmd :=
      { state.psTACmd with
        ui32CtrlFlags := state.psTACmd.ui32CtrlFlags ||| 1 } }

/-- The destinations that are not null. -/
def SgxCcbKick.dstHandles (psCCBKick : SgxCcbKick) : List Address :=
  psCCBKick.pahDstSyncHandles.filterMap id

section

variable (infos : SyncInfos)

/-- What `SGXDoKickKM` undoes when it is told to try again. -/
def kickUndo
    (psCCBKick : SgxCcbKick)
    (table : SyncTable) :
    SyncTable :=
  let table :=
    if psCCBKick.writesDst then
      changeAll infos unpendWrite table psCCBKick.dstHandles
    else table
  changeAll infos unpendRead table psCCBKick.ahSrcKernelSyncInfo

/-- `SGXDoKickKM`.  `eSchedule` is the result of `SGXScheduleCCBCommandKM`. -/
def sgxDoKick
    (uAllocSize : Nat)
    (psCCBKick : SgxCcbKick)
    (eSchedule : PvrsrvError)
    (state : KickState) :
    PvrsrvError × KickState :=
  if ccbOffsetIsValid sizeofCmdTaShared uAllocSize
      psCCBKick.ui32CCBOffset then
    let state := kickPrepare infos psCCBKick state
    if eSchedule = pvrsrvErrorRetry then
      (eSchedule, { state with table := kickUndo infos psCCBKick state.table })
    else (eSchedule, state)
  else (pvrsrvErrorInvalidParams, state)

/-! ## The operations of a kick -/

/-- The operations on an optional sync object. -/
def optionalOp
    (operation : Address → Operations)
    (handle : Option Address) :
    Operations :=
  operations infos operation handle.toList

/-- The operations that a kick leaves pending for good. -/
def SgxCcbKick.coreOps
    (psCCBKick : SgxCcbKick) :
    Operations :=
  (if psCCBKick.bTADependency then
      optionalOp infos writeOp psCCBKick.hTA3DSyncInfo
    else 0) +
    optionalOp infos readOp psCCBKick.hTASyncInfo +
    optionalOp infos readOp psCCBKick.h3DSyncInfo

/-- The operations of a kick that a new try would make again. -/
def SgxCcbKick.listOps
    (psCCBKick : SgxCcbKick) :
    Operations :=
  operations infos readOp psCCBKick.ahSrcKernelSyncInfo +
    if psCCBKick.writesDst then
      operations infos writeOp psCCBKick.dstHandles
    else 0

end

variable {infos : SyncInfos} {psCCBKick : SgxCcbKick} {state : KickState}

theorem pendings_kickTA3DSync :
    pendings (kickTA3DSync infos psCCBKick state).table =
      pendings state.table +
        if psCCBKick.bTADependency then
          optionalOp infos writeOp psCCBKick.hTA3DSyncInfo
        else 0 := by
  unfold kickTA3DSync
  cases psCCBKick.hTA3DSyncInfo with
  | none => simp [optionalOp]
  | some handle =>
    cases psCCBKick.bTADependency with
    | false => simp
    | true => simp [optionalOp]

theorem pendings_kickTASync :
    pendings (kickTASync infos psCCBKick state).table =
      pendings state.table +
        optionalOp infos readOp psCCBKick.hTASyncInfo := by
  unfold kickTASync
  cases psCCBKick.hTASyncInfo with
  | none => simp [optionalOp]
  | some handle => simp [optionalOp]

theorem pendings_kick3DSync :
    pendings (kick3DSync infos psCCBKick state).table =
      pendings state.table +
        optionalOp infos readOp psCCBKick.h3DSyncInfo := by
  unfold kick3DSync
  cases psCCBKick.h3DSyncInfo with
  | none => simp [optionalOp]
  | some handle => simp [optionalOp]

theorem pendings_kickSrcSyncs
    (i : Nat)
    (handles : List Address) :
    pendings (kickSrcSyncs infos i handles state).table =
      pendings state.table + operations infos readOp handles := by
  induction handles generalizing i state with
  | nil => simp [kickSrcSyncs]
  | cons handle rest ih =>
    rw [kickSrcSyncs, ih, pendings_pendRead, operations_cons, add_assoc]

theorem pendings_kickDstSyncs
    (i : Nat)
    (handles : List (Option Address)) :
    pendings (kickDstSyncs infos i handles state).table =
      pendings state.table +
        operations infos writeOp (handles.filterMap id) := by
  induction handles generalizing i state with
  | nil => simp [kickDstSyncs]
  | cons handle rest ih =>
    cases handle with
    | none =>
      rw [kickDstSyncs, ih]
      rfl
    | some handle =>
      rw [kickDstSyncs, ih, pendings_pendWrite, add_assoc]
      rfl

/-- A kick becomes pending on all its sync objects. -/
theorem pendings_kickPrepare :
    pendings (kickPrepare infos psCCBKick state).table =
      pendings state.table +
        (psCCBKick.coreOps infos + psCCBKick.listOps infos) := by
  unfold kickPrepare SgxCcbKick.coreOps SgxCcbKick.listOps
  cases psCCBKick.writesDst with
  | false =>
    simp only [Bool.false_eq_true, if_false, add_zero,
      pendings_kickSrcSyncs, kickStatusVals, pendings_kick3DSync,
      pendings_kickTASync, pendings_kickTA3DSync, add_assoc]
  | true =>
    simp only [if_true, pendings_kickDstSyncs, pendings_kickSrcSyncs,
      kickStatusVals, pendings_kick3DSync, pendings_kickTASync,
      pendings_kickTA3DSync, add_assoc, SgxCcbKick.dstHandles]

/-- A kick that is to be tried again takes back its operations on the sources
and destinations. -/
theorem pendings_kickUndo
    (table : SyncTable) :
    pendings (kickUndo infos psCCBKick table) =
      pendings table - psCCBKick.listOps infos := by
  unfold kickUndo SgxCcbKick.listOps
  rw [pendings_changeAll_undo pendings_unpendRead]
  cases psCCBKick.writesDst with
  | false => simp
  | true =>
    rw [if_pos rfl, if_pos rfl,
      pendings_changeAll_undo pendings_unpendWrite, sub_sub, add_comm]

end PvrServices.SgxSubmit
