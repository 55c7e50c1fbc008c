import PvrServices.Lib.FirstOccurrences
import PvrServices.Sgx.Kick
import Mathlib.Tactic.Abel

/-!
# Transfers

A transfer names its source and destination sync objects in two lists that may
repeat.  `SGXSubmitTransferKM` marks the first occurrence of each, samples the
marked ones into the shared command, becomes pending on them, and schedules
the command.  The shared command is memory: what is written past the end of
one of its arrays lands in the fields that follow.
-/

namespace PvrServices.SgxSubmit

open FirstOccurrences
open Resman (PvrsrvError pvrsrvErrorInvalidParams)

/-- `SGX_MAX_TRANSFER_SYNC_OPS`. -/
abbrev sgxMaxTransferSyncOps : Nat := 5

/-- `SGX_MAX_DST_SYNCS`. -/
abbrev sgxMaxDstSyncs : Nat := 1

/-- `SGXMKIF_TQFLAGS_KEEPPENDING`. -/
abbrev tqFlagsKeepPending : BitVec 32 := 2

/-! ## Data -/

/-- `PVRSRV_TRANSFER_SGX_KICK`, with the bounds that `SGXSubmitTransferBW`
checks.  The numbers of the arrays are their lengths. -/
structure TransferKick where
  ui32SharedCmdCCBOffset : BitVec 32
  hTASyncInfo : Option Address
  h3DSyncInfo : Option Address
  ahSrcSyncInfo : List Address
  ahDstSyncInfo : List Address
  ui32Flags : BitVec 32
  srcBound : ahSrcSyncInfo.length ≤ sgxMaxTransferSyncOps
  dstBound : ahDstSyncInfo.length ≤ sgxMaxTransferSyncOps

/-- The words of a `SGXMKIF_TRANSFERCMD_SHARED`. -/
abbrev SharedCmd := Nat → BitVec 32

/-- `sizeof(SGXMKIF_TRANSFERCMD_SHARED)`. -/
abbrev sizeofTransferCmdShared : Nat := 220

namespace SharedCmd

/-- `ui32NumSrcSyncs`. -/
abbrev numSrcSyncs : Nat := 0

/-- `asSrcSyncs`, of `SGX_MAX_SRC_SYNCS` = 8 sync objects of four words. -/
abbrev srcSyncs : Nat := 1

/-- `ui32NumDstSyncs`. -/
abbrev numDstSyncs : Nat := 33

/-- `asDstSyncs`, of `SGX_MAX_DST_SYNCS` sync objects. -/
abbrev dstSyncs : Nat := 34

/-- The fields for the sync object of the TA. -/
abbrev taSync : Nat := 38

/-- The fields for the sync object of the 3D core. -/
abbrev threeDSync : Nat := 42

/-- Writes a sync object of an array. -/
def setSyncObject
    (cmd : SharedCmd)
    (offset : Nat)
    (object : DeviceSyncObject) :
    SharedCmd :=
  fun word =>
    if word = offset then object.ui32ReadOpsPendingVal
    else if word = offset + 1 then object.sReadOpsCompleteDevVAddr
    else if word = offset + 2 then object.ui32WriteOpsPendingVal
    else if word = offset + 3 then object.sWriteOpsCompleteDevVAddr
    else cmd word

/-- Reads a sync object of an array. -/
def syncObject (cmd : SharedCmd) (offset : Nat) : DeviceSyncObject where
  ui32ReadOpsPendingVal := cmd offset
  sReadOpsCompleteDevVAddr := cmd (offset + 1)
  ui32WriteOpsPendingVal := cmd (offset + 2)
  sWriteOpsCompleteDevVAddr := cmd (offset + 3)

/-- Writes the fields for the sync object of the TA or of the 3D core. -/
def setCoreSync
    (cmd : SharedCmd)
    (offset : Nat)
    (object : DeviceSyncObject) :
    SharedCmd :=
  fun word =>
    if word = offset then object.ui32WriteOpsPendingVal
    else if word = offset + 1 then object.sWriteOpsCompleteDevVAddr
    else if word = offset + 2 then object.ui32ReadOpsPendingVal
    else if word = offset + 3 then object.sReadOpsCompleteDevVAddr
    else cmd word

/-- Clears the device addresses of those fields. -/
def clearCoreSync (cmd : SharedCmd) (offset : Nat) : SharedCmd :=
  fun word =>
    if word = offset + 1 ∨ word = offset + 3 then 0 else cmd word

end SharedCmd

/-- What a transfer reads and writes. -/
structure TransferState where
  table : SyncTable
  psSharedTransferCmd : SharedCmd

/-! ## The stages of a transfer -/

/-- The sync object of the TA or of the 3D core, with the offset of its
fields. -/
def transferCoreSync
    (infos : SyncInfos)
    (offset : Nat)
    (handle : Option Address)
    (state : TransferState) :
    TransferState :=
  match handle with
  | none =>
    { state with
      psSharedTransferCmd := state.psSharedTransferCmd.clearCoreSync offset }
  | some handle =>
    { psSharedTransferCmd :=
        state.psSharedTransferCmd.setCoreSync offset
          (sample infos state.table handle)
      table := change pendWrite state.table (infos.psSyncData handle) }

/-- The device address by which the transfer tells sync objects apart. -/
def SyncInfos.identity (infos : SyncInfos) (handle : Address) : BitVec 32 :=
  (infos.psSyncInfo handle).sWriteOpsCompleteDevVAddr

/-- The loop that marks first occurrences, given the handles before and their
marks. -/
def syncEnable
    (infos : SyncInfos) :
    List (Address × Bool) → List Address → List Bool
  | _, [] => []
  | before, handle :: rest =>
    let enable := !before.any fun (other, enabled) =>
      enabled && infos.identity other == infos.identity handle
    enable :: syncEnable infos (before ++ [(handle, enable)]) rest

/-- The handles that a later loop does not skip. -/
def enabledSyncs (handles : List Address) (enable : List Bool) :
    List Address :=
  ((handles.zip enable).filter Prod.snd).map Prod.fst

/-- The sources that are marked. -/
def TransferKick.srcSyncs
    (infos : SyncInfos)
    (psKick : TransferKick) :
    List Address :=
  enabledSyncs psKick.ahSrcSyncInfo (syncEnable infos [] psKick.ahSrcSyncInfo)

/-- The destinations that are marked. -/
def TransferKick.dstSyncs
    (infos : SyncInfos)
    (psKick : TransferKick) :
    List Address :=
  enabledSyncs psKick.ahDstSyncInfo (syncEnable infos [] psKick.ahDstSyncInfo)

/-- The transfer does not become pending on its lists. -/
def TransferKick.keepsPending (psKick : TransferKick) : Bool :=
  decide (psKick.ui32Flags &&& tqFlagsKeepPending ≠ 0)

/-- Writes the samples of a list to an array, from entry `i` on. -/
def recordSyncs
    (infos : SyncInfos)
    (table : SyncTable)
    (array : Nat) :
    Nat → List Address → SharedCmd → SharedCmd
  | _, [], cmd => cmd
  | i, handle :: rest, cmd =>
    recordSyncs infos table array (i + 1) rest
      (cmd.setSyncObject (array + 4 * i) (sample infos table handle))

/-- The loops of a transfer that becomes pending on its lists. -/
def transferPend
    (infos : SyncInfos)
    (psKick : TransferKick)
    (state : TransferState) :
    TransferState :=
  let cmd := recordSyncs infos state.table SharedCmd.srcSyncs 0
    (psKick.srcSyncs infos) state.psSharedTransferCmd
  let cmd := recordSyncs infos state.table SharedCmd.dstSyncs 0
    (psKick.dstSyncs infos) cmd
  let table := changeAll infos pendRead state.table (psKick.srcSyncs infos)
  { psSharedTransferCmd := cmd
    table := changeAll infos pendWrite table (psKick.dstSyncs infos) }

/-- The sync objects of the TA and of the 3D core. -/
def transferCoreSyncs
    (infos : SyncInfos)
    (psKick : TransferKick)
    (state : TransferState) :
    TransferState :=
  transferCoreSync infos SharedCmd.threeDSync psKick.h3DSyncInfo
    (transferCoreSync infos SharedCmd.taSync psKick.hTASyncInfo state)

/-- Writes the numbers of marked handles. -/
def transferCounts
    (infos : SyncInfos)
    (psKick : TransferKick)
    (cmd : SharedCmd) :
    SharedCmd :=
  Function.update
    (Function.update cmd SharedCmd.numSrcSyncs
      (BitVec.ofNat 32 (psKick.srcSyncs infos).length))
    SharedCmd.numDstSyncs
    (BitVec.ofNat 32 (psKick.dstSyncs infos).length)

/-- `SGXSubmitTransferKM` up to the scheduling of the command. -/
def transferPrepare
    (infos : SyncInfos)
    (psKick : TransferKick)
    (state : TransferState) :
    TransferState :=
  let state := transferCoreSyncs infos psKick state
  let state :=
    { state with
      psSharedTransferCmd :=
        transferCounts infos psKick state.psSharedTransferCmd }
  if psKick.keepsPending then state else transferPend infos psKick state

/-- What `SGXSubmitTransferKM` undoes when it is told to try again. -/
def transferUndo
    (infos : SyncInfos)
    (psKick : TransferKick)
    (table : SyncTable) :
    SyncTable :=
  let table :=
    if psKick.keepsPending then table
    else
      changeAll infos unpendWrite
        (changeAll infos unpendRead table (psKick.srcSyncs infos))
        (psKick.dstSyncs infos)
  let table := changeAll infos unpendWrite table psKick.hTASyncInfo.toList
  changeAll infos unpendWrite table psKick.h3DSyncInfo.toList

/-- `SGXSubmitTransferKM`.  `eSchedule` is the result of
`SGXScheduleCCBCommandKM`. -/
def sgxSubmitTransfer
    (infos : SyncInfos)
    (uAllocSize : Nat)
    (psKick : TransferKick)
    (eSchedule : PvrsrvError)
    (state : TransferState) :
    PvrsrvError × TransferState :=
  if ccbOffsetIsValid sizeofTransferCmdShared uAllocSize
      psKick.ui32SharedCmdCCBOffset then
    let state := transferPrepare infos psKick state
    if eSchedule = pvrsrvErrorRetry then
      (eSchedule,
        { state with table := transferUndo infos psKick state.table })
    else (eSchedule, state)
  else (pvrsrvErrorInvalidParams, state)

/-! ## The marked handles -/

variable {infos : SyncInfos} {psKick : TransferKick} {state : TransferState}

/-- The marked handles are the first occurrences. -/
theorem enabledSyncs_syncEnable
    (before : List (Address × Bool))
    (handles : List Address) :
    enabledSyncs handles (syncEnable infos before handles) =
      firsts infos.identity
        ((before.filter Prod.snd).map fun entry => infos.identity entry.1)
        handles := by
  induction handles generalizing before with
  | nil => rfl
  | cons handle rest ih =>
    have seen :
        (before.any fun (other, enabled) =>
          enabled && infos.identity other == infos.identity handle) =
        decide (infos.identity handle ∈
          (before.filter Prod.snd).map
            fun entry => infos.identity entry.1) := by
      rw [Bool.eq_iff_iff, List.any_eq_true, decide_eq_true_iff, List.mem_map]
      constructor
      · rintro ⟨entry, member, isSame⟩
        obtain ⟨enabled, same⟩ := Bool.and_eq_true_iff.mp isSame
        exact ⟨entry, List.mem_filter.mpr ⟨member, enabled⟩, eq_of_beq same⟩
      · rintro ⟨entry, member, same⟩
        obtain ⟨inside, enabled⟩ := List.mem_filter.mp member
        exact ⟨entry, inside,
          Bool.and_eq_true_iff.mpr ⟨enabled, beq_iff_eq.mpr same⟩⟩
    rw [syncEnable, seen, firsts]
    split
    · next old =>
      rw [decide_eq_true old, Bool.not_true]
      change enabledSyncs rest _ = _
      rw [ih]
      simp
    · next new =>
      rw [decide_eq_false new, Bool.not_false]
      change handle :: enabledSyncs rest _ = _
      rw [ih]
      congr 1
      apply firsts_congr
      intro value
      simp [or_comm]

/-- The marked sources are the first occurrences of the sources. -/
theorem srcSyncs_eq_firsts :
    psKick.srcSyncs infos = firsts infos.identity [] psKick.ahSrcSyncInfo :=
  enabledSyncs_syncEnable [] _

/-- The marked destinations are the first occurrences of the destinations. -/
theorem dstSyncs_eq_firsts :
    psKick.dstSyncs infos = firsts infos.identity [] psKick.ahDstSyncInfo :=
  enabledSyncs_syncEnable [] _

/-! ## The operations of a transfer -/

/-- The operations of a transfer on the sync objects of the cores. -/
def TransferKick.coreOps
    (infos : SyncInfos)
    (psKick : TransferKick) :
    Operations :=
  optionalOp infos writeOp psKick.hTASyncInfo +
    optionalOp infos writeOp psKick.h3DSyncInfo

/-- The operations of a transfer on its lists. -/
def TransferKick.listOps
    (infos : SyncInfos)
    (psKick : TransferKick) :
    Operations :=
  if psKick.keepsPending then 0
  else
    operations infos readOp (psKick.srcSyncs infos) +
      operations infos writeOp (psKick.dstSyncs infos)

theorem pendings_transferCoreSync
    (offset : Nat)
    (handle : Option Address) :
    pendings (transferCoreSync infos offset handle state).table =
      pendings state.table + optionalOp infos writeOp handle := by
  unfold transferCoreSync
  cases handle with
  | none => simp [optionalOp]
  | some handle => simp [optionalOp]

theorem pendings_transferCoreSyncs :
    pendings (transferCoreSyncs infos psKick state).table =
      pendings state.table + psKick.coreOps infos := by
  rw [transferCoreSyncs, pendings_transferCoreSync, pendings_transferCoreSync,
    TransferKick.coreOps, add_assoc]

/-- A transfer becomes pending on the sync objects of the cores and on its
lists. -/
theorem pendings_transferPrepare :
    pendings (transferPrepare infos psKick state).table =
      pendings state.table +
        (psKick.coreOps infos + psKick.listOps infos) := by
  unfold transferPrepare TransferKick.listOps
  cases psKick.keepsPending with
  | true =>
    rw [if_pos rfl, if_pos rfl, add_zero]
    exact pendings_transferCoreSyncs
  | false =>
    rw [if_neg Bool.false_ne_true, if_neg Bool.false_ne_true, transferPend,
      pendings_changeAll pendings_pendWrite,
      pendings_changeAll pendings_pendRead, pendings_transferCoreSyncs]
    simp only [add_assoc]

/-- A transfer that is to be tried again takes back all its operations. -/
theorem pendings_transferUndo
    (table : SyncTable) :
    pendings (transferUndo infos psKick table) =
      pendings table - (psKick.coreOps infos + psKick.listOps infos) := by
  have undo : ∀ table handles,
      pendings (changeAll infos unpendWrite table handles) =
        pendings table - operations infos writeOp handles :=
    pendings_changeAll_undo pendings_unpendWrite
  unfold transferUndo TransferKick.listOps TransferKick.coreOps optionalOp
  rw [undo, undo]
  cases psKick.keepsPending with
  | true => simp [sub_sub]
  | false =>
    rw [if_neg Bool.false_ne_true, if_neg Bool.false_ne_true, undo,
      pendings_changeAll_undo pendings_unpendRead]
    abel

end PvrServices.SgxSubmit
