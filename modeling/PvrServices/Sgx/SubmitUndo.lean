import PvrServices.Sgx.Transfer

/-!
# Submissions that fail

A submission whose command could not be scheduled should leave the pending
counters as they were.  A kick undoes its operations only when it is told to
try again, and then leaves those on the sync objects of the cores pending; a
transfer undoes all of its operations, and also only then.
-/

namespace PvrServices.SgxSubmit

open Resman (PvrsrvError pvrsrvOk)

variable {infos : SyncInfos} {psCCBKick : SgxCcbKick} {psKick : TransferKick}
  {uAllocSize : Nat} {eSchedule : PvrsrvError}

/-- The pending counters of every sync info are what they were. -/
def SamePending
    (infos : SyncInfos)
    (before after : SyncTable) :
    Prop :=
  ∀ psSyncInfo,
    (after (infos.psSyncData psSyncInfo)).ui32ReadOpsPending =
        (before (infos.psSyncData psSyncInfo)).ui32ReadOpsPending ∧
      (after (infos.psSyncData psSyncInfo)).ui32WriteOpsPending =
        (before (infos.psSyncData psSyncInfo)).ui32WriteOpsPending

/-- No sync info is used by the operations. -/
def NoOps (infos : SyncInfos) (operations : Operations) : Prop :=
  ∀ psSyncInfo, operations (infos.psSyncData psSyncInfo) = 0

/-- The counters are the same when nothing was added to them. -/
theorem samePending_iff
    {before after : SyncTable}
    {added : Operations}
    (adds : pendings after = pendings before + added) :
    SamePending infos before after ↔ NoOps infos added := by
  have same : ∀ psSyncInfo,
      pendings after (infos.psSyncData psSyncInfo) =
          pendings before (infos.psSyncData psSyncInfo) ↔
        added (infos.psSyncData psSyncInfo) = 0 := by
    intro psSyncInfo
    rw [adds, Pi.add_apply]
    exact add_eq_left
  constructor
  · intro kept psSyncInfo
    apply (same psSyncInfo).mp
    ext1
    · exact (kept psSyncInfo).1
    · exact (kept psSyncInfo).2
  · intro none psSyncInfo
    have kept := (same psSyncInfo).mpr (none psSyncInfo)
    exact ⟨congrArg OpCount.reads kept, congrArg OpCount.writes kept⟩

/-! ## Few operations are seen -/

/-- The read and write operations of two short lists cancel only when the
lists are empty. -/
theorem noOps_iff_nil
    {reads writes : List Address}
    (fewReads : reads.length < 2 ^ 32)
    (fewWrites : writes.length < 2 ^ 32) :
    NoOps infos
        (operations infos readOp reads + operations infos writeOp writes) ↔
      reads = [] ∧ writes = [] := by
  have value : ∀ handle,
      (operations infos readOp reads + operations infos writeOp writes)
          (infos.psSyncData handle) =
        ⟨BitVec.ofNat 32 (uses infos reads (infos.psSyncData handle)),
          BitVec.ofNat 32 (uses infos writes (infos.psSyncData handle))⟩ := by
    intro handle
    rw [Pi.add_apply, operations_readOp_apply, operations_writeOp_apply]
    ext1
    · exact BitVec.add_zero _
    · exact BitVec.zero_add _
  -- A handle in a short list is counted.
  have counted : ∀ (handles : List Address) (handle : Address),
      handles.length < 2 ^ 32 → handle ∈ handles →
        BitVec.ofNat 32 (uses infos handles (infos.psSyncData handle)) ≠
          0 := by
    intro handles handle few member zero
    have bound : uses infos handles (infos.psSyncData handle) < 2 ^ 32 :=
      Nat.lt_of_le_of_lt List.countP_le_length few
    have number := congrArg BitVec.toNat zero
    rw [BitVec.toNat_ofNat, Nat.mod_eq_of_lt bound] at number
    exact Nat.ne_of_gt (uses_pos member) number
  constructor
  · intro none
    constructor
    · apply List.eq_nil_iff_forall_not_mem.mpr
      intro handle member
      have zero := congrArg OpCount.reads (none handle)
      rw [value handle] at zero
      exact counted reads handle fewReads member zero
    · apply List.eq_nil_iff_forall_not_mem.mpr
      intro handle member
      have zero := congrArg OpCount.writes (none handle)
      rw [value handle] at zero
      exact counted writes handle fewWrites member zero
  · rintro ⟨rfl, rfl⟩ psSyncInfo
    rfl

/-! ## Kicks -/

/-- The kick is pending on no sync object of the cores. -/
def SgxCcbKick.coreFree (psCCBKick : SgxCcbKick) : Prop :=
  psCCBKick.hTASyncInfo = none ∧ psCCBKick.h3DSyncInfo = none ∧
    (psCCBKick.bTADependency = true → psCCBKick.hTA3DSyncInfo = none)

/-- When a kick leaves no counter changed. -/
def KickRestores
    (infos : SyncInfos)
    (uAllocSize : Nat)
    (psCCBKick : SgxCcbKick)
    (eSchedule : PvrsrvError) :
    Prop :=
  ccbOffsetIsValid sizeofCmdTaShared uAllocSize
      psCCBKick.ui32CCBOffset = true → eSchedule ≠ pvrsrvOk →
    if eSchedule = pvrsrvErrorRetry then psCCBKick.coreFree
    else NoOps infos (psCCBKick.coreOps infos + psCCBKick.listOps infos)

/-- The operations on the sync objects of the cores as two lists. -/
theorem coreOps_eq :
    psCCBKick.coreOps infos =
      operations infos readOp
          (psCCBKick.hTASyncInfo.toList ++ psCCBKick.h3DSyncInfo.toList) +
        operations infos writeOp
          (if psCCBKick.bTADependency then psCCBKick.hTA3DSyncInfo.toList
          else []) := by
  unfold SgxCcbKick.coreOps optionalOp operations
  rw [List.map_append, List.sum_append]
  cases psCCBKick.bTADependency with
  | false => simp
  | true =>
    rw [if_pos rfl, if_pos rfl]
    abel

/-- A kick uses a sync object of the cores whenever it has one. -/
theorem noOps_coreOps_iff (infos : SyncInfos) :
    NoOps infos (psCCBKick.coreOps infos) ↔ psCCBKick.coreFree := by
  have fewReads : (psCCBKick.hTASyncInfo.toList ++
      psCCBKick.h3DSyncInfo.toList).length < 2 ^ 32 := by
    cases psCCBKick.hTASyncInfo <;> cases psCCBKick.h3DSyncInfo <;> simp
  have fewWrites : (if psCCBKick.bTADependency then
      psCCBKick.hTA3DSyncInfo.toList else []).length < 2 ^ 32 := by
    cases psCCBKick.bTADependency <;> cases psCCBKick.hTA3DSyncInfo <;> simp
  rw [coreOps_eq, noOps_iff_nil fewReads fewWrites, SgxCcbKick.coreFree,
    List.append_eq_nil_iff, Option.toList_eq_nil_iff,
    Option.toList_eq_nil_iff, and_assoc]
  cases psCCBKick.bTADependency with
  | false => simp
  | true => simp

/-- What a kick leaves in the pending counters. -/
theorem kick_restores_iff
    {state : KickState} :
    (ccbOffsetIsValid sizeofCmdTaShared uAllocSize
        psCCBKick.ui32CCBOffset = true → eSchedule ≠ pvrsrvOk →
      SamePending infos state.table
        (sgxDoKick infos uAllocSize psCCBKick eSchedule state).2.table) ↔
      KickRestores infos uAllocSize psCCBKick eSchedule := by
  unfold KickRestores
  apply forall_congr'
  intro valid
  apply forall_congr'
  intro _
  unfold sgxDoKick
  rw [if_pos valid]
  split
  · rw [← noOps_coreOps_iff infos]
    apply samePending_iff
    rw [pendings_kickUndo, pendings_kickPrepare, ← add_assoc,
      add_sub_cancel_right]
  · exact samePending_iff pendings_kickPrepare

/-! ## Transfers -/

/-- When a transfer leaves no counter changed. -/
def TransferRestores
    (uAllocSize : Nat)
    (psKick : TransferKick)
    (eSchedule : PvrsrvError) :
    Prop :=
  ccbOffsetIsValid sizeofTransferCmdShared uAllocSize
      psKick.ui32SharedCmdCCBOffset = true → eSchedule ≠ pvrsrvOk →
    eSchedule = pvrsrvErrorRetry ∨
      (psKick.hTASyncInfo = none ∧ psKick.h3DSyncInfo = none ∧
        (psKick.keepsPending = true ∨
          (psKick.ahSrcSyncInfo = [] ∧ psKick.ahDstSyncInfo = [])))

/-- The operations of a transfer as two lists. -/
theorem transferOps_eq :
    psKick.coreOps infos + psKick.listOps infos =
      operations infos readOp
          (if psKick.keepsPending then [] else psKick.srcSyncs infos) +
        operations infos writeOp
          (psKick.hTASyncInfo.toList ++ psKick.h3DSyncInfo.toList ++
            if psKick.keepsPending then [] else psKick.dstSyncs infos) := by
  unfold TransferKick.coreOps TransferKick.listOps optionalOp operations
  rw [List.map_append, List.map_append, List.sum_append, List.sum_append]
  cases psKick.keepsPending with
  | true => simp
  | false =>
    rw [if_neg Bool.false_ne_true, if_neg Bool.false_ne_true,
      if_neg Bool.false_ne_true]
    abel

open FirstOccurrences in
/-- A list has first occurrences unless it is empty. -/
theorem firsts_eq_nil_iff
    {handles : List Address} :
    firsts infos.identity [] handles = [] ↔ handles = [] := by
  cases handles with
  | nil => simp [firsts]
  | cons handle rest => simp [firsts]

/-- A transfer uses a sync object whenever it has one. -/
theorem noOps_transferOps_iff (infos : SyncInfos) :
    NoOps infos (psKick.coreOps infos + psKick.listOps infos) ↔
      psKick.hTASyncInfo = none ∧ psKick.h3DSyncInfo = none ∧
        (psKick.keepsPending = true ∨
          (psKick.ahSrcSyncInfo = [] ∧ psKick.ahDstSyncInfo = [])) := by
  have src : (psKick.srcSyncs infos).length ≤ 5 := by
    rw [srcSyncs_eq_firsts]
    exact FirstOccurrences.firsts_sublist.length_le.trans psKick.srcBound
  have dst : (psKick.dstSyncs infos).length ≤ 5 := by
    rw [dstSyncs_eq_firsts]
    exact FirstOccurrences.firsts_sublist.length_le.trans psKick.dstBound
  have fewReads : (if psKick.keepsPending then []
      else psKick.srcSyncs infos).length < 2 ^ 32 := by
    split
    · simp
    · omega
  have fewWrites : (psKick.hTASyncInfo.toList ++
      psKick.h3DSyncInfo.toList ++
        if psKick.keepsPending then [] else psKick.dstSyncs infos).length <
      2 ^ 32 := by
    rw [List.length_append, List.length_append]
    have ta : psKick.hTASyncInfo.toList.length ≤ 1 := by
      cases psKick.hTASyncInfo <;> simp
    have threeD : psKick.h3DSyncInfo.toList.length ≤ 1 := by
      cases psKick.h3DSyncInfo <;> simp
    split
    · simp only [List.length_nil]
      omega
    · omega
  rw [transferOps_eq, noOps_iff_nil fewReads fewWrites,
    List.append_eq_nil_iff, List.append_eq_nil_iff,
    Option.toList_eq_nil_iff, Option.toList_eq_nil_iff, srcSyncs_eq_firsts,
    dstSyncs_eq_firsts]
  cases psKick.keepsPending with
  | true => simp
  | false =>
    simp only [Bool.false_eq_true, if_false, firsts_eq_nil_iff, false_or]
    tauto

/-- What a transfer leaves in the pending counters. -/
theorem transfer_restores_iff
    {state : TransferState} :
    (ccbOffsetIsValid sizeofTransferCmdShared uAllocSize
        psKick.ui32SharedCmdCCBOffset = true → eSchedule ≠ pvrsrvOk →
      SamePending infos state.table
        (sgxSubmitTransfer infos uAllocSize psKick eSchedule state).2.table) ↔
      TransferRestores uAllocSize psKick eSchedule := by
  unfold TransferRestores
  apply forall_congr'
  intro valid
  apply forall_congr'
  intro _
  unfold sgxSubmitTransfer
  rw [if_pos valid]
  split
  · next retries =>
    apply iff_of_true
    · have restored : pendings (transferUndo infos psKick
          (transferPrepare infos psKick state).table) =
          pendings state.table + 0 := by
        rw [pendings_transferUndo, pendings_transferPrepare, add_zero,
          add_sub_cancel_right]
      apply (samePending_iff restored).mpr
      intro _
      rfl
    · exact .inl retries
  · next final =>
    rw [or_iff_right final, ← noOps_transferOps_iff infos]
    exact samePending_iff pendings_transferPrepare

/-! ## Submissions -/

/-- A submission whose command cannot be scheduled restores the pending
counters exactly in these cases. -/
theorem submit_restores_iff (infos : SyncInfos) :
    (∀ uAllocSize psCCBKick eSchedule state,
      (ccbOffsetIsValid sizeofCmdTaShared uAllocSize
          psCCBKick.ui32CCBOffset = true → eSchedule ≠ pvrsrvOk →
        SamePending infos state.table
          (sgxDoKick infos uAllocSize psCCBKick eSchedule state).2.table) ↔
        KickRestores infos uAllocSize psCCBKick eSchedule) ∧
      ∀ uAllocSize psKick eSchedule state,
        (ccbOffsetIsValid sizeofTransferCmdShared uAllocSize
            psKick.ui32SharedCmdCCBOffset = true → eSchedule ≠ pvrsrvOk →
          SamePending infos state.table
            (sgxSubmitTransfer infos uAllocSize psKick eSchedule
              state).2.table) ↔
          TransferRestores uAllocSize psKick eSchedule :=
  ⟨fun _ _ _ _ => kick_restores_iff, fun _ _ _ _ => transfer_restores_iff⟩

/-- One sync object behind every handle. -/
def oneSyncInfo : SyncInfos where
  psSyncInfo := fun _ => ⟨0, 0, 4⟩
  identified := fun _ _ => iff_of_true rfl rfl

/-- A kick with a sync object for the TA only. -/
def taKick : SgxCcbKick where
  ui32CCBOffset := 0
  hTA3DSyncInfo := none
  bTADependency := false
  hTASyncInfo := some 0
  h3DSyncInfo := none
  asTAStatusUpdate := []
  as3DStatusUpdate := []
  ahSrcKernelSyncInfo := []
  bFirstKickOrResume := false
  pahDstSyncHandles := []
  taStatusBound := by decide
  threeDStatusBound := by decide
  srcBound := by decide
  dstBound := by decide

/-- No operation is pending, and the command is empty. -/
def idleKickState : KickState where
  table := fun _ => ⟨0, 0, 0, 0⟩
  psTACmd :=
    { ui32CtrlFlags := 0
      ui32NumTAStatusVals := 0
      ui32Num3DStatusVals := 0
      sTATQSync := ⟨0, 0, 0, 0⟩
      s3DTQSync := ⟨0, 0, 0, 0⟩
      ui32NumSrcSyncs := 0
      asSrcSyncs := fun _ => ⟨0, 0, 0, 0⟩
      sTA3DDependency := ⟨0, 0, 0, 0⟩
      sCtlTAStatusInfo := fun _ => ⟨0, 0⟩
      sCtl3DStatusInfo := fun _ => ⟨0, 0⟩ }
  psHWDeviceSyncList := ⟨0, fun _ => ⟨0, 0, 0, 0⟩⟩

/-- A kick that is to be tried again leaves a read operation pending on the
sync object of the TA. -/
theorem submit_restores_taKick :
    ¬ ∀ infos : SyncInfos,
      (∀ uAllocSize psCCBKick eSchedule state,
        ccbOffsetIsValid sizeofCmdTaShared uAllocSize
            psCCBKick.ui32CCBOffset = true → eSchedule ≠ pvrsrvOk →
          SamePending infos state.table
            (sgxDoKick infos uAllocSize psCCBKick eSchedule state).2.table) ∧
        ∀ uAllocSize psKick eSchedule state,
          ccbOffsetIsValid sizeofTransferCmdShared uAllocSize
              psKick.ui32SharedCmdCCBOffset = true → eSchedule ≠ pvrsrvOk →
            SamePending infos state.table
              (sgxSubmitTransfer infos uAllocSize psKick eSchedule
                state).2.table := by
  intro restores
  have kept := (restores oneSyncInfo).1 480 taKick pvrsrvErrorRetry
    idleKickState rfl (by decide) 0
  exact absurd kept.1 (by decide)

end PvrServices.SgxSubmit
