import PvrServices.Sgx.Transfer

/-!
# The sync objects of a transfer

Whatever its lists repeat, a transfer samples each source once and in order,
becomes pending on each source and destination once, and writes how many there
are.  A transfer that keeps its pending operations does none of this but the
counting.
-/

namespace PvrServices.SgxSubmit

open FirstOccurrences
open Resman (PvrsrvError pvrsrvOk)
open SharedCmd (dstSyncs numDstSyncs numSrcSyncs srcSyncs)

variable {infos : SyncInfos} {psKick : TransferKick} {state : TransferState}
  {handles marked : List Address} {table : SyncTable} {array word : Nat}
  {cmd : SharedCmd}

/-! ## Each sync object once -/

/-- The marked handles are the sync objects of a list, each once and in the
order of the list. -/
structure Deduplicated
    (infos : SyncInfos)
    (handles marked : List Address) :
    Prop where
  ordered : marked.Sublist handles
  distinct : (marked.map infos.psSyncData).Nodup
  all : ∀ handle, infos.psSyncData handle ∈ marked.map infos.psSyncData ↔
    infos.psSyncData handle ∈ handles.map infos.psSyncData

/-- Sync data are told apart by the device address of their counter. -/
theorem mem_map_identity
    {handle : Address} :
    infos.identity handle ∈ handles.map infos.identity ↔
      infos.psSyncData handle ∈ handles.map infos.psSyncData := by
  rw [List.mem_map, List.mem_map]
  constructor
  · rintro ⟨other, member, same⟩
    exact ⟨other, member, (infos.identified other handle).mp same⟩
  · rintro ⟨other, member, same⟩
    exact ⟨other, member, (infos.identified other handle).mpr same⟩

/-- First occurrences have each sync object once. -/
theorem deduplicated_firsts :
    Deduplicated infos handles (firsts infos.identity [] handles) where
  ordered := firsts_sublist
  distinct := by
    have distinct : ((firsts infos.identity [] handles).map
        infos.identity).Nodup := nodup_firsts
    rw [List.Nodup, List.pairwise_map] at distinct ⊢
    apply distinct.imp
    intro first second different same
    exact different ((infos.identified first second).mpr same)
  all := by
    intro handle
    rw [← mem_map_identity, ← mem_map_identity]
    exact mem_map_firsts_nil

theorem deduplicated_srcSyncs :
    Deduplicated infos psKick.ahSrcSyncInfo (psKick.srcSyncs infos) := by
  rw [srcSyncs_eq_firsts]
  exact deduplicated_firsts

theorem deduplicated_dstSyncs :
    Deduplicated infos psKick.ahDstSyncInfo (psKick.dstSyncs infos) := by
  rw [dstSyncs_eq_firsts]
  exact deduplicated_firsts

/-- Uses are occurrences among the sync data. -/
theorem uses_eq_count (psSyncData : Address) :
    uses infos handles psSyncData =
      (handles.map infos.psSyncData).count psSyncData := by
  rw [uses, List.count, List.countP_map]
  rfl

/-- The marked handles use the sync data of the list once, and no others. -/
theorem Deduplicated.uses
    (deduplicated : Deduplicated infos handles marked)
    (handle : Address) :
    (infos.psSyncData handle ∈ handles.map infos.psSyncData →
        uses infos marked (infos.psSyncData handle) = 1) ∧
      (infos.psSyncData handle ∉ handles.map infos.psSyncData →
        uses infos marked (infos.psSyncData handle) = 0) := by
  rw [uses_eq_count, ← deduplicated.all handle]
  constructor
  · intro member
    exact List.count_eq_one_of_mem deduplicated.distinct member
  · intro absent
    exact List.count_eq_zero.mpr absent

/-! ## What is recorded -/

/-- The samples of the marked handles are the first entries of an array. -/
def Recorded
    (infos : SyncInfos)
    (table : SyncTable)
    (array : Nat)
    (marked : List Address)
    (cmd : SharedCmd) :
    Prop :=
  ∀ i (inside : i < marked.length),
    cmd.syncObject (array + 4 * i) = sample infos table marked[i]

namespace SharedCmd

variable {cmd : SharedCmd} {offset : Nat} {object : DeviceSyncObject}

@[simp] theorem syncObject_setSyncObject :
    (cmd.setSyncObject offset object).syncObject offset = object := by
  simp [syncObject, setSyncObject]

theorem setSyncObject_of_outside
    {word : Nat}
    (outside : word < offset ∨ offset + 4 ≤ word) :
    cmd.setSyncObject offset object word = cmd word := by
  unfold setSyncObject
  rw [if_neg (by omega), if_neg (by omega), if_neg (by omega),
    if_neg (by omega)]

/-- A sync object is read from its own four words. -/
theorem syncObject_congr
    (other : SharedCmd)
    (same : ∀ word, offset ≤ word → word < offset + 4 →
      cmd word = other word) :
    cmd.syncObject offset = other.syncObject offset := by
  unfold syncObject
  rw [same offset (by omega) (by omega), same (offset + 1) (by omega)
    (by omega), same (offset + 2) (by omega) (by omega),
    same (offset + 3) (by omega) (by omega)]

end SharedCmd

/-- Recording stays within the entries that are written. -/
theorem recordSyncs_of_outside
    {i : Nat}
    (outside : word < array + 4 * i ∨
      array + 4 * (i + handles.length) ≤ word) :
    recordSyncs infos table array i handles cmd word = cmd word := by
  induction handles generalizing i cmd with
  | nil => rfl
  | cons handle rest ih =>
    rw [List.length_cons] at outside
    rw [recordSyncs, ih (by omega),
      SharedCmd.setSyncObject_of_outside (by omega)]

/-- Each entry that is written holds its sample. -/
theorem syncObject_recordSyncs
    (cmd : SharedCmd)
    (i j : Nat)
    (inside : j < handles.length) :
    (recordSyncs infos table array i handles cmd).syncObject
        (array + 4 * (i + j)) =
      sample infos table handles[j] := by
  induction handles generalizing i j cmd with
  | nil => exact absurd inside (Nat.not_lt_zero j)
  | cons handle rest ih =>
    rw [recordSyncs]
    cases j with
    | zero =>
      rw [Nat.add_zero, List.getElem_cons_zero]
      rw [SharedCmd.syncObject_congr
        (cmd.setSyncObject (array + 4 * i) (sample infos table handle))]
      · exact SharedCmd.syncObject_setSyncObject
      · intro word _ _
        exact recordSyncs_of_outside (by omega)
    | succ j =>
      rw [List.length_cons] at inside
      have later := ih
        (cmd.setSyncObject (array + 4 * i) (sample infos table handle))
        (i + 1) j (by omega)
      rw [show i + 1 + j = i + (j + 1) by omega] at later
      exact later

/-- Recording a list fills the first entries of the array. -/
theorem recorded_recordSyncs (cmd : SharedCmd) :
    Recorded infos table array handles
      (recordSyncs infos table array 0 handles cmd) := by
  intro i inside
  have recorded : (recordSyncs infos table array 0 handles cmd).syncObject
      (array + 4 * (0 + i)) = sample infos table handles[i] :=
    syncObject_recordSyncs cmd 0 i inside
  rw [Nat.zero_add] at recorded
  exact recorded

/-! ## A transfer -/

/-- Every source has one more read operation pending, every destination one
more write operation, and nothing else changed. -/
structure PendedOnce
    (infos : SyncInfos)
    (psKick : TransferKick)
    (before after : SyncTable) :
    Prop where
  reads : ∀ handle,
    infos.psSyncData handle ∈ psKick.ahSrcSyncInfo.map infos.psSyncData →
      (after (infos.psSyncData handle)).ui32ReadOpsPending =
        (before (infos.psSyncData handle)).ui32ReadOpsPending + 1
  readsOther : ∀ handle,
    infos.psSyncData handle ∉ psKick.ahSrcSyncInfo.map infos.psSyncData →
      (after (infos.psSyncData handle)).ui32ReadOpsPending =
        (before (infos.psSyncData handle)).ui32ReadOpsPending
  writes : ∀ handle,
    infos.psSyncData handle ∈ psKick.ahDstSyncInfo.map infos.psSyncData →
      (after (infos.psSyncData handle)).ui32WriteOpsPending =
        (before (infos.psSyncData handle)).ui32WriteOpsPending + 1
  writesOther : ∀ handle,
    infos.psSyncData handle ∉ psKick.ahDstSyncInfo.map infos.psSyncData →
      (after (infos.psSyncData handle)).ui32WriteOpsPending =
        (before (infos.psSyncData handle)).ui32WriteOpsPending

/-- What a transfer adds to the counters of a sync info. -/
theorem pendings_transferPend
    (infos : SyncInfos)
    (psKick : TransferKick)
    (state : TransferState)
    (handle : Address) :
    pendings (transferPend infos psKick state).table
        (infos.psSyncData handle) =
      pendings state.table (infos.psSyncData handle) +
        ⟨BitVec.ofNat 32
            (uses infos (psKick.srcSyncs infos) (infos.psSyncData handle)),
          BitVec.ofNat 32
            (uses infos (psKick.dstSyncs infos)
              (infos.psSyncData handle))⟩ := by
  rw [transferPend, pendings_changeAll pendings_pendWrite,
    pendings_changeAll pendings_pendRead, Pi.add_apply, Pi.add_apply,
    operations_readOp_apply, operations_writeOp_apply, add_assoc]
  congr 1
  ext1
  · exact BitVec.add_zero _
  · exact BitVec.zero_add _

theorem pendedOnce_transferPend :
    PendedOnce infos psKick state.table
      (transferPend infos psKick state).table := by
  have reads := fun handle =>
    congrArg OpCount.reads (pendings_transferPend infos psKick state handle)
  have writes := fun handle =>
    congrArg OpCount.writes (pendings_transferPend infos psKick state handle)
  constructor
  · intro handle member
    apply (reads handle).trans
    rw [OpCount.reads_add, (deduplicated_srcSyncs.uses handle).1 member]
    rfl
  · intro handle absent
    apply (reads handle).trans
    rw [OpCount.reads_add, (deduplicated_srcSyncs.uses handle).2 absent]
    exact BitVec.add_zero _
  · intro handle member
    apply (writes handle).trans
    rw [OpCount.writes_add, (deduplicated_dstSyncs.uses handle).1 member]
    rfl
  · intro handle absent
    apply (writes handle).trans
    rw [OpCount.writes_add, (deduplicated_dstSyncs.uses handle).2 absent]
    exact BitVec.add_zero _

/-- The sources fit in their array. -/
theorem length_srcSyncs_le
    (infos : SyncInfos)
    (psKick : TransferKick) :
    (psKick.srcSyncs infos).length ≤ 5 :=
  deduplicated_srcSyncs.ordered.length_le.trans psKick.srcBound

theorem recorded_src_transferPend :
    Recorded infos state.table srcSyncs (psKick.srcSyncs infos)
      (transferPend infos psKick state).psSharedTransferCmd := by
  intro i inside
  have fits := length_srcSyncs_le infos psKick
  have layout : srcSyncs + 4 * 5 ≤ dstSyncs := by decide
  rw [transferPend]
  rw [SharedCmd.syncObject_congr
    (recordSyncs infos state.table srcSyncs 0
      (psKick.srcSyncs infos) state.psSharedTransferCmd)]
  · exact recorded_recordSyncs _ i inside
  · intro word _ _
    exact recordSyncs_of_outside (by omega)

theorem recorded_dst_transferPend :
    Recorded infos state.table dstSyncs (psKick.dstSyncs infos)
      (transferPend infos psKick state).psSharedTransferCmd :=
  recorded_recordSyncs _

/-- The numbers of sync objects stay outside the arrays. -/
theorem transferPend_counts
    (count : word = numSrcSyncs ∨ word = numDstSyncs) :
    (transferPend infos psKick state).psSharedTransferCmd word =
      state.psSharedTransferCmd word := by
  have fits := length_srcSyncs_le infos psKick
  have first : numSrcSyncs < srcSyncs := by decide
  have between : srcSyncs + 4 * 5 ≤ numDstSyncs := by
    decide
  have last : numDstSyncs < dstSyncs := by decide
  rw [transferPend]
  dsimp only
  rw [recordSyncs_of_outside (by omega), recordSyncs_of_outside (by omega)]

theorem transferCounts_numSrcSyncs (cmd : SharedCmd) :
    transferCounts infos psKick cmd numSrcSyncs =
      BitVec.ofNat 32 (psKick.srcSyncs infos).length := by
  rw [transferCounts, Function.update_of_ne (by decide), Function.update_self]

theorem transferCounts_numDstSyncs (cmd : SharedCmd) :
    transferCounts infos psKick cmd numDstSyncs =
      BitVec.ofNat 32 (psKick.dstSyncs infos).length := by
  rw [transferCounts, Function.update_self]

theorem transferCounts_of_ne
    (notSrc : word ≠ numSrcSyncs)
    (notDst : word ≠ numDstSyncs) :
    transferCounts infos psKick cmd word = cmd word := by
  rw [transferCounts, Function.update_of_ne notDst,
    Function.update_of_ne notSrc]

/-- Each source and destination is counted once, whatever the lists repeat.  A
transfer that does not keep its pending operations samples each source once,
and a destination if there is one, before it becomes pending on any of them,
and becomes pending on each once; one that keeps them becomes pending on none
and leaves the arrays alone. -/
theorem sgxSubmitTransfer_deduplicates
    (infos : SyncInfos)
    (uAllocSize : Nat)
    (psKick : TransferKick)
    (eSchedule : PvrsrvError)
    (state : TransferState)
    (valid : ccbOffsetIsValid sizeofTransferCmdShared uAllocSize
      psKick.ui32SharedCmdCCBOffset = true)
    (scheduled : eSchedule ≠ pvrsrvErrorRetry) :
    let sampled := transferCoreSyncs infos psKick state
    let after := (sgxSubmitTransfer infos uAllocSize psKick eSchedule state).2
    ∃ sources destinations,
      Deduplicated infos psKick.ahSrcSyncInfo sources ∧
        Deduplicated infos psKick.ahDstSyncInfo destinations ∧
        after.psSharedTransferCmd numSrcSyncs =
          BitVec.ofNat 32 sources.length ∧
        after.psSharedTransferCmd numDstSyncs =
          BitVec.ofNat 32 destinations.length ∧
        (psKick.keepsPending = false →
          PendedOnce infos psKick sampled.table after.table ∧
            Recorded infos sampled.table srcSyncs sources
              after.psSharedTransferCmd ∧
            (destinations.length ≤ sgxMaxDstSyncs →
              Recorded infos sampled.table dstSyncs destinations
                after.psSharedTransferCmd)) ∧
        (psKick.keepsPending = true →
          after.table = sampled.table ∧
            ∀ word, word ≠ numSrcSyncs →
              word ≠ numDstSyncs →
                after.psSharedTransferCmd word =
                  sampled.psSharedTransferCmd word) := by
  intro sampled after
  refine ⟨psKick.srcSyncs infos, psKick.dstSyncs infos,
    deduplicated_srcSyncs, deduplicated_dstSyncs, ?_⟩
  have afterIs : after = transferPrepare infos psKick state := by
    change (sgxSubmitTransfer infos uAllocSize psKick eSchedule state).2 = _
    rw [sgxSubmitTransfer, if_pos valid]
    exact congrArg Prod.snd (if_neg scheduled)
  rw [afterIs]
  unfold transferPrepare
  cases keeps : psKick.keepsPending with
  | true =>
    rw [if_pos rfl]
    refine ⟨?_, ?_, ?_, ?_⟩
    · exact transferCounts_numSrcSyncs sampled.psSharedTransferCmd
    · exact transferCounts_numDstSyncs sampled.psSharedTransferCmd
    · intro impossible
      cases impossible
    · intro _
      refine ⟨rfl, ?_⟩
      intro word notSrc notDst
      exact transferCounts_of_ne notSrc notDst
  | false =>
    rw [if_neg Bool.false_ne_true]
    refine ⟨?_, ?_, ?_, ?_⟩
    · rw [transferPend_counts (.inl rfl)]
      exact transferCounts_numSrcSyncs sampled.psSharedTransferCmd
    · rw [transferPend_counts (.inr rfl)]
      exact transferCounts_numDstSyncs sampled.psSharedTransferCmd
    · intro _
      refine ⟨pendedOnce_transferPend, ?_, ?_⟩
      · exact recorded_src_transferPend
      · intro _
        exact recorded_dst_transferPend
    · intro impossible
      cases impossible

/-- Two sync objects: that of handle 0 and that of all other handles. -/
def twoSyncInfos : SyncInfos where
  psSyncInfo := fun handle => if handle = 0 then ⟨0, 0, 4⟩ else ⟨1, 16, 20⟩
  identified := by
    intro first second
    split <;> split <;> decide

/-- A transfer between two sync objects that its lists repeat. -/
def repeatingKick (ui32Flags : BitVec 32) : TransferKick where
  ui32SharedCmdCCBOffset := 0
  hTASyncInfo := none
  h3DSyncInfo := none
  ahSrcSyncInfo := [0, 1, 0]
  ahDstSyncInfo := [1, 2]
  ui32Flags := ui32Flags
  srcBound := by decide
  dstBound := by decide

/-- Nothing is pending, and the command is empty. -/
def idleTransferState : TransferState where
  table := fun _ => ⟨0, 0, 0, 0⟩
  psSharedTransferCmd := fun _ => 0

/-- The transfer that repeats its sync objects counts and samples each of them
once. -/
theorem sgxSubmitTransfer_deduplicates_repeating :
    let after := (sgxSubmitTransfer twoSyncInfos 220 (repeatingKick 0) pvrsrvOk
      idleTransferState).2
    PendedOnce twoSyncInfos (repeatingKick 0) idleTransferState.table
        after.table ∧
      after.psSharedTransferCmd numSrcSyncs = 2 := by
  intro after
  obtain ⟨sources, destinations, -, -, -, -, pends, -⟩ :=
    sgxSubmitTransfer_deduplicates twoSyncInfos 220 (repeatingKick 0)
      pvrsrvOk idleTransferState rfl (by decide)
  exact ⟨(pends rfl).1, by decide⟩

/-- A transfer that keeps its pending operations does not become pending on
its sources. -/
theorem sgxSubmitTransfer_keepsPending :
    ¬ ∀ infos uAllocSize psKick eSchedule state,
      ccbOffsetIsValid sizeofTransferCmdShared uAllocSize
          psKick.ui32SharedCmdCCBOffset = true →
        eSchedule ≠ pvrsrvErrorRetry →
          let sampled := transferCoreSyncs infos psKick state
          let after :=
            (sgxSubmitTransfer infos uAllocSize psKick eSchedule state).2
          ∃ sources destinations,
            Deduplicated infos psKick.ahSrcSyncInfo sources ∧
              Deduplicated infos psKick.ahDstSyncInfo destinations ∧
              after.psSharedTransferCmd numSrcSyncs =
                BitVec.ofNat 32 sources.length ∧
              after.psSharedTransferCmd numDstSyncs =
                BitVec.ofNat 32 destinations.length ∧
              PendedOnce infos psKick sampled.table after.table ∧
              Recorded infos sampled.table srcSyncs sources
                after.psSharedTransferCmd ∧
              destinations.length ≤ sgxMaxDstSyncs ∧
              Recorded infos sampled.table dstSyncs destinations
                after.psSharedTransferCmd := by
  intro recorded
  obtain ⟨sources, destinations, -, -, -, -, pends, -⟩ :=
    recorded twoSyncInfos 220 (repeatingKick tqFlagsKeepPending) pvrsrvOk
      idleTransferState rfl (by decide)
  exact absurd (pends.reads 0 (by decide)) (by decide)

end PvrServices.SgxSubmit
