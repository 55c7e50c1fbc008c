import PvrServices.Queue.Sync
import Mathlib.Algebra.Group.Pi.Lemmas

/-!
# Pending operations on sync objects

A command for the SGX waits for the operations that are pending on its sync
objects and becomes pending on them itself.  The pending counters of all sync
data together are a vector of pairs of 32-bit words, and each operation adds
to that vector.
-/

namespace PvrServices.SgxSubmit

open SyncQueue (SyncData)

/-- Address of sync data or of a sync info. -/
abbrev Address := Nat

/-- The fields of `PVRSRV_KERNEL_SYNC_INFO` that a command uses. -/
structure KernelSyncInfo where
  psSyncData : Address
  sWriteOpsCompleteDevVAddr : BitVec 32
  sReadOpsCompleteDevVAddr : BitVec 32
deriving DecidableEq, Repr

/-- The sync infos by their handles.  The device address of a counter comes
from the allocation of the sync data, so that it identifies them. -/
structure SyncInfos where
  psSyncInfo : Address → KernelSyncInfo
  identified : ∀ first second,
    (psSyncInfo first).sWriteOpsCompleteDevVAddr =
        (psSyncInfo second).sWriteOpsCompleteDevVAddr ↔
      (psSyncInfo first).psSyncData = (psSyncInfo second).psSyncData

/-- The sync data behind a handle. -/
def SyncInfos.psSyncData (infos : SyncInfos) (handle : Address) : Address :=
  (infos.psSyncInfo handle).psSyncData

/-- `PVRSRV_DEVICE_SYNC_OBJECT`. -/
structure DeviceSyncObject where
  ui32ReadOpsPendingVal : BitVec 32
  sReadOpsCompleteDevVAddr : BitVec 32
  ui32WriteOpsPendingVal : BitVec 32
  sWriteOpsCompleteDevVAddr : BitVec 32
deriving DecidableEq, Repr

/-- All sync data by their addresses. -/
abbrev SyncTable := Address → SyncData

/-- Changes the sync data at an address. -/
def change
    (update : SyncData → SyncData)
    (table : SyncTable)
    (psSyncData : Address) :
    SyncTable :=
  Function.update table psSyncData (update (table psSyncData))

/-- `ui32ReadOpsPending++`. -/
def pendRead (data : SyncData) : SyncData :=
  { data with ui32ReadOpsPending := data.ui32ReadOpsPending + 1 }

/-- `ui32WriteOpsPending++`. -/
def pendWrite (data : SyncData) : SyncData :=
  { data with ui32WriteOpsPending := data.ui32WriteOpsPending + 1 }

/-- `ui32ReadOpsPending--`. -/
def unpendRead (data : SyncData) : SyncData :=
  { data with ui32ReadOpsPending := data.ui32ReadOpsPending - 1 }

/-- `ui32WriteOpsPending--`. -/
def unpendWrite (data : SyncData) : SyncData :=
  { data with ui32WriteOpsPending := data.ui32WriteOpsPending - 1 }

/-- Samples the counters of a sync info. -/
def sample
    (infos : SyncInfos)
    (table : SyncTable)
    (handle : Address) :
    DeviceSyncObject where
  ui32ReadOpsPendingVal := (table (infos.psSyncData handle)).ui32ReadOpsPending
  sReadOpsCompleteDevVAddr :=
    (infos.psSyncInfo handle).sReadOpsCompleteDevVAddr
  ui32WriteOpsPendingVal :=
    (table (infos.psSyncData handle)).ui32WriteOpsPending
  sWriteOpsCompleteDevVAddr :=
    (infos.psSyncInfo handle).sWriteOpsCompleteDevVAddr

/-! ## The pending counters as a vector -/

/-- A number of read and a number of write operations, as the counters count
them. -/
@[ext]
structure OpCount where
  reads : BitVec 32
  writes : BitVec 32
deriving DecidableEq, Repr

namespace OpCount

instance : Add OpCount :=
  ⟨fun first second =>
    ⟨first.reads + second.reads, first.writes + second.writes⟩⟩

instance : Zero OpCount := ⟨⟨0, 0⟩⟩

instance : Neg OpCount := ⟨fun count => ⟨-count.reads, -count.writes⟩⟩

@[simp] theorem reads_add (first second : OpCount) :
    (first + second).reads = first.reads + second.reads := rfl

@[simp] theorem writes_add (first second : OpCount) :
    (first + second).writes = first.writes + second.writes := rfl

@[simp] theorem reads_neg (count : OpCount) :
    (-count).reads = -count.reads := rfl

@[simp] theorem writes_neg (count : OpCount) :
    (-count).writes = -count.writes := rfl

instance : AddCommGroup OpCount where
  add_assoc := by
    intro first second third
    ext1
    · exact BitVec.add_assoc _ _ _
    · exact BitVec.add_assoc _ _ _
  zero_add := by
    intro count
    ext1
    · exact BitVec.zero_add _
    · exact BitVec.zero_add _
  add_zero := by
    intro count
    ext1
    · exact BitVec.add_zero _
    · exact BitVec.add_zero _
  neg_add_cancel := by
    intro count
    ext1
    · exact BitVec.add_left_neg _
    · exact BitVec.add_left_neg _
  add_comm := by
    intro first second
    ext1
    · exact BitVec.add_comm _ _
    · exact BitVec.add_comm _ _
  nsmul := nsmulRec
  zsmul := zsmulRec

end OpCount

/-- Numbers of operations by sync data. -/
abbrev Operations := Address → OpCount

/-- The pending counters of all sync data. -/
def pendings (table : SyncTable) : Operations :=
  fun psSyncData =>
    ⟨(table psSyncData).ui32ReadOpsPending,
      (table psSyncData).ui32WriteOpsPending⟩

/-- One read operation. -/
def readOp (psSyncData : Address) : Operations :=
  Pi.single psSyncData ⟨1, 0⟩

/-- One write operation. -/
def writeOp (psSyncData : Address) : Operations :=
  Pi.single psSyncData ⟨0, 1⟩

variable {table : SyncTable} {psSyncData : Address}
  {update : SyncData → SyncData}

/-- A change of one counter adds to the vector at that counter. -/
theorem pendings_change
    {amount : OpCount}
    (reads : ∀ data, (update data).ui32ReadOpsPending =
      data.ui32ReadOpsPending + amount.reads)
    (writes : ∀ data, (update data).ui32WriteOpsPending =
      data.ui32WriteOpsPending + amount.writes) :
    pendings (change update table psSyncData) =
      pendings table + Pi.single psSyncData amount := by
  funext other
  rw [Pi.add_apply]
  rcases eq_or_ne other psSyncData with rfl | different
  · rw [Pi.single_eq_same]
    simp only [pendings, change, Function.update_self]
    ext1
    · exact reads _
    · exact writes _
  · rw [Pi.single_eq_of_ne different, add_zero]
    simp only [pendings, change, Function.update_of_ne different]

@[simp] theorem pendings_pendRead (table : SyncTable) (psSyncData : Address) :
    pendings (change pendRead table psSyncData) =
      pendings table + readOp psSyncData := by
  apply pendings_change
  · intro data
    rfl
  · intro data
    exact (BitVec.add_zero _).symm

@[simp] theorem pendings_pendWrite (table : SyncTable) (psSyncData : Address) :
    pendings (change pendWrite table psSyncData) =
      pendings table + writeOp psSyncData := by
  apply pendings_change
  · intro data
    exact (BitVec.add_zero _).symm
  · intro data
    rfl

@[simp] theorem pendings_unpendRead
    (table : SyncTable) (psSyncData : Address) :
    pendings (change unpendRead table psSyncData) =
      pendings table - readOp psSyncData := by
  rw [sub_eq_add_neg, readOp, ← Pi.single_neg]
  apply pendings_change
  · intro data
    exact BitVec.sub_eq_add_neg _ _
  · intro data
    simp [unpendRead]

@[simp] theorem pendings_unpendWrite
    (table : SyncTable) (psSyncData : Address) :
    pendings (change unpendWrite table psSyncData) =
      pendings table - writeOp psSyncData := by
  rw [sub_eq_add_neg, writeOp, ← Pi.single_neg]
  apply pendings_change
  · intro data
    simp [unpendWrite]
  · intro data
    exact BitVec.sub_eq_add_neg _ _

/-- Operations on the sync data of a list of handles. -/
def operations
    (infos : SyncInfos)
    (operation : Address → Operations)
    (handles : List Address) :
    Operations :=
  (handles.map fun handle => operation (infos.psSyncData handle)).sum

variable (infos : SyncInfos)

@[simp] theorem operations_nil
    (operation : Address → Operations) :
    operations infos operation [] = 0 :=
  rfl

@[simp] theorem operations_cons
    (operation : Address → Operations)
    (handle : Address)
    (handles : List Address) :
    operations infos operation (handle :: handles) =
      operation (infos.psSyncData handle) +
        operations infos operation handles :=
  rfl

/-- A change for each handle of a list. -/
def changeAll
    (infos : SyncInfos)
    (update : SyncData → SyncData)
    (table : SyncTable)
    (handles : List Address) :
    SyncTable :=
  handles.foldl
    (fun table handle => change update table (infos.psSyncData handle)) table

variable {infos : SyncInfos} {operation : Address → Operations}

/-- A loop adds its operations. -/
theorem pendings_changeAll
    (adds : ∀ table psSyncData,
      pendings (change update table psSyncData) =
        pendings table + operation psSyncData)
    (table : SyncTable)
    (handles : List Address) :
    pendings (changeAll infos update table handles) =
      pendings table + operations infos operation handles := by
  unfold changeAll
  induction handles generalizing table with
  | nil => exact (add_zero _).symm
  | cons handle rest ih =>
    rw [List.foldl_cons, ih, adds, operations_cons, add_assoc]

/-- A loop takes its operations back. -/
theorem pendings_changeAll_undo
    (subtracts : ∀ table psSyncData,
      pendings (change update table psSyncData) =
        pendings table - operation psSyncData)
    (table : SyncTable)
    (handles : List Address) :
    pendings (changeAll infos update table handles) =
      pendings table - operations infos operation handles := by
  unfold changeAll
  induction handles generalizing table with
  | nil => exact (sub_zero _).symm
  | cons handle rest ih =>
    rw [List.foldl_cons, ih, subtracts, operations_cons, sub_sub]

/-! ## Counting -/

/-- How many of the handles are for the sync data. -/
def uses
    (infos : SyncInfos)
    (handles : List Address)
    (psSyncData : Address) :
    Nat :=
  handles.countP fun handle => infos.psSyncData handle == psSyncData

/-- A list of read operations counts the uses of each sync data. -/
theorem operations_readOp_apply
    (handles : List Address)
    (psSyncData : Address) :
    operations infos readOp handles psSyncData =
      ⟨BitVec.ofNat 32 (uses infos handles psSyncData), 0⟩ := by
  induction handles with
  | nil => rfl
  | cons handle rest ih =>
    rw [operations_cons, Pi.add_apply, ih, uses, uses, List.countP_cons]
    rcases eq_or_ne (infos.psSyncData handle) psSyncData with rfl | other
    · rw [readOp, Pi.single_eq_same]
      simp only [beq_self_eq_true, if_true, BitVec.ofNat_add]
      ext1
      · exact BitVec.add_comm _ _
      · rfl
    · rw [readOp, Pi.single_eq_of_ne other.symm, zero_add]
      simp [other]

/-- A list of write operations counts the uses of each sync data. -/
theorem operations_writeOp_apply
    (handles : List Address)
    (psSyncData : Address) :
    operations infos writeOp handles psSyncData =
      ⟨0, BitVec.ofNat 32 (uses infos handles psSyncData)⟩ := by
  induction handles with
  | nil => rfl
  | cons handle rest ih =>
    rw [operations_cons, Pi.add_apply, ih, uses, uses, List.countP_cons]
    rcases eq_or_ne (infos.psSyncData handle) psSyncData with rfl | other
    · rw [writeOp, Pi.single_eq_same]
      simp only [beq_self_eq_true, if_true, BitVec.ofNat_add]
      ext1
      · rfl
      · exact BitVec.add_comm _ _
    · rw [writeOp, Pi.single_eq_of_ne other.symm, zero_add]
      simp [other]

/-- The sync data of a handle in the list are used. -/
theorem uses_pos
    {handles : List Address}
    {handle : Address}
    (member : handle ∈ handles) :
    0 < uses infos handles (infos.psSyncData handle) :=
  List.countP_pos_iff.mpr ⟨handle, member, beq_self_eq_true _⟩

end PvrServices.SgxSubmit
