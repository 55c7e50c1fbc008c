import PvrServices.Queue.Sync

/-!
# Sync modification objects

A process modifies a sync info by hand through a modification object: it bumps
pending counts, and later the complete counts in turn.  The object is kept by
the resource manager, so that the modification is completed when the process
exits.  Bridge calls are made one at a time.  Objects, sync infos and memory
infos are named by their addresses; a call that uses one after it was freed
has no value.
-/

namespace PvrServices.SyncMod

open SyncQueue (SyncData)
open Function (update)

/-! ## Data -/

/-- `PVRSRV_MODIFYSYNCOPS_FLAGS_WO_INC`. -/
abbrev flagWoInc : BitVec 32 := 1

/-- `PVRSRV_MODIFYSYNCOPS_FLAGS_RO_INC`. -/
abbrev flagRoInc : BitVec 32 := 2

/-- The flag is set in `ui32ModifyFlags`. -/
def hasFlag (ui32ModifyFlags flag : BitVec 32) : Bool :=
  ui32ModifyFlags &&& flag != 0

/-- A resource manager item: not yet written, `NULL`, or registered. -/
inductive ResItem where
  | unset
  | null
  | registered
deriving DecidableEq, Repr

/-- What `ResManRegisterRes` returns. -/
def resManRegisterRes (registered : Bool) : ResItem :=
  if registered then .registered else .null

/-- `PVRSRV_KERNEL_SYNC_INFO`. -/
structure KernelSyncInfo where
  psSyncData : SyncData
  ui32RefCount : BitVec 32
  hResItem : ResItem
deriving DecidableEq, Repr

/-- `MODIFY_SYNC_OP_INFO`. -/
structure ModifySyncOpInfo where
  hResItem : ResItem
  psKernelSyncInfo : Option Nat
  ui32ModifyFlags : BitVec 32
  ui32ReadOpsPendingSnapShot : BitVec 32
  ui32WriteOpsPendingSnapShot : BitVec 32
deriving DecidableEq, Repr

/-- `PVRSRV_KERNEL_MEM_INFO` of allocated device memory. -/
structure KernelMemInfo where
  psKernelSyncInfo : Option Nat
  ui32RefCount : BitVec 32
  hResItem : ResItem
deriving DecidableEq, Repr

/-- A handle of a sync info, with the handle of the memory it belongs to. -/
structure SyncHandle where
  psKernelSyncInfo : Nat
  hParent : Option Nat
deriving DecidableEq, Repr

/-- The handles of a process and its resource manager items, last registered
first. -/
structure Process where
  modHandles : Nat → Option Nat
  syncHandles : Nat → Option SyncHandle
  memHandles : Nat → Option Nat
  modItems : List Nat
  syncItems : List Nat
  memItems : List Nat

/-- A process without handles and items. -/
def Process.empty : Process where
  modHandles := fun _ => none
  syncHandles := fun _ => none
  memHandles := fun _ => none
  modItems := []
  syncItems := []
  memItems := []

/-- Successful modifications of a sync info by a modification object, and
their completions: by the resource callback or by a call. -/
inductive Event where
  | pending (sync mod : Nat) (ui32ModifyFlags : BitVec 32)
  | complete (sync mod : Nat) (ui32ModifyFlags : BitVec 32)
      (byCallback : Bool)
deriving DecidableEq, Repr

/-- The objects, the processes, and what has happened. -/
structure System where
  syncInfos : Nat → Option KernelSyncInfo
  modObjs : Nat → Option ModifySyncOpInfo
  memInfos : Nat → Option KernelMemInfo
  procs : Nat → Process
  history : List Event

/-- Errors of the bridge calls. -/
inductive SyncError where
  | ok
  | outOfMemory
  | invalidParams
  | invalidHandle
  | retry
  | badSyncState
  | timeout
deriving DecidableEq, Repr

/-- The read and the write count of a snapshot. -/
abbrev Token := BitVec 32 × BitVec 32

/-- Change a process. -/
def System.setProcess (system : System) (process : Nat) (changed : Process) :
    System :=
  { system with procs := update system.procs process changed }

/-- Change a sync info. -/
def System.setSyncInfo (system : System) (sync : Nat)
    (info : Option KernelSyncInfo) : System :=
  { system with syncInfos := update system.syncInfos sync info }

/-- Change a modification object. -/
def System.setModObj (system : System) (mod : Nat)
    (info : Option ModifySyncOpInfo) : System :=
  { system with modObjs := update system.modObjs mod info }

/-- Change a memory info. -/
def System.setMemInfo (system : System) (mem : Nat)
    (info : Option KernelMemInfo) : System :=
  { system with memInfos := update system.memInfos mem info }

/-- Add an event. -/
def System.record (system : System) (event : Event) : System :=
  { system with history := system.history ++ [event] }

/-! ## Completing a modification -/

/-- `DoQuerySyncOpsSatisfied`. -/
def doQuerySyncOpsSatisfied (data : SyncData)
    (ui32ReadOpsPendingSnapShot ui32WriteOpsPendingSnapShot : BitVec 32) :
    Bool :=
  decide (data.ui32WriteOpsPending - data.ui32WriteOpsComplete ≤
      data.ui32WriteOpsPending - ui32WriteOpsPendingSnapShot) &&
    decide (data.ui32ReadOpsPending - data.ui32ReadOpsComplete ≤
      data.ui32ReadOpsPending - ui32ReadOpsPendingSnapShot)

/-- The increments of the complete counts. -/
def completeOps (data : SyncData) (ui32ModifyFlags : BitVec 32) : SyncData :=
  let data :=
    if hasFlag ui32ModifyFlags flagWoInc then
      { data with ui32WriteOpsComplete := data.ui32WriteOpsComplete + 1 }
    else data
  if hasFlag ui32ModifyFlags flagRoInc then
    { data with ui32ReadOpsComplete := data.ui32ReadOpsComplete + 1 }
  else data

/-- The increments of the pending counts. -/
def pendOps (data : SyncData) (ui32ModifyFlags : BitVec 32) : SyncData :=
  let data :=
    if hasFlag ui32ModifyFlags flagWoInc then
      { data with ui32WriteOpsPending := data.ui32WriteOpsPending + 1 }
    else data
  if hasFlag ui32ModifyFlags flagRoInc then
    { data with ui32ReadOpsPending := data.ui32ReadOpsPending + 1 }
  else data

/-- `DoModifyCompleteSyncOps`. -/
def doModifyCompleteSyncOps (system : System) (mod : Nat)
    (byCallback : Bool) : Option (SyncError × System) := do
  let modInfo ← system.modObjs mod
  match modInfo.psKernelSyncInfo with
  | none => some (.invalidParams, system)
  | some sync => do
      let info ← system.syncInfos sync
      if modInfo.ui32WriteOpsPendingSnapShot ≠
            info.psSyncData.ui32WriteOpsComplete ∨
          modInfo.ui32ReadOpsPendingSnapShot ≠
            info.psSyncData.ui32ReadOpsComplete then
        some (.badSyncState, system)
      else
        some (.ok,
          (system.setSyncInfo sync (some
            { info with
              psSyncData :=
                completeOps info.psSyncData modInfo.ui32ModifyFlags })).record
            (.complete sync mod modInfo.ui32ModifyFlags byCallback))

/-- `ModifyCompleteSyncOpsCallBack`.  Nothing else runs while it waits, so it
times out unless the counts have been reached at once. -/
def modifyCompleteSyncOpsCallBack (system : System) (mod : Nat) :
    Option (SyncError × System) := do
  let modInfo ← system.modObjs mod
  match modInfo.psKernelSyncInfo with
  | none => some (.ok, system.setModObj mod none)
  | some sync => do
      let info ← system.syncInfos sync
      if doQuerySyncOpsSatisfied info.psSyncData
          modInfo.ui32ReadOpsPendingSnapShot
          modInfo.ui32WriteOpsPendingSnapShot then do
        let (_, completed) ← doModifyCompleteSyncOps system mod true
        some (.ok, completed.setModObj mod none)
      else some (.timeout, system)

/-! ## Modification objects -/

/-- `PVRSRVCreateSyncInfoModObjBW`.  The object is allocated at
`psModSyncOpInfo`, which is not in use, and gets the new handle
`hKernelSyncInfoModObj`; `committed` tells whether the handle batch is
committed.  The other fields of the object are not read before they are
written. -/
def createSyncInfoModObj (system : System) (process : Nat)
    (psModSyncOpInfo hKernelSyncInfoModObj : Option Nat)
    (registered committed : Bool) : Option (SyncError × System) :=
  match psModSyncOpInfo with
  | none => some (.outOfMemory, system)
  | some mod =>
    if (system.modObjs mod).isSome then none
    else
      match hKernelSyncInfoModObj with
      | none =>
        some (.outOfMemory,
          system.setModObj mod (some ⟨.unset, none, 0, 0, 0⟩))
      | some handle =>
        let proc := system.procs process
        if (proc.modHandles handle).isSome then none
        else
          some (if committed then .ok else .outOfMemory,
            (system.setModObj mod
              (some ⟨resManRegisterRes registered, none, 0, 0, 0⟩)).setProcess
              process
              { proc with
                modItems :=
                  if registered then mod :: proc.modItems
                  else proc.modItems
                modHandles :=
                  if committed then
                    update proc.modHandles handle (some mod)
                  else proc.modHandles })

/-- `PVRSRVDestroySyncInfoModObjBW`. -/
def destroySyncInfoModObj (system : System) (process handle : Nat) :
    Option (SyncError × System) :=
  let proc := system.procs process
  match proc.modHandles handle with
  | none => some (.invalidHandle, system)
  | some mod => do
      let modInfo ← system.modObjs mod
      if modInfo.psKernelSyncInfo.isSome then some (.invalidParams, system)
      else
        let released : Process :=
          { proc with
            modHandles := update proc.modHandles handle none }
        match modInfo.hResItem with
        | .unset => none
        | .null => some (.ok, system.setProcess process released)
        | .registered =>
          modifyCompleteSyncOpsCallBack
            (system.setProcess process
              { released with modItems := released.modItems.erase mod })
            mod

/-- `PVRSRVModifyPendingSyncOpsBW`, with the snapshot it returns. -/
def modifyPendingSyncOps (system : System)
    (process hKernelSyncInfoModObj hKernelSyncInfo : Nat)
    (ui32ModifyFlags : BitVec 32) :
    Option (SyncError × Option Token × System) :=
  let proc := system.procs process
  match proc.modHandles hKernelSyncInfoModObj with
  | none => some (.invalidHandle, none, system)
  | some mod =>
    match proc.syncHandles hKernelSyncInfo with
    | none => some (.invalidHandle, none, system)
    | some handle => do
        let modInfo ← system.modObjs mod
        if modInfo.psKernelSyncInfo.isSome then some (.retry, none, system)
        else
          let sync := handle.psKernelSyncInfo
          let info ← system.syncInfos sync
          let data := info.psSyncData
          let changed :=
            (system.setModObj mod (some
              { modInfo with
                psKernelSyncInfo := some sync
                ui32ModifyFlags
                ui32ReadOpsPendingSnapShot := data.ui32ReadOpsPending
                ui32WriteOpsPendingSnapShot :=
                  data.ui32WriteOpsPending })).setSyncInfo sync
              (some { info with psSyncData := pendOps data ui32ModifyFlags })
          let token : Token :=
            (data.ui32ReadOpsPending, data.ui32WriteOpsPending)
          match modInfo.hResItem with
          | .unset => none
          | .null => some (.invalidParams, some token, changed)
          | .registered =>
            some (.ok, some token,
              (changed.setProcess process
                { proc with
                  modItems := mod :: proc.modItems.erase mod }).record
                (.pending sync mod ui32ModifyFlags))

/-- `PVRSRVModifyCompleteSyncOpsBW`. -/
def modifyCompleteSyncOps (system : System)
    (process hKernelSyncInfoModObj : Nat) : Option (SyncError × System) :=
  match (system.procs process).modHandles hKernelSyncInfoModObj with
  | none => some (.invalidHandle, system)
  | some mod => do
      let modInfo ← system.modObjs mod
      if modInfo.psKernelSyncInfo.isNone then some (.invalidParams, system)
      else do
        let (eError, completed) ← doModifyCompleteSyncOps system mod false
        if eError = .ok then
          some (.ok, completed.setModObj mod
            (some { modInfo with psKernelSyncInfo := none }))
        else some (eError, completed)

/-- The error `DoQuerySyncOpsSatisfied` returns. -/
def satisfiedError (satisfied : Bool) : SyncError :=
  if satisfied then .ok else .retry

/-- `PVRSRVSyncOpsFlushToTokenBW`. -/
def syncOpsFlushToToken (system : System) (process hKernelSyncInfo : Nat)
    (token : Token) : Option SyncError :=
  match (system.procs process).syncHandles hKernelSyncInfo with
  | none => some .invalidHandle
  | some handle => do
      let info ← system.syncInfos handle.psKernelSyncInfo
      some (satisfiedError
        (doQuerySyncOpsSatisfied info.psSyncData token.1 token.2))

/-- `PVRSRVSyncOpsFlushToModObjBW`. -/
def syncOpsFlushToModObj (system : System)
    (process hKernelSyncInfoModObj : Nat) : Option SyncError :=
  match (system.procs process).modHandles hKernelSyncInfoModObj with
  | none => some .invalidHandle
  | some mod => do
      let modInfo ← system.modObjs mod
      match modInfo.psKernelSyncInfo with
      | none => some .invalidParams
      | some sync => do
          let info ← system.syncInfos sync
          some (satisfiedError (doQuerySyncOpsSatisfied info.psSyncData
            modInfo.ui32ReadOpsPendingSnapShot
            modInfo.ui32WriteOpsPendingSnapShot))

/-! ## Sync infos and the memory that owns them -/

/-- `PVRSRVFreeSyncInfoKM`. -/
def freeSyncInfoKM (system : System) (sync : Nat) :
    Option (SyncError × System) := do
  let info ← system.syncInfos sync
  if info.ui32RefCount ≠ 0 then some (.outOfMemory, system)
  else some (.ok, system.setSyncInfo sync none)

/-- What `PVRSRVAllocSyncInfoKM` makes. -/
def newSyncInfo : KernelSyncInfo where
  psSyncData := ⟨0, 0, 0, 0⟩
  ui32RefCount := 0
  hResItem := .unset

/-- `PVRSRVAllocSyncInfoBW`. -/
def allocSyncInfo (system : System) (process : Nat)
    (psSyncInfo hKernelSyncInfo : Option Nat) (registered committed : Bool) :
    Option (SyncError × System) :=
  match psSyncInfo with
  | none => some (.outOfMemory, system)
  | some sync =>
    if (system.syncInfos sync).isSome then none
    else
      match hKernelSyncInfo with
      | none => some (.outOfMemory, system)
      | some handle =>
        let proc := system.procs process
        if (proc.syncHandles handle).isSome then none
        else
          some (if committed then .ok else .outOfMemory,
            (system.setSyncInfo sync (some
              { newSyncInfo with
                hResItem := resManRegisterRes registered })).setProcess
              process
              { proc with
                syncItems :=
                  if registered then sync :: proc.syncItems
                  else proc.syncItems
                syncHandles :=
                  if committed then
                    update proc.syncHandles handle (some ⟨sync, none⟩)
                  else proc.syncHandles })

/-- `PVRSRVFreeSyncInfoBW`. -/
def freeSyncInfo (system : System) (process hKernelSyncInfo : Nat) :
    Option (SyncError × System) :=
  let proc := system.procs process
  match proc.syncHandles hKernelSyncInfo with
  | none => some (.invalidHandle, system)
  | some handle => do
      let released : Process :=
        { proc with
          syncHandles := update proc.syncHandles hKernelSyncInfo none }
      let info ← system.syncInfos handle.psKernelSyncInfo
      match info.hResItem with
      | .unset => none
      | .null => some (.ok, system.setProcess process released)
      | .registered =>
        freeSyncInfoKM
          (system.setProcess process
            { released with
              syncItems := released.syncItems.erase handle.psKernelSyncInfo })
          handle.psKernelSyncInfo

/-- `PVRSRVAllocDeviceMemBW`.  The memory info is allocated at `psMemInfo`,
its sync info, if it has one, at `psSyncInfo`. -/
def allocDeviceMem (system : System) (process : Nat)
    (psMemInfo psSyncInfo : Option Nat) (noSyncObj noResman : Bool)
    (hKernelMemInfo hKernelSyncInfo : Nat) (registered committed : Bool) :
    Option (SyncError × System) :=
  let proc := system.procs process
  match psMemInfo with
  | none => some (.outOfMemory, system)
  | some mem =>
    if (system.memInfos mem).isSome ∨
        (proc.memHandles hKernelMemInfo).isSome ∨
        (proc.syncHandles hKernelSyncInfo).isSome then none
    else
      let hResItem :=
        if noResman then .null else resManRegisterRes registered
      let failed := noResman = false ∧ registered = false
      let withHandles (handles : Nat → Option SyncHandle) : Process :=
        { proc with
          memItems :=
            if noResman then proc.memItems else mem :: proc.memItems
          memHandles :=
            if committed then
              update proc.memHandles hKernelMemInfo (some mem)
            else proc.memHandles
          syncHandles := if committed then handles else proc.syncHandles }
      if noSyncObj then
        if failed then some (.outOfMemory, system)
        else
          some (if committed then .ok else .outOfMemory,
            (system.setMemInfo mem (some ⟨none, 1, hResItem⟩)).setProcess
              process (withHandles proc.syncHandles))
      else
        match psSyncInfo with
        | none => some (.outOfMemory, system)
        | some sync =>
          if (system.syncInfos sync).isSome then none
          else
            let synced := system.setSyncInfo sync
              (some { newSyncInfo with ui32RefCount := 1 })
            if failed then some (.outOfMemory, synced)
            else
              some (if committed then .ok else .outOfMemory,
                (synced.setMemInfo mem
                  (some ⟨some sync, 1, hResItem⟩)).setProcess process
                  (withHandles (update proc.syncHandles
                    hKernelSyncInfo (some ⟨sync, some hKernelMemInfo⟩))))

/-- `FreeMemCallBackCommon` on allocated device memory. -/
def freeMemCallBackCommon (system : System) (mem : Nat) :
    Option (SyncError × System) := do
  let info ← system.memInfos mem
  let ui32RefCount := info.ui32RefCount - 1
  if ui32RefCount ≠ 0 then
    some (.ok, system.setMemInfo mem (some { info with ui32RefCount }))
  else
    match info.psKernelSyncInfo with
    | none => some (.ok, system.setMemInfo mem none)
    | some sync => do
        let syncInfo ← system.syncInfos sync
        let dropped := system.setSyncInfo sync
          (some { syncInfo with ui32RefCount := syncInfo.ui32RefCount - 1 })
        if syncInfo.ui32RefCount - 1 ≠ 0 then
          some (.ok, dropped.setMemInfo mem none)
        else do
          let (eError, freed) ← freeSyncInfoKM dropped sync
          if eError = .ok then some (.ok, freed.setMemInfo mem none)
          else some (eError, freed.setMemInfo mem
            (some { info with ui32RefCount }))

/-- `PVRSRVFreeDeviceMemBW`. -/
def freeDeviceMem (system : System) (process hKernelMemInfo : Nat) :
    Option (SyncError × System) :=
  let proc := system.procs process
  match proc.memHandles hKernelMemInfo with
  | none => some (.invalidHandle, system)
  | some mem => do
      let info ← system.memInfos mem
      let (eError, freed) ←
        match info.hResItem with
        | .unset => none
        | .null => freeMemCallBackCommon system mem
        | .registered =>
          freeMemCallBackCommon
            (system.setProcess process
              { proc with memItems := proc.memItems.erase mem })
            mem
      if eError ≠ .ok then some (eError, freed)
      else
        let left := freed.procs process
        some (.ok, freed.setProcess process
          { left with
            memHandles := update left.memHandles hKernelMemInfo none
            syncHandles := fun hKernelSyncInfo =>
              match left.syncHandles hKernelSyncInfo with
              | none => none
              | some handle =>
                if handle.hParent = some hKernelMemInfo then none
                else some handle })

/-! ## Process exit -/

/-- `FreeResourceByCriteria` for one resource type: the callbacks of the items
are called until one of them fails. -/
def freeItems (callback : System → Nat → Option (SyncError × System)) :
    List Nat → System → Option (SyncError × System)
  | [], system => some (.ok, system)
  | item :: rest, system => do
      let (eError, system) ← callback system item
      if eError = .ok then freeItems callback rest system
      else some (eError, system)

/-- The end of a process: its items are freed in the order of
`PVRSRVResManDisconnect`, and then its handles.  The result is the first error
of a modification object. -/
def processExit (system : System) (process : Nat) :
    Option (SyncError × System) := do
  let (eError, system) ← freeItems modifyCompleteSyncOpsCallBack
    (system.procs process).modItems.reverse system
  let (_, system) ← freeItems freeSyncInfoKM
    (system.procs process).syncItems system
  let (_, system) ← freeItems freeMemCallBackCommon
    (system.procs process).memItems system
  some (eError, system.setProcess process Process.empty)

end PvrServices.SyncMod
