import PvrServices.SyncMod.Base

/-!
# Steps of the modification objects

What each bridge call does to the modification objects, case by case, and what
the callbacks of a process exit leave alone.
-/

namespace PvrServices.SyncMod

open Function (update update_of_ne update_self)
open Option (bind_eq_some_iff)
open SyncQueue (SyncData)

/-! ## What the calls do -/

/-- What a call leaves when it is done. -/
theorem next_eq
    {eError result : SyncError}
    {next left : System}
    (done : some (result, left) = some (eError, next)) :
    next = left :=
  (Prod.mk.inj (Option.some.inj done)).2.symm

/-- The counts of the sync info equal the snapshots. -/
def ModifySyncOpInfo.Shows (modInfo : ModifySyncOpInfo) (data : SyncData) :
    Prop :=
  modInfo.ui32WriteOpsPendingSnapShot = data.ui32WriteOpsComplete ∧
    modInfo.ui32ReadOpsPendingSnapShot = data.ui32ReadOpsComplete

/-- A completed modification. -/
def System.completed (system : System) (sync : Nat) (info : KernelSyncInfo)
    (mod : Nat) (ui32ModifyFlags : BitVec 32) (byCallback : Bool) : System :=
  (system.setSyncInfo sync (some
    { info with psSyncData := completeOps info.psSyncData ui32ModifyFlags })).record
    (.complete sync mod ui32ModifyFlags byCallback)

/-- A modification that is pending in the object. -/
def System.pended (system : System) (mod : Nat) (modInfo : ModifySyncOpInfo)
    (sync : Nat) (info : KernelSyncInfo) (ui32ModifyFlags : BitVec 32) :
    System :=
  (system.setModObj mod (some
    { modInfo with
      psKernelSyncInfo := some sync
      ui32ModifyFlags
      ui32ReadOpsPendingSnapShot := info.psSyncData.ui32ReadOpsPending
      ui32WriteOpsPendingSnapShot :=
        info.psSyncData.ui32WriteOpsPending })).setSyncInfo sync
    (some { info with psSyncData := pendOps info.psSyncData ui32ModifyFlags })

variable {system next : System} {mod sync process hKernelSyncInfoModObj : Nat}
  {eError : SyncError} {info : KernelSyncInfo}
  {callback : System → Nat → Option (SyncError × System)}
  {items mods : List Nat}

theorem doModifyCompleteSyncOps_cases
    {byCallback : Bool}
    {modInfo : ModifySyncOpInfo}
    (isMod : system.modObjs mod = some modInfo)
    (holds : modInfo.psKernelSyncInfo = some sync)
    (isSync : system.syncInfos sync = some info)
    (done : doModifyCompleteSyncOps system mod byCallback =
      some (eError, next)) :
    (modInfo.Shows info.psSyncData ∧ eError = .ok ∧
      next = system.completed sync info mod modInfo.ui32ModifyFlags
        byCallback) ∨
    (¬ modInfo.Shows info.psSyncData ∧ eError = .badSyncState ∧
      next = system) := by
  simp only [doModifyCompleteSyncOps, isMod, holds, isSync, bind,
    Option.bind] at done
  split at done
  · rename_i differs
    cases done
    refine .inr ⟨?_, rfl, rfl⟩
    rintro ⟨writes, reads⟩
    exact differs.elim (· writes) (· reads)
  · rename_i same
    cases done
    refine .inl ⟨?_, rfl, rfl⟩
    rw [not_or, not_not, not_not] at same
    exact same

/-- The callback frees the object, and completes its modification unless the
counts have passed the snapshots; or it times out. -/
theorem modifyCompleteSyncOpsCallBack_cases
    (done : modifyCompleteSyncOpsCallBack system mod = some (eError, next)) :
    ∃ modInfo, system.modObjs mod = some modInfo ∧
      ((modInfo.psKernelSyncInfo = none ∧ eError = .ok ∧
        next = system.setModObj mod none) ∨
      ∃ sync info, modInfo.psKernelSyncInfo = some sync ∧
        system.syncInfos sync = some info ∧
        ((eError = .timeout ∧ next = system) ∨
        (eError = .ok ∧
          doQuerySyncOpsSatisfied info.psSyncData
            modInfo.ui32ReadOpsPendingSnapShot
            modInfo.ui32WriteOpsPendingSnapShot = true ∧
          ((modInfo.Shows info.psSyncData ∧
            next = (system.completed sync info mod modInfo.ui32ModifyFlags
              true).setModObj mod none) ∨
          (¬ modInfo.Shows info.psSyncData ∧
            next = system.setModObj mod none))))) := by
  obtain ⟨modInfo, isMod, done⟩ := bind_eq_some_iff.mp done
  refine ⟨modInfo, isMod, ?_⟩
  split at done
  · rename_i holds
    cases done
    exact .inl ⟨holds, rfl, rfl⟩
  · rename_i sync holds
    obtain ⟨info, isSync, done⟩ := bind_eq_some_iff.mp done
    refine .inr ⟨sync, info, holds, isSync, ?_⟩
    split at done
    · rename_i satisfied
      obtain ⟨⟨completeError, completed⟩, completing, done⟩ :=
        bind_eq_some_iff.mp done
      cases done
      refine .inr ⟨rfl, satisfied, ?_⟩
      rcases doModifyCompleteSyncOps_cases isMod holds isSync completing with
        ⟨shows, -, rfl⟩ | ⟨differs, -, rfl⟩
      · exact .inl ⟨shows, rfl⟩
      · exact .inr ⟨differs, rfl⟩
    · cases done
      exact .inl ⟨rfl, rfl⟩

theorem modifyPendingSyncOps_cases
    {hKernelSyncInfo : Nat}
    {ui32ModifyFlags : BitVec 32}
    {token : Option Token}
    (done : modifyPendingSyncOps system process hKernelSyncInfoModObj
      hKernelSyncInfo ui32ModifyFlags = some (eError, token, next)) :
    next = system ∨
    ∃ mod handle modInfo info,
      (system.procs process).modHandles hKernelSyncInfoModObj = some mod ∧
      (system.procs process).syncHandles hKernelSyncInfo = some handle ∧
      system.modObjs mod = some modInfo ∧
      modInfo.psKernelSyncInfo = none ∧
      system.syncInfos handle.psKernelSyncInfo = some info ∧
      ((modInfo.hResItem = .null ∧
        next = system.pended mod modInfo handle.psKernelSyncInfo info
          ui32ModifyFlags) ∨
      (modInfo.hResItem = .registered ∧
        next = ((system.pended mod modInfo handle.psKernelSyncInfo info
            ui32ModifyFlags).setProcess process
          { system.procs process with
            modItems :=
              mod :: (system.procs process).modItems.erase mod }).record
            (.pending handle.psKernelSyncInfo mod ui32ModifyFlags))) := by
  simp only [modifyPendingSyncOps] at done
  split at done
  · cases done
    exact .inl rfl
  rename_i mod isHandle
  split at done
  · cases done
    exact .inl rfl
  rename_i handle isSyncHandle
  obtain ⟨modInfo, isMod, done⟩ := bind_eq_some_iff.mp done
  split at done
  · cases done
    exact .inl rfl
  rename_i empty
  obtain ⟨info, isSync, done⟩ := bind_eq_some_iff.mp done
  refine .inr ⟨mod, handle, modInfo, info, isHandle, isSyncHandle, isMod,
    Option.not_isSome_iff_eq_none.mp empty, isSync, ?_⟩
  cases item : modInfo.hResItem with
  | unset => simp [item] at done
  | null =>
    simp only [item] at done
    cases done
    exact .inl ⟨rfl, by simp only [System.pended, item]⟩
  | registered =>
    simp only [item] at done
    cases done
    exact .inr ⟨rfl, by simp only [System.pended, item]⟩

theorem modifyCompleteSyncOps_cases
    (done : modifyCompleteSyncOps system process hKernelSyncInfoModObj =
      some (eError, next)) :
    next = system ∨
    ∃ mod modInfo sync info,
      (system.procs process).modHandles hKernelSyncInfoModObj = some mod ∧
      system.modObjs mod = some modInfo ∧
      modInfo.psKernelSyncInfo = some sync ∧
      system.syncInfos sync = some info ∧
      modInfo.Shows info.psSyncData ∧
      next = (system.completed sync info mod modInfo.ui32ModifyFlags
        false).setModObj mod
          (some { modInfo with psKernelSyncInfo := none }) := by
  simp only [modifyCompleteSyncOps] at done
  split at done
  · exact .inl (next_eq done)
  rename_i mod isHandle
  obtain ⟨modInfo, isMod, done⟩ := bind_eq_some_iff.mp done
  cases holds : modInfo.psKernelSyncInfo with
  | none =>
    simp only [holds, Option.isNone_none, if_true] at done
    exact .inl (next_eq done)
  | some sync =>
  simp only [holds, Option.isNone_some, Bool.false_eq_true, if_false] at done
  obtain ⟨⟨completeError, completed⟩, completing, result⟩ :=
    bind_eq_some_iff.mp done
  have unfolded := completing
  simp only [doModifyCompleteSyncOps, isMod, holds, bind, Option.bind_some]
    at unfolded
  obtain ⟨info, isSync, -⟩ := bind_eq_some_iff.mp unfolded
  rcases doModifyCompleteSyncOps_cases isMod holds isSync completing with
    ⟨shows, rfl, rfl⟩ | ⟨-, rfl, rfl⟩
  · exact .inr ⟨mod, modInfo, sync, info, isHandle, isMod, holds, isSync,
      shows, next_eq result⟩
  · exact .inl (next_eq result)

theorem createSyncInfoModObj_cases
    {psModSyncOpInfo hKernelSyncInfoModObj : Option Nat}
    {registered committed : Bool}
    (done : createSyncInfoModObj system process psModSyncOpInfo
      hKernelSyncInfoModObj registered committed = some (eError, next)) :
    next = system ∨
    ∃ mod, system.modObjs mod = none ∧
      (next = system.setModObj mod (some ⟨.unset, none, 0, 0, 0⟩) ∨
      ∃ handle, (system.procs process).modHandles handle = none ∧
        next = (system.setModObj mod
          (some ⟨resManRegisterRes registered, none, 0, 0, 0⟩)).setProcess
          process
          { system.procs process with
            modItems :=
              if registered then mod :: (system.procs process).modItems
              else (system.procs process).modItems
            modHandles :=
              if committed then
                update (system.procs process).modHandles handle (some mod)
              else (system.procs process).modHandles }) := by
  simp only [createSyncInfoModObj] at done
  split at done
  · exact .inl (next_eq done)
  rename_i mod
  split at done
  · cases done
  rename_i isMod
  refine .inr ⟨mod, Option.not_isSome_iff_eq_none.mp isMod, ?_⟩
  split at done
  · exact .inl (next_eq done)
  rename_i handle
  split at done
  · cases done
  rename_i isHandle
  exact .inr ⟨handle, Option.not_isSome_iff_eq_none.mp isHandle, next_eq done⟩

/-- The object whose modification is completed may be destroyed. -/
theorem destroySyncInfoModObj_cases
    {handle : Nat}
    (done : destroySyncInfoModObj system process handle =
      some (eError, next)) :
    next = system ∨
    ∃ mod modInfo, (system.procs process).modHandles handle = some mod ∧
      system.modObjs mod = some modInfo ∧
      modInfo.psKernelSyncInfo = none ∧
      ((modInfo.hResItem = .null ∧
        next = system.setProcess process
          { system.procs process with
            modHandles := update
              (system.procs process).modHandles handle none }) ∨
      (modInfo.hResItem = .registered ∧
        next = (system.setProcess process
          { system.procs process with
            modHandles := update (system.procs process).modHandles handle none
            modItems := (system.procs process).modItems.erase mod }).setModObj
            mod none)) := by
  simp only [destroySyncInfoModObj] at done
  split at done
  · exact .inl (next_eq done)
  rename_i mod isHandle
  obtain ⟨modInfo, isMod, done⟩ := bind_eq_some_iff.mp done
  split at done
  · exact .inl (next_eq done)
  rename_i empty
  have holds := Option.not_isSome_iff_eq_none.mp empty
  refine .inr ⟨mod, modInfo, isHandle, isMod, holds, ?_⟩
  cases item : modInfo.hResItem with
  | unset => simp [item] at done
  | null =>
    simp only [item] at done
    exact .inl ⟨rfl, next_eq done⟩
  | registered =>
    simp only [item] at done
    refine .inr ⟨rfl, ?_⟩
    obtain ⟨sameInfo, isSame, ⟨-, -, rfl⟩ | ⟨sync, info, holdsSync, -⟩⟩ :=
      modifyCompleteSyncOpsCallBack_cases done
    · rfl
    · cases isSame.symm.trans isMod
      cases holds.symm.trans holdsSync

/-! ## Process exit -/

/-- What every callback keeps, the callbacks of a list of items keep. -/
theorem freeItems_induction
    {motive : System → Prop}
    (step : ∀ {before after item error}, item ∈ items →
      callback before item = some (error, after) →
      motive before → motive after)
    (done : freeItems callback items system = some (eError, next))
    (holds : motive system) :
    motive next := by
  induction items generalizing system with
  | nil =>
    cases done
    exact holds
  | cons item rest ih =>
    cases called : callback system item with
    | none => simp [freeItems, called] at done
    | some result =>
    obtain ⟨error, after⟩ := result
    have kept := step List.mem_cons_self called holds
    simp only [freeItems, called, bind, Option.bind] at done
    split at done
    · exact ih
        (fun inRest => step (List.mem_cons_of_mem item inRest)) done kept
    · cases done
      exact kept

/-- The resource manager item of a sync info, while it lives. -/
def System.syncItem (system : System) (sync : Nat) : Option ResItem :=
  (system.syncInfos sync).map KernelSyncInfo.hResItem

/-- The callbacks of a list of objects leave the processes, the memory infos
and the other objects. -/
structure CallbackFrame (mods : List Nat) (system next : System) : Prop where
  procs : next.procs = system.procs
  memInfos : next.memInfos = system.memInfos
  syncItem : ∀ sync, next.syncItem sync = system.syncItem sync
  modObjs : ∀ mod, mod ∉ mods → next.modObjs mod = system.modObjs mod

/-- Writing a live sync info does not change its item. -/
theorem syncItem_write
    {written : KernelSyncInfo}
    (isSync : system.syncInfos sync = some info)
    (syncInfos : next.syncInfos =
      update system.syncInfos sync (some written))
    (sameItem : written.hResItem = info.hResItem)
    (other : Nat) :
    next.syncItem other = system.syncItem other := by
  rw [System.syncItem, System.syncItem, syncInfos]
  by_cases same : other = sync
  · subst same
    rw [update_self, isSync, Option.map_some, Option.map_some, sameItem]
  · rw [update_of_ne same]

theorem modifyCompleteSyncOpsCallBack_frame
    (listed : mod ∈ mods)
    (done : modifyCompleteSyncOpsCallBack system mod = some (eError, next)) :
    CallbackFrame mods system next := by
  have others : ∀ other, other ∉ mods →
      update system.modObjs mod none other = system.modObjs other := by
    intro other unlisted
    refine update_of_ne ?_ ..
    rintro rfl
    exact unlisted listed
  obtain ⟨modInfo, -, ⟨-, -, rfl⟩ | ⟨sync, info, -, isSync, ⟨-, rfl⟩ |
    ⟨-, -, ⟨-, rfl⟩ | ⟨-, rfl⟩⟩⟩⟩ := modifyCompleteSyncOpsCallBack_cases done
  · exact ⟨rfl, rfl, fun _ => rfl, others⟩
  · exact ⟨rfl, rfl, fun _ => rfl, fun _ _ => rfl⟩
  · exact ⟨rfl, rfl, syncItem_write isSync rfl rfl, others⟩
  · exact ⟨rfl, rfl, fun _ => rfl, others⟩

theorem freeItems_modifyComplete_frame
    (done : freeItems modifyCompleteSyncOpsCallBack mods system =
      some (eError, next)) :
    CallbackFrame mods system next := by
  refine freeItems_induction (motive := CallbackFrame mods system)
    ?_ done ⟨rfl, rfl, fun _ => rfl, fun _ _ => rfl⟩
  intro before after mod error listed called frame
  have one := modifyCompleteSyncOpsCallBack_frame listed called
  refine ⟨one.procs.trans frame.procs, one.memInfos.trans frame.memInfos,
    fun sync => (one.syncItem sync).trans (frame.syncItem sync), ?_⟩
  intro other unlisted
  rw [one.modObjs other unlisted, frame.modObjs other unlisted]

/-- Sync infos and memory are freed without touching anything else. -/
structure MemoryFrame (system next : System) : Prop where
  procs : next.procs = system.procs
  modObjs : next.modObjs = system.modObjs
  history : next.history = system.history
  syncData : ∀ {sync info}, next.syncInfos sync = some info →
    ∃ before, system.syncInfos sync = some before ∧
      before.psSyncData = info.psSyncData

theorem syncData_freed
    {freed : Nat}
    (isSync : (system.setSyncInfo freed none).syncInfos sync = some info) :
    ∃ before, system.syncInfos sync = some before ∧
      before.psSyncData = info.psSyncData := by
  by_cases same : sync = freed
  · subst same
    simp [System.setSyncInfo] at isSync
  · refine ⟨info, ?_, rfl⟩
    simpa [System.setSyncInfo, same] using isSync

theorem syncData_dropped
    {dropped : Nat}
    {before : KernelSyncInfo}
    {ui32RefCount : BitVec 32}
    (isDropped : system.syncInfos dropped = some before)
    (isSync : (system.setSyncInfo dropped
      (some { before with ui32RefCount })).syncInfos sync = some info) :
    ∃ before, system.syncInfos sync = some before ∧
      before.psSyncData = info.psSyncData := by
  by_cases same : sync = dropped
  · subst same
    refine ⟨before, isDropped, ?_⟩
    simp only [System.setSyncInfo, update_self, Option.some.injEq] at isSync
    rw [← isSync]
  · refine ⟨info, ?_, rfl⟩
    simpa [System.setSyncInfo, same] using isSync

theorem freeSyncInfoKM_frame
    (done : freeSyncInfoKM system sync = some (eError, next)) :
    MemoryFrame system next := by
  obtain ⟨info, _, done⟩ := bind_eq_some_iff.mp done
  split at done
  · cases done
    exact ⟨rfl, rfl, rfl, fun isNext => ⟨_, isNext, rfl⟩⟩
  · cases done
    exact ⟨rfl, rfl, rfl, syncData_freed⟩

theorem freeMemCallBackCommon_frame
    {mem : Nat}
    (done : freeMemCallBackCommon system mem = some (eError, next)) :
    MemoryFrame system next := by
  obtain ⟨info, isMem, done⟩ := bind_eq_some_iff.mp done
  simp only at done
  split at done
  · cases done
    exact ⟨rfl, rfl, rfl, fun isNext => ⟨_, isNext, rfl⟩⟩
  split at done
  · cases done
    exact ⟨rfl, rfl, rfl, fun isNext => ⟨_, isNext, rfl⟩⟩
  obtain ⟨syncInfo, isSync, done⟩ := bind_eq_some_iff.mp done
  split at done
  · cases done
    exact ⟨rfl, rfl, rfl, syncData_dropped isSync⟩
  obtain ⟨_, freeing, done⟩ := bind_eq_some_iff.mp done
  have frame := freeSyncInfoKM_frame freeing
  split at done
  all_goals
    cases done
    refine ⟨frame.procs, frame.modObjs, frame.history, ?_⟩
    intro other otherInfo isOther
    obtain ⟨dropped, isDropped, sameData⟩ := frame.syncData isOther
    obtain ⟨before, isBefore, beforeData⟩ := syncData_dropped isSync isDropped
    exact ⟨before, isBefore, beforeData.trans sameData⟩

theorem freeItems_frame
    (frames : ∀ {before after item error},
      callback before item = some (error, after) → MemoryFrame before after)
    (done : freeItems callback items system = some (eError, next)) :
    MemoryFrame system next := by
  refine freeItems_induction (motive := MemoryFrame system)
    ?_ done ⟨rfl, rfl, rfl, fun isNext => ⟨_, isNext, rfl⟩⟩
  intro before after item error _ called frame
  have one := frames called
  refine ⟨one.procs.trans frame.procs, one.modObjs.trans frame.modObjs,
    one.history.trans frame.history, ?_⟩
  intro sync info isSync
  obtain ⟨middle, isMiddle, sameData⟩ := one.syncData isSync
  obtain ⟨first, isFirst, firstData⟩ := frame.syncData isMiddle
  exact ⟨first, isFirst, firstData.trans sameData⟩

theorem processExit_cases
    (done : processExit system process = some (eError, next)) :
    ∃ completed syncsFreed memFreed syncError memError,
      freeItems modifyCompleteSyncOpsCallBack
        (system.procs process).modItems.reverse system =
          some (eError, completed) ∧
      freeItems freeSyncInfoKM (system.procs process).syncItems completed =
        some (syncError, syncsFreed) ∧
      freeItems freeMemCallBackCommon (system.procs process).memItems
        syncsFreed = some (memError, memFreed) ∧
      next = memFreed.setProcess process Process.empty := by
  obtain ⟨⟨completeError, completed⟩, completing, done⟩ :=
    bind_eq_some_iff.mp done
  obtain ⟨⟨syncError, syncsFreed⟩, freeingSyncs, done⟩ :=
    bind_eq_some_iff.mp done
  obtain ⟨⟨memError, memFreed⟩, freeingMem, done⟩ := bind_eq_some_iff.mp done
  cases done
  have completedProcs := (freeItems_modifyComplete_frame completing).procs
  have freedProcs := (freeItems_frame freeSyncInfoKM_frame freeingSyncs).procs
  rw [freedProcs, completedProcs] at freeingMem
  rw [completedProcs] at freeingSyncs
  exact ⟨completed, syncsFreed, memFreed, syncError, memError, completing,
    freeingSyncs, freeingMem, rfl⟩

end PvrServices.SyncMod
