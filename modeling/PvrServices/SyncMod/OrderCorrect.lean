import PvrServices.SyncMod.Order

/-!
# Runs of the modification calls

One sync info is followed through the calls of any processes.  Whatever else
happens to the other sync infos, its counts are the modifications made pending
and completed, in order.
-/

namespace PvrServices.SyncMod

open Function (update update_of_ne update_self)
open SyncQueue (SyncData)
open Tickets
open PvrServices.SyncMod.System (record setModObj setProcess setSyncInfo)

/-! ## Runs -/

/-- The calls that modify a sync info through an object, and process exit. -/
inductive Call where
  | create (process : Nat)
      (psModSyncOpInfo hKernelSyncInfoModObj : Option Nat)
      (registered committed : Bool)
  | destroy (process hKernelSyncInfoModObj : Nat)
  | modifyPending (process hKernelSyncInfoModObj hKernelSyncInfo : Nat)
      (ui32ModifyFlags : BitVec 32)
  | modifyComplete (process hKernelSyncInfoModObj : Nat)
  | exit (process : Nat)

/-- Make a call. -/
def Call.perform (system : System) : Call → Option (SyncError × System)
  | .create process psModSyncOpInfo hKernelSyncInfoModObj registered
      committed =>
    createSyncInfoModObj system process psModSyncOpInfo
      hKernelSyncInfoModObj registered committed
  | .destroy process hKernelSyncInfoModObj =>
    destroySyncInfoModObj system process hKernelSyncInfoModObj
  | .modifyPending process hKernelSyncInfoModObj hKernelSyncInfo
      ui32ModifyFlags =>
    (modifyPendingSyncOps system process hKernelSyncInfoModObj
      hKernelSyncInfo ui32ModifyFlags).map
        fun (eError, _, next) => (eError, next)
  | .modifyComplete process hKernelSyncInfoModObj =>
    modifyCompleteSyncOps system process hKernelSyncInfoModObj
  | .exit process => processExit system process

/-- `sync` is made pending only in a registered object, and while the counts
can tell its outstanding modifications apart. -/
def Call.Sound (sync : Nat) (system : System) : Call → Prop
  | .modifyPending process hKernelSyncInfoModObj hKernelSyncInfo _ =>
    ∀ mod handle modInfo,
      (system.procs process).modHandles hKernelSyncInfoModObj = some mod →
      (system.procs process).syncHandles hKernelSyncInfo = some handle →
      system.modObjs mod = some modInfo →
      handle.psKernelSyncInfo = sync →
      modInfo.hResItem ≠ .null ∧
        (pendings sync system.history).length + 1 <
          (completions sync system.history).length + 2 ^ 32
  | _ => True

/-- What other calls do to other sync infos. -/
structure Elsewhere (sync : Nat) (system next : System) : Prop where
  mods : SameMods system next
  history : next.history = system.history
  syncInfos : next.syncInfos sync = system.syncInfos sync

/-- The systems calls that meet the condition lead to, when no wait times
out. -/
inductive Reachable (condition : System → Call → Prop) (sync : Nat)
    (initial : System) : System → Prop
  | initial : Reachable condition sync initial initial
  | call {system next : System} {eError : SyncError} (call : Call)
      (reached : Reachable condition sync initial system)
      (meets : condition system call)
      (performed : call.perform system = some (eError, next))
      (noTimeout : eError ≠ .timeout) :
      Reachable condition sync initial next
  | elsewhere {system next : System}
      (reached : Reachable condition sync initial system)
      (changed : Elsewhere sync system next) :
      Reachable condition sync initial next

/-- No modification object exists yet. -/
structure System.Fresh (system : System) : Prop where
  modObjs : ∀ mod, system.modObjs mod = none
  modItems : ∀ process, (system.procs process).modItems = []
  modHandles : ∀ process handle,
    (system.procs process).modHandles handle = none
  history : system.history = []

/-! ## Following the sync info -/

/-- While the sync info lives, its outstanding modifications are in order. -/
def Tracked (sync : Nat) (initial : SyncData) (system : System) : Prop :=
  ∀ info, system.syncInfos sync = some info →
    ∃ outs, Outstanding sync initial system info.psSyncData outs

namespace Tracked

variable {sync mod process hKernelSyncInfoModObj : Nat} {initial : SyncData}
  {system next : System} {eError : SyncError}
  {written : Option ModifySyncOpInfo}

theorem same
    (tracked : Tracked sync initial system)
    (syncData : ∀ {info}, next.syncInfos sync = some info →
      ∃ before, system.syncInfos sync = some before ∧
        before.psSyncData = info.psSyncData)
    (holdsSame : ∀ modification,
      next.Holds sync modification ↔ system.Holds sync modification)
    (history : next.history = system.history) :
    Tracked sync initial next := by
  intro info isSync
  obtain ⟨before, isBefore, sameData⟩ := syncData isSync
  obtain ⟨outs, outstanding⟩ := tracked before isBefore
  rw [sameData] at outstanding
  exact ⟨outs, outstanding.same rfl rfl holdsSame (by rw [history])
    (by rw [history])⟩

section

variable (tracked : Tracked sync initial system)
include tracked

/-- An object that holds nothing is written or freed. -/
theorem empty
    (modObjs : next.modObjs = update system.modObjs mod written)
    (before : ∀ {modInfo}, system.modObjs mod = some modInfo →
      modInfo.psKernelSyncInfo = none)
    (emptied : ∀ {modInfo}, written = some modInfo →
      modInfo.psKernelSyncInfo = none)
    (syncInfos : next.syncInfos = system.syncInfos)
    (history : next.history = system.history) :
    Tracked sync initial next := by
  apply tracked.same _ _ history
  · intro info isSync
    rw [syncInfos] at isSync
    exact ⟨info, isSync, rfl⟩
  · intro modification
    rw [holds_emptied modObjs emptied]
    refine and_iff_right_of_imp ?_
    rintro ⟨modInfo, isMod, holds, -⟩ rfl
    rw [before isMod] at holds
    contradiction

/-- A modification is completed, by a call or by the callback. -/
theorem complete
    {target : Nat}
    {before : ModifySyncOpInfo}
    {info : KernelSyncInfo}
    {byCallback : Bool}
    (isMod : system.modObjs mod = some before)
    (holds : before.psKernelSyncInfo = some target)
    (isSync : system.syncInfos target = some info)
    (shows : before.Shows info.psSyncData)
    (emptied : ∀ {modInfo}, written = some modInfo →
      modInfo.psKernelSyncInfo = none) :
    Tracked sync initial
      ((system.completed target info mod before.ui32ModifyFlags
        byCallback).setModObj mod written) := by
  intro nextInfo isNext
  by_cases same : target = sync
  · subst same
    obtain ⟨outs, outstanding⟩ := tracked info isSync
    have newInfo : nextInfo.psSyncData =
        completeOps info.psSyncData before.ui32ModifyFlags := by
      simp only [System.completed, record, setSyncInfo,
        setModObj, update_self, Option.some.injEq] at isNext
      rw [← isNext]
    rw [newInfo]
    exact outstanding.finish isMod holds shows rfl emptied rfl
  · have old : system.syncInfos sync = some nextInfo := by
      simpa [System.completed, record, setSyncInfo,
        setModObj, Ne.symm same] using isNext
    obtain ⟨outs, outstanding⟩ := tracked nextInfo old
    refine ⟨outs, outstanding.same rfl rfl ?_ ?_ ?_⟩
    · intro modification
      rw [holds_emptied rfl emptied]
      refine and_iff_right_of_imp ?_
      rintro ⟨modInfo, isOld, holdsOld, -⟩ rfl
      rw [← Option.some.inj (isMod.symm.trans isOld), holds] at holdsOld
      exact same (Option.some.inj holdsOld)
    · simp [System.completed, record, setModObj, setSyncInfo, pendings]
    · simp [System.completed, record, setModObj,
        setSyncInfo, completions, same]

theorem callback
    (done : modifyCompleteSyncOpsCallBack system mod = some (eError, next)) :
    Tracked sync initial next := by
  obtain ⟨modInfo, isMod, ⟨empty, -, rfl⟩ | ⟨target, info, holds, isSync,
    ⟨-, rfl⟩ | ⟨-, satisfied, ⟨shows, rfl⟩ | ⟨differs, rfl⟩⟩⟩⟩ :=
      modifyCompleteSyncOpsCallBack_cases done
  · refine tracked.empty rfl ?_ nofun rfl rfl
    intro other isOther
    rwa [← Option.some.inj (isMod.symm.trans isOther)]
  · exact tracked
  · exact tracked.complete isMod holds isSync shows nofun
  · -- Only a modification that selects no count can have been passed.
    intro nextInfo isNext
    obtain ⟨outs, outstanding⟩ := tracked nextInfo isNext
    refine ⟨outs, outstanding.same rfl rfl ?_ rfl rfl⟩
    intro modification
    have freed : ∀ {modInfo : ModifySyncOpInfo}, none = some modInfo →
        modInfo.psKernelSyncInfo = none := by simp
    rw [holds_emptied rfl freed]
    refine and_iff_right_of_imp ?_
    rintro ⟨sameInfo, isSame, holdsSync, isModification, selects⟩ rfl
    cases isMod.symm.trans isSame
    cases holds.symm.trans holdsSync
    cases isSync.symm.trans isNext
    rw [← isModification] at selects
    exact differs
      (outstanding.shows_of_satisfied isMod holds selects satisfied)

theorem create
    {process : Nat}
    {psModSyncOpInfo hKernelSyncInfoModObj : Option Nat}
    {registered committed : Bool}
    {eError : SyncError}
    (done : createSyncInfoModObj system process psModSyncOpInfo
      hKernelSyncInfoModObj registered committed = some (eError, next)) :
    Tracked sync initial next := by
  rcases createSyncInfoModObj_cases done with
    rfl | ⟨mod, unused, rfl | ⟨handle, -, rfl⟩⟩
  · exact tracked
  all_goals
    refine tracked.empty rfl ?_ ?_ rfl rfl
    · intro modInfo isMod
      rw [unused] at isMod
      contradiction
    · rintro modInfo ⟨⟩
      rfl

theorem destroy
    {handle : Nat}
    (done : destroySyncInfoModObj system process handle =
      some (eError, next)) :
    Tracked sync initial next := by
  rcases destroySyncInfoModObj_cases done with
    rfl | ⟨mod, modInfo, -, isMod, empty, ⟨-, rfl⟩ | ⟨-, rfl⟩⟩
  · exact tracked
  · exact tracked.same (fun isSync => ⟨_, isSync, rfl⟩) (fun _ => Iff.rfl) rfl
  · refine tracked.empty rfl ?_ nofun rfl rfl
    intro other isOther
    rwa [← Option.some.inj (isMod.symm.trans isOther)]

theorem modifyComplete
    (done : modifyCompleteSyncOps system process hKernelSyncInfoModObj =
      some (eError, next)) :
    Tracked sync initial next := by
  rcases modifyCompleteSyncOps_cases done with
    rfl | ⟨mod, modInfo, target, info, -, isMod, holds, isSync, shows, rfl⟩
  · exact tracked
  · refine tracked.complete isMod holds isSync shows ?_
    rintro modInfo ⟨⟩
    rfl

theorem exit
    (done : processExit system process = some (eError, next)) :
    Tracked sync initial next := by
  obtain ⟨completed, syncsFreed, memFreed, _, _, completing, freeingSyncs,
    freeingMem, rfl⟩ := processExit_cases done
  have afterMods : Tracked sync initial completed :=
    freeItems_induction (motive := Tracked sync initial)
      (fun _ called before => before.callback called) completing tracked
  have syncs := freeItems_frame freeSyncInfoKM_frame freeingSyncs
  have mem := freeItems_frame freeMemCallBackCommon_frame freeingMem
  have modObjs : memFreed.modObjs = completed.modObjs :=
    mem.modObjs.trans syncs.modObjs
  refine afterMods.same ?_ ?_ (mem.history.trans syncs.history)
  · intro info isSync
    obtain ⟨middle, isMiddle, sameData⟩ := mem.syncData isSync
    obtain ⟨before, isBefore, beforeData⟩ := syncs.syncData isMiddle
    exact ⟨before, isBefore, beforeData.trans sameData⟩
  · intro modification
    simp only [System.Holds, setProcess, modObjs]

end

theorem length_outs
    {data : SyncData}
    {outs : List Modification}
    (outstanding : Outstanding sync initial system data outs) :
    (pendings sync system.history).length =
      (completions sync system.history).length + outs.length := by
  rw [outstanding.matched, List.length_append, List.length_map]

theorem modifyPending
    (tracked : Tracked sync initial system)
    {hKernelSyncInfo : Nat}
    {ui32ModifyFlags : BitVec 32}
    {token : Option Token}
    (sound : Call.Sound sync system (.modifyPending process
      hKernelSyncInfoModObj hKernelSyncInfo ui32ModifyFlags))
    (done : modifyPendingSyncOps system process hKernelSyncInfoModObj
      hKernelSyncInfo ui32ModifyFlags = some (eError, token, next)) :
    Tracked sync initial next := by
  rcases modifyPendingSyncOps_cases done with
    rfl | ⟨mod, handle, modInfo, info, isHandle, isSyncHandle, isMod, empty,
      isSync, kind⟩
  · exact tracked
  by_cases same : handle.psKernelSyncInfo = sync
  · obtain ⟨notNull, room⟩ :=
      sound mod handle modInfo isHandle isSyncHandle isMod same
    obtain ⟨isNull, -⟩ | ⟨-, rfl⟩ := kind
    · contradiction
    intro nextInfo isNext
    rw [same] at isSync isNext ⊢
    obtain ⟨outs, outstanding⟩ := tracked info isSync
    have newInfo : nextInfo.psSyncData =
        pendOps info.psSyncData ui32ModifyFlags := by
      simp only [System.pended, record, setProcess, setSyncInfo, update_self,
        Option.some.injEq] at isNext
      rw [← isNext]
    rw [newInfo]
    refine outstanding.pend
      { modInfo with
        psKernelSyncInfo := some sync
        ui32ModifyFlags
        ui32ReadOpsPendingSnapShot := info.psSyncData.ui32ReadOpsPending
        ui32WriteOpsPendingSnapShot := info.psSyncData.ui32WriteOpsPending }
      isMod empty rfl rfl rfl rfl rfl ?_
    rw [length_outs outstanding] at room
    omega
  · -- Another sync info is modified.
    have holdsSame : ∀ modification,
        (system.pended mod modInfo handle.psKernelSyncInfo info
          ui32ModifyFlags).Holds sync modification ↔
        system.Holds sync modification := by
      intro modification
      by_cases sameMod : modification.mod = mod
      · constructor
        · rintro ⟨written, isWritten, holds, -⟩
          rw [sameMod] at isWritten
          simp only [System.pended, setSyncInfo, setModObj,
            update_self, Option.some.injEq] at isWritten
          rw [← isWritten] at holds
          exact absurd (Option.some.inj holds) same
        · rintro ⟨before, isBefore, holds, -⟩
          rw [sameMod] at isBefore
          rw [← Option.some.inj (isMod.symm.trans isBefore), empty] at holds
          contradiction
      · simp only [System.Holds, System.pended, setSyncInfo,
          setModObj, update_of_ne sameMod]
    have syncData : ∀ {nextInfo},
        (system.pended mod modInfo handle.psKernelSyncInfo info
          ui32ModifyFlags).syncInfos sync = some nextInfo →
        system.syncInfos sync = some nextInfo := by
      intro nextInfo isNext
      simpa [System.pended, setSyncInfo, setModObj, Ne.symm same] using isNext
    obtain ⟨-, rfl⟩ | ⟨-, rfl⟩ := kind
    · exact tracked.same (fun isNext => ⟨_, syncData isNext, rfl⟩)
        holdsSame rfl
    · intro nextInfo isNext
      obtain ⟨outs, outstanding⟩ := tracked nextInfo (syncData isNext)
      refine ⟨outs, outstanding.same rfl rfl holdsSame ?_ ?_⟩
      · simp [System.pended, record, setProcess,
          setModObj, setSyncInfo, pendings, same]
      · simp [System.pended, record, setProcess,
          setModObj, setSyncInfo, completions]

end Tracked

/-- An object that holds `sync` is an item of a process. -/
def Listed (sync : Nat) (system : System) : Prop :=
  ∀ mod modInfo, system.modObjs mod = some modInfo →
    modInfo.psKernelSyncInfo = some sync →
    ∃ process, mod ∈ (system.procs process).modItems

namespace Listed

variable {sync mod process hKernelSyncInfoModObj : Nat} {system next : System}
  {eError : SyncError} {mods : List Nat}

/-- No object starts to hold `sync`, and one that holds it keeps its item. -/
theorem same
    (listed : Listed sync system)
    (old : ∀ {mod modInfo}, next.modObjs mod = some modInfo →
      modInfo.psKernelSyncInfo = some sync →
      ∃ before, system.modObjs mod = some before ∧
        before.psKernelSyncInfo = some sync)
    (items : ∀ {mod modInfo process}, next.modObjs mod = some modInfo →
      modInfo.psKernelSyncInfo = some sync →
      mod ∈ (system.procs process).modItems →
      mod ∈ (next.procs process).modItems) :
    Listed sync next := by
  intro mod modInfo isMod holds
  obtain ⟨before, isBefore, holdsBefore⟩ := old isMod holds
  obtain ⟨process, isItem⟩ := listed mod before isBefore holdsBefore
  exact ⟨process, items isMod holds isItem⟩

/-- An object that is emptied or freed holds nothing. -/
theorem old_of_emptied
    {written : Option ModifySyncOpInfo}
    (modObjs : next.modObjs = update system.modObjs mod written)
    (emptied : ∀ {modInfo}, written = some modInfo →
      modInfo.psKernelSyncInfo = none)
    {other : Nat}
    {modInfo : ModifySyncOpInfo}
    (isNext : next.modObjs other = some modInfo)
    (holds : modInfo.psKernelSyncInfo = some sync) :
    other ≠ mod ∧ ∃ before, system.modObjs other = some before ∧
      before.psKernelSyncInfo = some sync := by
  rw [modObjs] at isNext
  by_cases same : other = mod
  · subst same
    rw [update_self] at isNext
    rw [emptied isNext] at holds
    contradiction
  · rw [update_of_ne same] at isNext
    exact ⟨same, modInfo, isNext, holds⟩

section

variable (listed : Listed sync system)
include listed

theorem create
    {process : Nat}
    {psModSyncOpInfo hKernelSyncInfoModObj : Option Nat}
    {registered committed : Bool}
    {eError : SyncError}
    (done : createSyncInfoModObj system process psModSyncOpInfo
      hKernelSyncInfoModObj registered committed = some (eError, next)) :
    Listed sync next := by
  rcases createSyncInfoModObj_cases done with
    rfl | ⟨mod, unused, rfl | ⟨handle, -, rfl⟩⟩
  · exact listed
  · refine listed.same ?_ (fun _ _ isItem => isItem)
    intro other modInfo isNext holds
    refine (old_of_emptied rfl ?_ isNext holds).2
    rintro modInfo ⟨⟩
    rfl
  · refine listed.same ?_ ?_
    · intro other modInfo isNext holds
      refine (old_of_emptied rfl ?_ isNext holds).2
      rintro modInfo ⟨⟩
      rfl
    · intro other modInfo owner _ _ isItem
      by_cases same : owner = process
      · subst same
        cases registered <;>
          simp [setProcess, isItem]
      · simpa [setProcess, same, setModObj] using isItem

theorem destroy
    {handle : Nat}
    (done : destroySyncInfoModObj system process handle =
      some (eError, next)) :
    Listed sync next := by
  rcases destroySyncInfoModObj_cases done with
    rfl | ⟨mod, modInfo, -, isMod, empty, ⟨-, rfl⟩ | ⟨-, rfl⟩⟩
  · exact listed
  · refine listed.same (fun isNext holds => ⟨_, isNext, holds⟩) ?_
    intro other otherInfo owner _ _ isItem
    by_cases same : owner = process
    · subst same
      simpa [setProcess] using isItem
    · simpa [setProcess, same] using isItem
  · have freed : ∀ {modInfo : ModifySyncOpInfo}, none = some modInfo →
        modInfo.psKernelSyncInfo = none := by simp
    refine listed.same
      (fun isNext holds => (old_of_emptied rfl freed isNext holds).2) ?_
    intro other otherInfo owner isNext holds isItem
    have apart := (old_of_emptied rfl freed isNext holds).1
    by_cases same : owner = process
    · subst same
      simpa [setProcess, setModObj, List.mem_erase_of_ne apart] using isItem
    · simpa [setProcess, setModObj, same] using isItem

theorem modifyPending
    (kept : ModsKept system)
    {hKernelSyncInfo : Nat}
    {ui32ModifyFlags : BitVec 32}
    {token : Option Token}
    (sound : Call.Sound sync system (.modifyPending process
      hKernelSyncInfoModObj hKernelSyncInfo ui32ModifyFlags))
    (done : modifyPendingSyncOps system process hKernelSyncInfoModObj
      hKernelSyncInfo ui32ModifyFlags = some (eError, token, next)) :
    Listed sync next := by
  rcases modifyPendingSyncOps_cases done with
    rfl | ⟨mod, handle, modInfo, info, isHandle, isSyncHandle, isMod, -, -,
      kind⟩
  · exact listed
  have old : ∀ {other otherInfo},
      (system.pended mod modInfo handle.psKernelSyncInfo info
        ui32ModifyFlags).modObjs other = some otherInfo →
      otherInfo.psKernelSyncInfo = some sync →
      (other = mod ∧ handle.psKernelSyncInfo = sync) ∨
        system.modObjs other = some otherInfo := by
    intro other otherInfo isNext holds
    by_cases same : other = mod
    · subst same
      simp only [System.pended, setSyncInfo, setModObj,
        update_self, Option.some.injEq] at isNext
      rw [← isNext] at holds
      exact .inl ⟨rfl, Option.some.inj holds⟩
    · right
      simpa [System.pended, setSyncInfo, setModObj, same] using isNext
  obtain ⟨isNull, rfl⟩ | ⟨registered, rfl⟩ := kind
  · intro other otherInfo isNext holds
    rcases old isNext holds with ⟨-, same⟩ | isOld
    · exact absurd isNull
        (sound mod handle modInfo isHandle isSyncHandle isMod same).1
    · exact listed other otherInfo isOld holds
  · have items : ∀ {member owner}, member ∈ (system.procs owner).modItems →
        member ∈ (((system.pended mod modInfo handle.psKernelSyncInfo info
          ui32ModifyFlags).setProcess process
            { system.procs process with
              modItems := mod :: (system.procs process).modItems.erase
                mod }).procs owner).modItems := by
      intro member owner isItem
      by_cases same : owner = process
      · subst same
        by_cases sameMod : member = mod
        · simp [setProcess, sameMod]
        · simp [setProcess, sameMod, List.mem_erase_of_ne sameMod, isItem]
      · simpa [setProcess, same, System.pended, setSyncInfo,
          setModObj] using isItem
    intro other otherInfo isNext holds
    rcases old isNext holds with ⟨rfl, -⟩ | isOld
    · obtain ⟨sameInfo, isSame, isNull | ⟨-, own⟩⟩ := kept.named isHandle
      · rw [Option.some.inj (isSame.symm.trans isMod), registered] at isNull
        contradiction
      · exact ⟨process, items own⟩
    · obtain ⟨owner, isItem⟩ := listed other otherInfo isOld holds
      exact ⟨owner, items isItem⟩

theorem modifyComplete
    (done : modifyCompleteSyncOps system process hKernelSyncInfoModObj =
      some (eError, next)) :
    Listed sync next := by
  rcases modifyCompleteSyncOps_cases done with
    rfl | ⟨mod, modInfo, target, info, -, -, -, -, -, rfl⟩
  · exact listed
  · refine listed.same ?_ (fun _ _ isItem => isItem)
    intro other otherInfo isNext holds
    refine (old_of_emptied rfl ?_ isNext holds).2
    rintro modInfo ⟨⟩
    rfl

end

/-- A callback fails only by timing out. -/
theorem freeItems_error
    (done : freeItems modifyCompleteSyncOpsCallBack mods system =
      some (eError, next)) :
    eError = .ok ∨ eError = .timeout := by
  induction mods generalizing system with
  | nil => exact .inl (Prod.mk.inj (Option.some.inj done)).1.symm
  | cons first rest ih =>
    cases called : modifyCompleteSyncOpsCallBack system first with
    | none => simp [freeItems, called] at done
    | some result =>
    obtain ⟨error, after⟩ := result
    simp only [freeItems, called, bind, Option.bind] at done
    split at done
    · exact ih done
    · obtain ⟨rfl, -⟩ := Prod.mk.inj (Option.some.inj done)
      obtain ⟨-, -, ⟨-, isOk, -⟩ | ⟨-, -, -, -, ⟨timeout, -⟩ |
        ⟨isOk, -⟩⟩⟩ := modifyCompleteSyncOpsCallBack_cases called
      · exact .inl isOk
      · exact .inr timeout
      · exact .inl isOk

/-- A callback that does not fail frees its object. -/
theorem freed_of_callback
    (done : modifyCompleteSyncOpsCallBack system mod = some (.ok, next)) :
    next.modObjs mod = none := by
  obtain ⟨modInfo, -, ⟨-, -, rfl⟩ | ⟨target, info, -, -, ⟨timeout, -⟩ |
    ⟨-, -, ⟨-, rfl⟩ | ⟨-, rfl⟩⟩⟩⟩ := modifyCompleteSyncOpsCallBack_cases done
  · exact update_self ..
  · contradiction
  · exact update_self ..
  · exact update_self ..

theorem freed_of_freeItems
    (done : freeItems modifyCompleteSyncOpsCallBack mods system =
      some (.ok, next)) :
    ∀ mod ∈ mods, next.modObjs mod = none := by
  induction mods generalizing system with
  | nil => nofun
  | cons first rest ih =>
    cases called : modifyCompleteSyncOpsCallBack system first with
    | none => simp [freeItems, called] at done
    | some result =>
    obtain ⟨error, after⟩ := result
    simp only [freeItems, called, bind, Option.bind] at done
    split at done
    · rename_i isOk
      subst isOk
      intro mod listed
      by_cases inRest : mod ∈ rest
      · exact ih done mod inRest
      · obtain rfl | inRest' := List.mem_cons.mp listed
        · rw [(freeItems_modifyComplete_frame done).modObjs mod inRest]
          exact freed_of_callback called
        · contradiction
    · rename_i failed
      exact absurd (Prod.mk.inj (Option.some.inj done)).1 failed

theorem exit
    (listed : Listed sync system)
    (done : processExit system process = some (eError, next))
    (noTimeout : eError ≠ .timeout) :
    Listed sync next := by
  obtain ⟨completed, syncsFreed, memFreed, _, _, completing, freeingSyncs,
    freeingMem, rfl⟩ := processExit_cases done
  have frame := freeItems_modifyComplete_frame completing
  have syncs := freeItems_frame freeSyncInfoKM_frame freeingSyncs
  have mem := freeItems_frame freeMemCallBackCommon_frame freeingMem
  have procs : memFreed.procs = system.procs :=
    mem.procs.trans (syncs.procs.trans frame.procs)
  have modObjs : memFreed.modObjs = completed.modObjs :=
    mem.modObjs.trans syncs.modObjs
  have isOk : eError = .ok := by
    rcases freeItems_error completing with isOk | timeout
    · exact isOk
    · exact absurd timeout noTimeout
  subst isOk
  intro mod modInfo isMod holds
  have isCompleted : completed.modObjs mod = some modInfo := by
    rw [← modObjs]
    exact isMod
  have unlisted : mod ∉ (system.procs process).modItems := by
    intro isItem
    rw [freed_of_freeItems completing mod
      (List.mem_reverse.mpr isItem)] at isCompleted
    contradiction
  have isOld : ∃ before, system.modObjs mod = some before ∧
      before.psKernelSyncInfo = some sync := by
    refine ⟨modInfo, ?_, holds⟩
    rw [← frame.modObjs mod (by rwa [List.mem_reverse])]
    exact isCompleted
  obtain ⟨before, isBefore, holdsBefore⟩ := isOld
  obtain ⟨owner, isItem⟩ := listed mod before isBefore holdsBefore
  refine ⟨owner, ?_⟩
  have apart : owner ≠ process := by
    rintro rfl
    exact unlisted isItem
  simpa [setProcess, apart, procs] using isItem

end Listed

/-! ## Every run -/

/-- Both complete counts have reached the token, with the modifications `outs`
outstanding. -/
def TokenReached (data : SyncData) (outs : List Modification)
    (token : Token) : Prop :=
  Reached data.ui32WriteOpsComplete token.2
    (outs.countP fun modification =>
      .write ∈ selected modification.ui32ModifyFlags) ∧
  Reached data.ui32ReadOpsComplete token.1
    (outs.countP fun modification =>
      .read ∈ selected modification.ui32ModifyFlags)

/-- The modifications of a sync info whose counts are `data`, when `outs` are
those outstanding. -/
structure ModifiedInOrder
    (sync : Nat) (initial : SyncData) (system : System) (data : SyncData)
    (outs : List Modification) : Prop where
  outstanding : ∀ modification,
    modification ∈ outs ↔ system.Holds sync modification
  outstandingOnce : outs.Nodup
  matched : pendings sync system.history =
    completions sync system.history ++ outs.map Modification.entry
  pending : ∀ kind, pendingCounts data kind = pendingCounts initial kind +
    BitVec.ofNat 32 ((pendings sync system.history).countP
      fun entry => kind ∈ selected entry.2)
  complete : ∀ kind, completeCounts data kind = completeCounts initial kind +
    BitVec.ofNat 32 ((completions sync system.history).countP
      fun entry => kind ∈ selected entry.2)
  difference : ∀ kind, pendingCounts data kind - completeCounts data kind =
    BitVec.ofNat 32 (outs.countP
      fun modification => kind ∈ selected modification.ui32ModifyFlags)
  items : ModsKept system
  listed : ∀ modification ∈ outs,
    ∃ process, modification.mod ∈ (system.procs process).modItems
  flushToToken : ∀ process hKernelSyncInfo handle token,
    (system.procs process).syncHandles hKernelSyncInfo = some handle →
    handle.psKernelSyncInfo = sync →
    ∃ eError,
      syncOpsFlushToToken system process hKernelSyncInfo token = some eError ∧
      (eError = .ok ↔ TokenReached data outs token)
  flushToModObj : ∀ process hKernelSyncInfoModObj mod modInfo,
    (system.procs process).modHandles hKernelSyncInfoModObj = some mod →
    system.modObjs mod = some modInfo →
    modInfo.psKernelSyncInfo = some sync →
    ∃ eError,
      syncOpsFlushToModObj system process hKernelSyncInfoModObj = some eError ∧
      (eError = .ok ↔ TokenReached data outs
        (modInfo.ui32ReadOpsPendingSnapShot,
          modInfo.ui32WriteOpsPendingSnapShot))

/-- What holds of the sync info and of the objects in every run. -/
structure ModInvariant (sync : Nat) (initial : SyncData) (system : System) :
    Prop where
  kept : ModsKept system
  listed : Listed sync system
  tracked : Tracked sync initial system

namespace ModInvariant

variable {sync : Nat} {initial : SyncData} {system next : System}
  {info : KernelSyncInfo}

theorem fresh
    (fresh : system.Fresh)
    (isSync : system.syncInfos sync = some info)
    (idle : pendingCounts info.psSyncData = completeCounts info.psSyncData) :
    ModInvariant sync info.psSyncData system := by
  constructor
  · constructor
    · intro process mod isItem
      rw [fresh.modItems] at isItem
      exact absurd isItem List.not_mem_nil
    · intro process
      rw [fresh.modItems]
      exact List.nodup_nil
    · intro process other mod isItem
      rw [fresh.modItems] at isItem
      exact absurd isItem List.not_mem_nil
    · intro process handle mod isHandle
      rw [fresh.modHandles] at isHandle
      contradiction
    · intro process other handle otherHandle mod isHandle
      rw [fresh.modHandles] at isHandle
      contradiction
  · intro mod modInfo isMod
    rw [fresh.modObjs] at isMod
    contradiction
  · intro sameInfo isSame
    cases isSync.symm.trans isSame
    refine ⟨[], trivial, ?_, ?_, List.nodup_nil, ?_, ?_, by norm_num⟩
    · rw [idle]
      exact (advance_nil _).symm
    · intro modification
      refine iff_of_false List.not_mem_nil ?_
      rintro ⟨modInfo, isMod, -⟩
      rw [fresh.modObjs] at isMod
      contradiction
    · rw [fresh.history]
      rfl
    · rw [fresh.history]
      exact (advance_nil _).symm

section

variable (invariant : ModInvariant sync initial system)
include invariant

theorem call
    {call : Call}
    {eError : SyncError}
    (sound : call.Sound sync system)
    (performed : call.perform system = some (eError, next))
    (noTimeout : eError ≠ .timeout) :
    ModInvariant sync initial next := by
  obtain ⟨kept, listed, tracked⟩ := invariant
  cases call with
  | create process psModSyncOpInfo hKernelSyncInfoModObj registered
      committed =>
    exact ⟨kept.create performed, listed.create performed,
      tracked.create performed⟩
  | destroy process hKernelSyncInfoModObj =>
    exact ⟨kept.destroy performed, listed.destroy performed,
      tracked.destroy performed⟩
  | modifyPending process hKernelSyncInfoModObj hKernelSyncInfo
      ui32ModifyFlags =>
    obtain ⟨⟨error, token, after⟩, done, same⟩ :=
      Option.map_eq_some_iff.mp performed
    obtain ⟨-, rfl⟩ := Prod.mk.inj same
    exact ⟨kept.modifyPending done, listed.modifyPending kept sound done,
      tracked.modifyPending sound done⟩
  | modifyComplete process hKernelSyncInfoModObj =>
    exact ⟨kept.modifyComplete performed, listed.modifyComplete performed,
      tracked.modifyComplete performed⟩
  | exit process =>
    exact ⟨kept.exit performed, listed.exit performed noTimeout,
      tracked.exit performed⟩

theorem elsewhere
    (changed : Elsewhere sync system next) :
    ModInvariant sync initial next := by
  refine ⟨invariant.kept.same changed.mods, ?_, ?_⟩
  · refine invariant.listed.same ?_ ?_
    · intro mod modInfo isMod holds
      rw [changed.mods.modObjs] at isMod
      exact ⟨modInfo, isMod, holds⟩
    · intro mod modInfo process _ _ isItem
      rwa [changed.mods.modItems]
  · refine invariant.tracked.same ?_ ?_ changed.history
    · intro info isSync
      rw [changed.syncInfos] at isSync
      exact ⟨info, isSync, rfl⟩
    · intro modification
      simp only [System.Holds, changed.mods.modObjs]

theorem modifiedInOrder
    (idle : pendingCounts initial = completeCounts initial)
    (isSync : system.syncInfos sync = some info) :
    ∃ outs, ModifiedInOrder sync initial system info.psSyncData outs := by
  obtain ⟨outs, outstanding⟩ := invariant.tracked info isSync
  have counts : ∀ kind, (modifications.allBumps outs).count kind =
      outs.countP
        fun modification => kind ∈ selected modification.ui32ModifyFlags := by
    intro kind
    rw [allBumps_eq, count_allSelected, List.countP_map]
    rfl
  have satisfied : ∀ token : Token,
      satisfiedError (doQuerySyncOpsSatisfied info.psSyncData token.1
        token.2) = .ok ↔ TokenReached info.psSyncData outs token := by
    intro token
    rw [TokenReached, ← counts, ← counts, ← outstanding.satisfied_iff]
    cases doQuerySyncOpsSatisfied info.psSyncData token.1 token.2 <;>
      simp [satisfiedError]
  refine ⟨outs, outstanding.holds, outstanding.nodup, outstanding.matched,
    ?_, ?_, ?_, invariant.kept, ?_, ?_, ?_⟩
  · intro kind
    rw [← count_allSelected, outstanding.matched, outstanding.pending,
      outstanding.complete, ← advance_append, idle, allBumps_eq, allSelected,
      allSelected, ← List.flatMap_append]
    rfl
  · intro kind
    rw [← count_allSelected, outstanding.complete]
    rfl
  · intro kind
    rw [outstanding.pending, advance, counts, BitVec.add_comm,
      BitVec.add_sub_cancel]
  · intro modification isOut
    obtain ⟨modInfo, isMod, holds, -⟩ :=
      (outstanding.holds modification).mp isOut
    exact invariant.listed modification.mod modInfo isMod holds
  · rintro process hKernelSyncInfo handle token isHandle rfl
    refine ⟨_, ?_, satisfied token⟩
    simp only [syncOpsFlushToToken, isHandle, isSync, bind, Option.bind]
  · intro process hKernelSyncInfoModObj mod modInfo isHandle isMod holds
    refine ⟨_, ?_, satisfied (modInfo.ui32ReadOpsPendingSnapShot,
      modInfo.ui32WriteOpsPendingSnapShot)⟩
    simp only [syncOpsFlushToModObj, isHandle, isMod, holds, isSync, bind,
      Option.bind]

end

end ModInvariant

theorem Reachable.invariant
    {sync : Nat}
    {initial system : System}
    {info : KernelSyncInfo}
    (fresh : initial.Fresh)
    (isSync : initial.syncInfos sync = some info)
    (idle : pendingCounts info.psSyncData = completeCounts info.psSyncData)
    (reached : Reachable (fun system call => call.Sound sync system) sync
      initial system) :
    ModInvariant sync info.psSyncData system := by
  induction reached with
  | initial => exact .fresh fresh isSync idle
  | call call _ meets performed noTimeout ih =>
    exact ih.call meets performed noTimeout
  | elsewhere _ changed ih => exact ih.elsewhere changed

/-- In every run without a timeout that makes the sync info pending in
registered objects only, each modification of it bumps the counts it selects
once when it becomes pending and once when it completes, in the same order,
and a snapshot is found reached exactly when the counts are past it. -/
theorem reachable_modifiedInOrder
    {sync : Nat}
    {initial system : System}
    {initialInfo info : KernelSyncInfo}
    (fresh : initial.Fresh)
    (isInitial : initial.syncInfos sync = some initialInfo)
    (idle : pendingCounts initialInfo.psSyncData =
      completeCounts initialInfo.psSyncData)
    (reached : Reachable (fun system call => call.Sound sync system) sync
      initial system)
    (isSync : system.syncInfos sync = some info) :
    ∃ outs, ModifiedInOrder sync initialInfo.psSyncData system
      info.psSyncData outs :=
  (reached.invariant fresh isInitial idle).modifiedInOrder idle isSync

/-- One process that may use one sync info. -/
def oneSyncSystem : System where
  syncInfos := fun sync => if sync = 0 then some newSyncInfo else none
  modObjs := fun _ => none
  memInfos := fun _ => none
  procs := fun _ =>
    { Process.empty with
      syncHandles := fun handle => if handle = 7 then some ⟨0, none⟩ else none }
  history := []

theorem oneSyncSystem_fresh : oneSyncSystem.Fresh :=
  ⟨fun _ => rfl, fun _ => rfl, fun _ _ => rfl, rfl⟩

/-- A pending modification that the exit of its process completes. -/
theorem reachable_modifiedInOrder_exit :
    ∃ system info, system.syncInfos 0 = some info ∧
      info.psSyncData = ⟨1, 1, 0, 0⟩ ∧
      ∃ outs, ModifiedInOrder 0 newSyncInfo.psSyncData system
        info.psSyncData outs := by
  have created : Reachable (fun system call => call.Sound 0 system) 0
      oneSyncSystem _ :=
    .call (.create 3 (some 100) (some 5) true true) .initial trivial rfl nofun
  have pended := Reachable.call (.modifyPending 3 5 7 1) created
    (by
      rintro mod handle modInfo ⟨⟩ - isMod -
      cases isMod
      exact ⟨nofun, by decide⟩)
    rfl nofun
  have exited := Reachable.call (.exit 3) pended trivial rfl nofun
  exact ⟨_, _, rfl, rfl, reachable_modifiedInOrder oneSyncSystem_fresh rfl rfl
    exited rfl⟩

/-- An object without an item keeps its modification pending for good. -/
theorem lost_modification :
    ∃ system info,
      Reachable (fun _ _ => True) 0 oneSyncSystem system ∧
      system.syncInfos 0 = some info ∧
      info.psSyncData = ⟨1, 0, 0, 0⟩ ∧
      system.history = [] := by
  have created : Reachable (fun _ _ => True) 0 oneSyncSystem _ :=
    .call (.create 3 (some 100) (some 5) false true) .initial trivial rfl nofun
  have pended := Reachable.call (.modifyPending 3 5 7 1) created trivial rfl
    nofun
  exact ⟨_, _, pended, rfl, rfl, rfl⟩

theorem reachable_modifiedInOrder_lost :
    ¬ ∀ (sync : Nat) (initial system : System)
      (initialInfo info : KernelSyncInfo),
      initial.Fresh →
      initial.syncInfos sync = some initialInfo →
      pendingCounts initialInfo.psSyncData =
        completeCounts initialInfo.psSyncData →
      Reachable (fun _ _ => True) sync initial system →
      system.syncInfos sync = some info →
      ∃ outs, ModifiedInOrder sync initialInfo.psSyncData system
        info.psSyncData outs := by
  intro inOrder
  obtain ⟨system, info, reached, isSync, data, history⟩ := lost_modification
  obtain ⟨outs, ordered⟩ := inOrder 0 oneSyncSystem system newSyncInfo info
    oneSyncSystem_fresh rfl rfl reached isSync
  have none : outs = [] := by
    have matched := ordered.matched
    rw [history] at matched
    exact List.map_eq_nil_iff.mp matched.symm
  have difference := ordered.difference .write
  rw [none, data] at difference
  exact absurd difference (by decide)

end PvrServices.SyncMod
