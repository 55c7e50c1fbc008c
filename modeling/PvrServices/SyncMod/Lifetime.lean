import PvrServices.SyncMod.MemorySteps
import PvrServices.SyncMod.Owners

/-!
# Lifetime of the sync infos

A modification takes no reference of its sync info; the sync info stays alive
because only the process of the object may free it.  Here are the calls on
modification objects and those that allocate.
-/

namespace PvrServices.SyncMod

open Function (update update_eq_self update_of_ne update_self)
open PvrServices.SyncMod.System (record setModObj setProcess setSyncInfo)

/-! ## Owned parts of a changed system -/

section Owned

variable {system next : System} {process hKernelSyncInfoModObj : Nat}
  {eError : SyncError}

theorem owned_syncItems (system : System) (process : Nat) :
    system.owned.syncItems process = (system.procs process).syncItems :=
  rfl

theorem owned_memItems (system : System) (process : Nat) :
    system.owned.memItems process = (system.procs process).memItems :=
  rfl

theorem owned_syncHandles (system : System) (process : Nat) :
    system.owned.syncHandles process = (system.procs process).syncHandles :=
  rfl

theorem owned_memHandles (system : System) (process : Nat) :
    system.owned.memHandles process = (system.procs process).memHandles :=
  rfl

theorem owned_setProcess (system : System) (process : Nat)
    (changed : Process) :
    (system.setProcess process changed).owned =
      { system.owned with
        syncItems := update system.owned.syncItems process changed.syncItems
        memItems := update system.owned.memItems process changed.memItems
        syncHandles :=
          update system.owned.syncHandles process changed.syncHandles
        memHandles :=
          update system.owned.memHandles process changed.memHandles } := by
  ext1
  all_goals first
    | rfl
    | funext other
      by_cases same : other = process
      · subst same
        simp [System.owned, setProcess]
      · simp [System.owned, setProcess, same]

theorem syncItem_of_info
    {sync : Nat}
    {info : KernelSyncInfo}
    (isSync : system.syncInfos sync = some info) :
    system.owned.syncItem sync = some info.hResItem := by
  simp [System.owned, System.syncItem, isSync]

/-- A process whose sync infos and memory do not change. -/
theorem owned_setProcess_same
    {changed : Process}
    (syncItems : changed.syncItems = (system.procs process).syncItems)
    (memItems : changed.memItems = (system.procs process).memItems)
    (syncHandles : changed.syncHandles = (system.procs process).syncHandles)
    (memHandles : changed.memHandles = (system.procs process).memHandles) :
    (system.setProcess process changed).owned = system.owned := by
  rw [owned_setProcess, syncItems, memItems, syncHandles, memHandles]
  ext1
  all_goals first
    | rfl
    | exact update_eq_self ..

theorem owned_setSyncInfo (system : System) (sync : Nat)
    (info : KernelSyncInfo) :
    (system.setSyncInfo sync (some info)).owned =
      system.owned.addSyncInfo sync info.hResItem := by
  ext1
  all_goals first
    | rfl
    | funext other
      by_cases same : other = sync
      · subst same
        simp [System.owned, Owned.addSyncInfo, System.syncItem, setSyncInfo]
      · simp [System.owned, Owned.addSyncInfo, System.syncItem,
          setSyncInfo, same]

theorem owned_record (system : System) (event : Event) :
    (system.record event).owned = system.owned :=
  rfl

theorem owned_freeSyncInfo (system : System) (sync : Nat) :
    (system.setSyncInfo sync none).owned =
      system.owned.removeSyncInfo sync := by
  ext1
  all_goals first
    | rfl
    | funext other
      by_cases same : other = sync
      · subst same
        simp [System.owned, Owned.removeSyncInfo, System.syncItem, setSyncInfo]
      · simp [System.owned, Owned.removeSyncInfo, System.syncItem,
          setSyncInfo, same]

/-- Frames leave the owned part. -/
theorem owned_eq
    (procs : next.procs = system.procs)
    (memInfos : next.memInfos = system.memInfos)
    (syncItem : ∀ sync, next.syncItem sync = system.syncItem sync) :
    next.owned = system.owned := by
  rw [System.owned, System.owned, procs, memInfos, funext syncItem]

theorem owned_create
    {psModSyncOpInfo hKernelSyncInfoModObj : Option Nat}
    {registered committed : Bool}
    (done : createSyncInfoModObj system process psModSyncOpInfo
      hKernelSyncInfoModObj registered committed = some (eError, next)) :
    next.owned = system.owned := by
  rcases createSyncInfoModObj_cases done with
    rfl | ⟨mod, -, rfl | ⟨handle, -, rfl⟩⟩
  · rfl
  · rfl
  · exact owned_setProcess_same rfl rfl rfl rfl

theorem owned_destroy
    {handle : Nat}
    (done : destroySyncInfoModObj system process handle =
      some (eError, next)) :
    next.owned = system.owned := by
  rcases destroySyncInfoModObj_cases done with
    rfl | ⟨mod, modInfo, -, -, -, ⟨-, rfl⟩ | ⟨-, rfl⟩⟩
  · rfl
  · exact owned_setProcess_same rfl rfl rfl rfl
  · exact owned_setProcess_same rfl rfl rfl rfl

theorem owned_modifyPending
    {hKernelSyncInfo : Nat}
    {ui32ModifyFlags : BitVec 32}
    {token : Option Token}
    (done : modifyPendingSyncOps system process hKernelSyncInfoModObj
      hKernelSyncInfo ui32ModifyFlags = some (eError, token, next)) :
    next.owned = system.owned := by
  rcases modifyPendingSyncOps_cases done with
    rfl | ⟨mod, handle, modInfo, info, -, -, -, -, isSync, ⟨-, rfl⟩ | ⟨-, rfl⟩⟩
  · rfl
  all_goals
    have pended : (system.pended mod modInfo handle.psKernelSyncInfo info
        ui32ModifyFlags).owned = system.owned :=
      owned_eq rfl rfl (syncItem_write isSync rfl rfl)
  · exact pended
  · rw [owned_record]
    refine (owned_setProcess_same ?_ ?_ ?_ ?_).trans pended <;> rfl

theorem owned_modifyComplete
    (done : modifyCompleteSyncOps system process hKernelSyncInfoModObj =
      some (eError, next)) :
    next.owned = system.owned := by
  rcases modifyCompleteSyncOps_cases done with
    rfl | ⟨mod, modInfo, sync, info, -, -, -, isSync, -, rfl⟩
  · rfl
  · exact owned_eq rfl rfl (syncItem_write isSync rfl rfl)

end Owned

/-! ## The sync info of a pending modification -/

/-- An item of a process holds the sync info. -/
def System.HeldBy (system : System) (process sync : Nat) : Prop :=
  ∃ mod modInfo, mod ∈ (system.procs process).modItems ∧
    system.modObjs mod = some modInfo ∧
    modInfo.psKernelSyncInfo = some sync

/-- What holds in every run. -/
structure LifeInvariant (system : System) : Prop where
  kept : ModsKept system
  owners : Owners system.owned
  held : ∀ {process sync}, system.HeldBy process sync →
    system.owned.MayUse process sync

namespace LifeInvariant

variable {system next : System}
  {sync hKernelSyncInfo process hKernelSyncInfoModObj hKernelMemInfo : Nat}
  {eError : SyncError} {committed registered noResman : Bool}
  {psSyncInfo : Option Nat}

/-- Nothing owned changes, and no object starts to hold a sync info. -/
theorem same
    (invariant : LifeInvariant system)
    (kept : ModsKept next)
    (owned : next.owned = system.owned)
    (held : ∀ {process sync}, next.HeldBy process sync →
      system.HeldBy process sync ∨ system.owned.MayUse process sync) :
    LifeInvariant next := by
  refine ⟨kept, ?_, ?_⟩
  · rw [owned]
    exact invariant.owners
  · intro process sync isHeld
    rw [owned]
    exact (held isHeld).elim invariant.held id

/-- An object that holds nothing is written or freed. -/
theorem held_of_emptied
    {mod : Nat}
    {written : Option ModifySyncOpInfo}
    (held : next.HeldBy process sync)
    (modObjs : next.modObjs = update system.modObjs mod written)
    (emptied : ∀ {modInfo}, written = some modInfo →
      modInfo.psKernelSyncInfo = none)
    (items : ∀ {process other}, other ≠ mod →
      other ∈ (next.procs process).modItems →
      other ∈ (system.procs process).modItems) :
    system.HeldBy process sync := by
  obtain ⟨other, modInfo, listed, isMod, holds⟩ := held
  rw [modObjs] at isMod
  by_cases same : other = mod
  · subst same
    rw [update_self] at isMod
    rw [emptied isMod] at holds
    contradiction
  · rw [update_of_ne same] at isMod
    exact ⟨other, modInfo, items same listed, isMod, holds⟩

theorem create
    (invariant : LifeInvariant system)
    {process : Nat}
    {psModSyncOpInfo hKernelSyncInfoModObj : Option Nat}
    {registered committed : Bool}
    {eError : SyncError}
    (done : createSyncInfoModObj system process psModSyncOpInfo
      hKernelSyncInfoModObj registered committed = some (eError, next)) :
    LifeInvariant next := by
  apply invariant.same (invariant.kept.create done) (owned_create done)
  intro owner sync held
  left
  rcases createSyncInfoModObj_cases done with
    rfl | ⟨mod, -, rfl | ⟨handle, -, rfl⟩⟩
  · exact held
  all_goals
    refine held_of_emptied held rfl ?_ ?_
    · rintro modInfo ⟨⟩
      rfl
  · exact fun _ listed => listed
  · intro other item apart listed
    by_cases same : other = process
    · subst same
      cases registered <;>
        simpa [setProcess, apart] using listed
    · simpa [setProcess, same, setModObj] using listed

theorem destroy
    (invariant : LifeInvariant system)
    {handle : Nat}
    (done : destroySyncInfoModObj system process handle =
      some (eError, next)) :
    LifeInvariant next := by
  apply invariant.same (invariant.kept.destroy done) (owned_destroy done)
  intro owner sync held
  left
  rcases destroySyncInfoModObj_cases done with
    rfl | ⟨mod, modInfo, -, -, -, ⟨-, rfl⟩ | ⟨-, rfl⟩⟩
  · exact held
  · obtain ⟨other, otherInfo, listed, isMod, holds⟩ := held
    refine ⟨other, otherInfo, ?_, isMod, holds⟩
    by_cases same : owner = process
    · subst same
      simpa [setProcess] using listed
    · simpa [setProcess, same] using listed
  · refine held_of_emptied held rfl (by simp) ?_
    intro other item _ listed
    by_cases same : other = process
    · subst same
      simp only [setModObj, setProcess, update_self] at listed
      exact List.mem_of_mem_erase listed
    · simpa [setModObj, setProcess, same] using listed

section

variable (invariant : LifeInvariant system)
include invariant

theorem modifyComplete
    (done : modifyCompleteSyncOps system process hKernelSyncInfoModObj =
      some (eError, next)) :
    LifeInvariant next := by
  apply invariant.same (invariant.kept.modifyComplete done)
    (owned_modifyComplete done)
  intro owner sync held
  left
  rcases modifyCompleteSyncOps_cases done with
    rfl | ⟨mod, modInfo, target, info, -, -, -, -, -, rfl⟩
  · exact held
  · refine held_of_emptied held rfl ?_ (fun _ listed => listed)
    rintro modInfo ⟨⟩
    rfl

/-- The object gets a sync info its process has a handle of. -/
theorem modifyPending
    {ui32ModifyFlags : BitVec 32}
    {token : Option Token}
    (done : modifyPendingSyncOps system process hKernelSyncInfoModObj
      hKernelSyncInfo ui32ModifyFlags = some (eError, token, next)) :
    LifeInvariant next := by
  apply invariant.same (invariant.kept.modifyPending done)
    (owned_modifyPending done)
  rintro owner sync ⟨other, otherInfo, listed, isNext, holds⟩
  rcases modifyPendingSyncOps_cases done with
    rfl | ⟨mod, handle, modInfo, info, isHandle, isSyncHandle, isMod, -, -,
      kind⟩
  · exact .inl ⟨other, otherInfo, listed, isNext, holds⟩
  have modObjs : next.modObjs = (system.pended mod modInfo
      handle.psKernelSyncInfo info ui32ModifyFlags).modObjs := by
    rcases kind with ⟨-, rfl⟩ | ⟨-, rfl⟩ <;> rfl
  have isListed : other ∈ (system.procs owner).modItems ∨
      (other = mod ∧ owner = process) := by
    rcases kind with ⟨-, rfl⟩ | ⟨-, rfl⟩
    · exact .inl listed
    · by_cases same : owner = process
      · subst same
        by_cases sameMod : other = mod
        · exact .inr ⟨sameMod, rfl⟩
        · left
          simpa [record, setProcess, sameMod,
            List.mem_erase_of_ne sameMod] using listed
      · left
        simpa [record, setProcess, same, System.pended,
          setSyncInfo, setModObj] using listed
  rw [modObjs] at isNext
  by_cases sameMod : other = mod
  · right
    subst sameMod
    simp only [System.pended, setSyncInfo, setModObj,
      update_self, Option.some.injEq] at isNext
    rw [← isNext] at holds
    cases holds
    have sameOwner : owner = process := by
      rcases isListed with listed | ⟨-, same⟩
      · obtain ⟨named, isNamed, item⟩ := invariant.kept.named isHandle
        obtain ⟨live, isLive, registered⟩ := invariant.kept.live listed
        rw [← Option.some.inj (isLive.symm.trans isNamed), registered] at item
        rcases item with isNull | ⟨-, own⟩
        · contradiction
        · exact invariant.kept.owner listed own
      · exact same
    rw [sameOwner]
    exact invariant.owners.mayUse isSyncHandle
  · left
    have isOld : system.modObjs other = some otherInfo := by
      simpa [System.pended, setSyncInfo, setModObj, sameMod] using isNext
    rcases isListed with listed | ⟨same, -⟩
    · exact ⟨other, otherInfo, listed, isOld, holds⟩
    · exact absurd same sameMod

/-- Objects and their items stay, and so do the sync infos they hold. -/
theorem unheld
    (mods : SameMods system next)
    (owners : Owners next.owned)
    (mayUse : ∀ {process sync}, system.HeldBy process sync →
      system.owned.MayUse process sync → next.owned.MayUse process sync) :
    LifeInvariant next := by
  refine ⟨invariant.kept.same mods, owners, ?_⟩
  rintro process sync ⟨mod, modInfo, listed, isMod, holds⟩
  rw [mods.modItems] at listed
  rw [mods.modObjs] at isMod
  have held : system.HeldBy process sync :=
    ⟨mod, modInfo, listed, isMod, holds⟩
  exact mayUse held (invariant.held held)

end

theorem sameMods_setProcess
    {changed : Process}
    (modItems : changed.modItems = (system.procs process).modItems)
    (modHandles : changed.modHandles = (system.procs process).modHandles) :
    SameMods system (system.setProcess process changed) := by
  refine ⟨rfl, ?_, ?_⟩
  all_goals
    intro other
    by_cases same : other = process
    · subst same
      simp [setProcess, modItems, modHandles]
    · simp [setProcess, same]

theorem freeSyncInfo
    (invariant : LifeInvariant system)
    (safe : ∀ handle,
      (system.procs process).syncHandles hKernelSyncInfo = some handle →
      ∀ owner, ¬ system.HeldBy owner handle.psKernelSyncInfo)
    (done : freeSyncInfo system process hKernelSyncInfo =
      some (eError, next)) :
    LifeInvariant next := by
  rcases freeSyncInfo_cases done with
    rfl | ⟨handle, info, isHandle, isSync, kind⟩
  · exact invariant
  have owners := invariant.owners
  rcases kind with ⟨-, rfl⟩ | ⟨registered, erased, isErased, kind⟩
  · have owned : (system.setProcess process
        { system.procs process with
          syncHandles := update (system.procs process).syncHandles
            hKernelSyncInfo none }).owned =
        system.owned.removeSyncHandle process hKernelSyncInfo := by
      rw [owned_setProcess]
      ext1
      all_goals first
        | rfl
        | exact update_eq_self ..
    refine invariant.unheld (sameMods_setProcess rfl rfl) ?_ ?_
    · rw [owned]
      exact owners.removeSyncHandle process hKernelSyncInfo
    · intro owner sync _ mayUse
      rw [owned]
      exact ⟨mayUse.live, mayUse.syncOwner, mayUse.memOwner⟩
  · have owned : erased.owned =
        (system.owned.removeSyncHandle process
          hKernelSyncInfo).removeSyncItem process handle.psKernelSyncInfo := by
      rw [isErased, owned_setProcess]
      ext1
      all_goals first
        | rfl
        | exact update_eq_self ..
    have mods : SameMods system erased := by
      rw [isErased]
      exact sameMods_setProcess rfl rfl
    have erasedOwners : Owners erased.owned := by
      rw [owned]
      exact (owners.removeSyncHandle process hKernelSyncInfo).removeSyncItem
        process handle.psKernelSyncInfo
    have mayUse : ∀ {owner sync}, system.owned.MayUse owner sync →
        erased.owned.MayUse owner sync := by
      intro owner sync mayUse
      rw [owned]
      exact mayUse.mono mayUse.live Owners.mem_removeSyncItem
        (fun listed isMem owns => ⟨listed, _, isMem, owns⟩)
    rcases kind with rfl | rfl
    · exact invariant.unheld mods erasedOwners fun _ => mayUse
    · refine invariant.unheld ⟨mods.modObjs, mods.modItems, mods.modHandles⟩
        ?_ ?_
      · rw [owned_freeSyncInfo]
        apply erasedOwners.removeSyncInfo
        · rw [owned]
          exact (owners.removeSyncHandle process
            hKernelSyncInfo).notMem_removeSyncItem
              (owners.syncHandle isHandle).2
        · rw [owned]
          intro mem memInfo isMem owns
          have unset := owners.memSync isMem owns
          rw [syncItem_of_info isSync, registered] at unset
          contradiction
        · rw [owned]
          exact owners.unnamed_removeSyncHandle isHandle
      · intro owner sync held may
        rw [owned_freeSyncInfo]
        have apart : sync ≠ handle.psKernelSyncInfo := by
          rintro rfl
          exact safe handle isHandle owner held
        refine (mayUse may).mono ?_ id
          (fun listed isMem owns => ⟨listed, _, isMem, owns⟩)
        rw [Owners.removeSyncInfo_syncItem apart]
        exact (mayUse may).live

theorem syncItem_unused
    (unused : system.syncInfos sync = none) :
    system.owned.syncItem sync = none := by
  simp [System.owned, System.syncItem, unused]

section

variable (invariant : LifeInvariant system)
include invariant

variable {process : Nat}

theorem allocSyncInfo
    {hKernelSyncInfo : Option Nat}
    (done : allocSyncInfo system process psSyncInfo hKernelSyncInfo registered
      committed = some (eError, next)) :
    LifeInvariant next := by
  rcases allocSyncInfo_cases done with
    rfl | ⟨sync, handle, isUnused, isFree, rfl⟩
  · exact invariant
  have unused := syncItem_unused isUnused
  have owned : (system.withSync process sync handle registered
        committed).owned =
      if committed then
        (system.owned.addSync process sync registered).addSyncHandle process
          handle ⟨sync, none⟩
      else system.owned.addSync process sync registered := by
    rw [System.withSync, owned_setProcess, owned_setSyncInfo]
    cases registered <;> cases committed <;> ext1
    all_goals first
      | rfl
      | exact update_eq_self ..
  refine invariant.unheld ?_ ?_ ?_
  · have mods : SameMods system (system.setSyncInfo sync (some
        { newSyncInfo with hResItem := resManRegisterRes registered })) :=
      ⟨rfl, fun _ => rfl, fun _ => rfl⟩
    exact mods.trans (sameMods_setProcess rfl rfl)
  · rw [owned]
    split
    · exact invariant.owners.addSync_handle unused registered isFree
    · exact invariant.owners.addSync unused process registered
  · intro owner held _ mayUse
    have mayUse := Owners.mayUse_addSync unused process registered mayUse
    rw [owned]
    split
    · exact ⟨mayUse.live, mayUse.syncOwner, mayUse.memOwner⟩
    · exact mayUse

/-- A sync info at an unused address is added. -/
theorem addSyncInfo
    (isUnused : system.syncInfos sync = none)
    (info : KernelSyncInfo) :
    LifeInvariant (system.setSyncInfo sync (some info)) := by
  have unused := syncItem_unused isUnused
  refine invariant.unheld ⟨rfl, fun _ => rfl, fun _ => rfl⟩ ?_ ?_
  · rw [owned_setSyncInfo]
    exact invariant.owners.addSyncInfo _ unused
  · intro owner held _ mayUse
    rw [owned_setSyncInfo]
    exact Owners.mayUse_addSyncInfo unused _ mayUse

/-- Memory whose sync info, if it has one, belongs to nobody else. -/
theorem addMem
    {mem : Nat}
    {info : KernelMemInfo}
    (isUnused : system.memInfos mem = none)
    (unset : ∀ {sync}, info.psKernelSyncInfo = some sync →
      system.owned.syncItem sync = some .unset ∧
        Owners.Unowned system.owned sync ∧
        ∀ owner, ¬ system.HeldBy owner sync)
    (freeMem : (system.procs process).memHandles hKernelMemInfo = none)
    (freeSync : (system.procs process).syncHandles hKernelSyncInfo = none)
    (registered : noResman = false → info.hResItem = .registered)
    {handles : Nat → Option SyncHandle}
    (isHandles : handles =
      match info.psKernelSyncInfo with
      | none => (system.procs process).syncHandles
      | some sync =>
        update (system.procs process).syncHandles hKernelSyncInfo
          (some ⟨sync, some hKernelMemInfo⟩)) :
    LifeInvariant ((system.setMemInfo mem (some info)).setProcess process
      ((system.procs process).withMem noResman committed mem hKernelMemInfo
        handles)) := by
  obtain ⟨added, isAdded⟩ : ∃ added, added =
      system.owned.addMem process mem info (!noResman) := ⟨_, rfl⟩
  obtain ⟨named, isNamed⟩ : ∃ named, named =
      added.addMemHandle process hKernelMemInfo mem := ⟨_, rfl⟩
  have addedOwners : Owners added := by
    rw [isAdded]
    apply invariant.owners.addMem isUnused
    · intro sync owns
      obtain ⟨item, unowned, -⟩ := unset owns
      exact ⟨item, unowned.unowned, unowned.unnamed⟩
    · intro kept
      exact registered (by simpa using kept)
  have added_eq : added.memHandles = system.owned.memHandles ∧
      added.syncHandles = system.owned.syncHandles ∧
      added.syncItems = system.owned.syncItems ∧
      added.syncItem = system.owned.syncItem := by
    rw [isAdded]
    cases noResman <;> exact ⟨rfl, rfl, rfl, rfl⟩
  have isMem : added.memInfos mem = some info := by
    rw [isAdded, Owners.addMem_memInfos, update_self]
  have namedOwners : Owners named := by
    rw [isNamed]
    apply addedOwners.addMemHandle
    · rw [added_eq.1]
      exact freeMem
    · rw [isMem]
      rfl
    · intro other listed
      rw [isAdded] at listed
      rcases Owners.mem_addMem listed with ⟨same, -⟩ | old
      · exact same
      · obtain ⟨found, isFound, -⟩ := invariant.owners.memItem old
        rw [show system.owned.memInfos mem = none from isUnused] at isFound
        contradiction
    · intro other otherHandle isHandle
      rw [added_eq.1] at isHandle
      have live := (invariant.owners.memHandle isHandle).1
      rw [show system.owned.memInfos mem = none from isUnused] at live
      contradiction
  have owned : ((system.setMemInfo mem (some info)).setProcess process
      ((system.procs process).withMem noResman committed mem hKernelMemInfo
        handles)).owned =
      if committed then
        match info.psKernelSyncInfo with
        | none => named
        | some sync => named.addSyncHandle process hKernelSyncInfo
            ⟨sync, some hKernelMemInfo⟩
      else added := by
    rw [owned_setProcess, isNamed, isAdded, isHandles]
    cases info.psKernelSyncInfo <;> cases noResman <;> cases committed <;>
      ext1
    all_goals first
      | rfl
      | exact update_eq_self ..
  refine invariant.unheld ?_ ?_ ?_
  · have mods : SameMods system (system.setMemInfo mem (some info)) :=
      ⟨rfl, fun _ => rfl, fun _ => rfl⟩
    exact mods.trans (sameMods_setProcess rfl rfl)
  · rw [owned]
    cases committed with
    | false => exact addedOwners
    | true =>
      cases owns : info.psKernelSyncInfo with
      | none => exact namedOwners
      | some sync =>
        obtain ⟨item, unowned, -⟩ := unset owns
        apply namedOwners.addSyncHandle
        · rw [isNamed]
          exact (congrFun (congrFun added_eq.2.1 process)
            hKernelSyncInfo).trans freeSync
        · rw [isNamed]
          change (added.syncItem sync).isSome
          rw [added_eq.2.2.2, item]
          rfl
        · intro other listed
          rw [isNamed] at listed
          change sync ∈ added.syncItems other at listed
          rw [added_eq.2.2.1] at listed
          exact absurd listed (unowned.unlisted other)
        · intro other otherHandle otherInfo isHandle
          rw [isNamed] at isHandle
          change added.syncHandles other otherHandle = _ at isHandle
          rw [added_eq.2.1] at isHandle
          exact unowned.unnamed isHandle
        · intro other otherInfo isOther otherOwns
          refine ⟨hKernelMemInfo, rfl, ?_⟩
          have same : other = mem := by
            rw [isNamed] at isOther
            exact addedOwners.memSyncOnce isOther isMem otherOwns owns
          rw [same, isNamed]
          simp [Owned.addMemHandle]
  · intro owner held isHeld mayUse
    have apart : info.psKernelSyncInfo ≠ some held := by
      intro owns
      exact (unset owns).2.2 owner isHeld
    have mayUse : added.MayUse owner held := by
      rw [isAdded]
      exact Owners.mayUse_addMem isUnused mayUse apart process _
    rw [owned, isNamed]
    split
    · split <;> exact ⟨mayUse.live, mayUse.syncOwner, mayUse.memOwner⟩
    · exact mayUse

theorem allocDeviceMem
    {psMemInfo : Option Nat}
    {noSyncObj : Bool}
    (done : allocDeviceMem system process psMemInfo psSyncInfo noSyncObj
      noResman hKernelMemInfo hKernelSyncInfo registered committed =
        some (eError, next)) :
    LifeInvariant next := by
  rcases allocDeviceMem_cases done with
    rfl | ⟨mem, hResItem, synced, owned, handles, freeMem, freeMemHandle,
      freeSyncHandle, kind, isRegistered, isNext⟩
  · exact invariant
  rcases kind with
    ⟨rfl, rfl, isHandles⟩ | ⟨sync, rfl, isUnused, rfl, isHandles⟩
  · rcases isNext with rfl | rfl
    · exact invariant
    · refine invariant.addMem freeMem ?_ freeMemHandle freeSyncHandle
        isRegistered isHandles
      nofun
  · have synced := invariant.addSyncInfo isUnused
      { newSyncInfo with ui32RefCount := 1 }
    rcases isNext with rfl | rfl
    · exact synced
    · refine synced.addMem freeMem ?_ freeMemHandle freeSyncHandle
        isRegistered isHandles
      rintro _ ⟨⟩
      have unused := syncItem_unused isUnused
      have fresh := invariant.owners.unowned unused
      refine ⟨?_, ⟨fresh.unlisted, fresh.unowned, fresh.unnamed⟩, ?_⟩
      · rw [owned_setSyncInfo]
        exact update_self ..
      · intro owner held
        exact Owners.ne_of_mayUse unused (invariant.held held) rfl

end

end LifeInvariant

end PvrServices.SyncMod
