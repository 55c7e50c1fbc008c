import PvrServices.SyncMod.Lifetime
import PvrServices.SyncMod.OrderCorrect

/-!
# Runs of the modification and allocation calls

The calls that free sync infos and device memory, next to those on modification
objects.  No registered object points to a freed sync info as long as no call
frees one that has a pending modification; the exit of a process may.
-/

namespace PvrServices.SyncMod

/-! ## What is left when memory is freed -/

namespace Freed

variable {syncs mems : List Nat} {system next freedSystem : System}
  {sync : Nat}

section

variable (freed : Freed syncs mems system next)
include freed

theorem memSync
    (owners : Owners system.owned)
    (registered : ∀ sync ∈ syncs,
      system.owned.syncItem sync = some .registered)
    {mem : Nat}
    {info : KernelMemInfo}
    (isMem : next.memInfos mem = some info)
    (owns : info.psKernelSyncInfo = some sync) :
    next.syncItem sync = some .unset := by
  obtain ⟨before, isBefore, same⟩ := freed.memInfo isMem
  have unset := owners.memSync isBefore (same.trans owns)
  rcases freed.syncItem sync with
    kept | listed | ⟨other, otherInfo, -, isOther, otherOwns, isFreed⟩
  · exact kept.trans unset
  · rw [registered sync listed] at unset
    contradiction
  · obtain rfl :=
      owners.memSyncOnce isBefore isOther (same.trans owns) otherOwns
    rw [isFreed] at isMem
    contradiction

theorem syncItem_of_registered
    (owners : Owners system.owned)
    (unlisted : sync ∉ syncs)
    (registered : system.owned.syncItem sync = some .registered) :
    next.syncItem sync = system.syncItem sync := by
  rcases freed.syncItem sync with
    kept | listed | ⟨mem, info, -, isMem, owns, -⟩
  · exact kept
  · exact absurd listed unlisted
  · have unset := owners.memSync isMem owns
    rw [registered] at unset
    contradiction

/-- A sync info stays while no freed memory owns it. -/
theorem syncItem_of_unowned
    (unlisted : sync ∉ syncs)
    (unowned : ∀ {mem info}, mem ∈ mems → system.memInfos mem = some info →
      info.psKernelSyncInfo = some sync → (next.memInfos mem).isSome) :
    next.syncItem sync = system.syncItem sync := by
  rcases freed.syncItem sync with
    kept | listed | ⟨mem, info, isFreed, isMem, owns, gone⟩
  · exact kept
  · exact absurd listed unlisted
  · have live := unowned isFreed isMem owns
    rw [gone] at live
    contradiction

end

variable {next : Owned} (freed : Freed syncs mems system freedSystem)
  (memInfos : next.memInfos = freedSystem.memInfos)
  (syncItem : next.syncItem = freedSystem.syncItem)
  (syncItems : ∀ process,
    (next.syncItems process).Sublist (system.owned.syncItems process))
  (memItems : ∀ process,
    (next.memItems process).Sublist (system.owned.memItems process))
include freed memInfos syncItem syncItems memItems

/-- Nothing that is left names what was freed. -/
theorem owners
    (owners : Owners system.owned)
    (syncHandles : ∀ {process handle info},
      next.syncHandles process handle = some info →
      system.owned.syncHandles process handle = some info)
    (memHandles : ∀ {process handle mem},
      next.memHandles process handle = some mem →
      system.owned.memHandles process handle = some mem)
    (registered : ∀ sync ∈ syncs,
      system.owned.syncItem sync = some .registered)
    (syncsUnlisted : ∀ {process sync}, sync ∈ next.syncItems process →
      sync ∉ syncs)
    (memsUnlisted : ∀ {process mem}, mem ∈ next.memItems process →
      mem ∉ mems)
    (syncsUnnamed : ∀ {process handle info},
      next.syncHandles process handle = some info →
      info.psKernelSyncInfo ∉ syncs)
    (memsNamed : ∀ {process handle mem},
      next.memHandles process handle = some mem → mem ∈ mems →
      (freedSystem.memInfos mem).isSome)
    (parents : ∀ {process handle info parent mem},
      next.syncHandles process handle = some info →
      info.hParent = some parent →
      system.owned.memHandles process parent = some mem →
      next.memHandles process parent = some mem) :
    Owners next := by
  apply owners.release syncItems memItems syncHandles memHandles
  · rw [memInfos]
    exact freed.memInfo
  · rw [memInfos, syncItem]
    exact freed.memSync owners registered
  · intro process sync listed
    rw [syncItem]
    exact freed.syncItem_of_registered owners (syncsUnlisted listed)
      (owners.syncItem ((syncItems process).subset listed))
  · intro process mem listed
    rw [memInfos]
    exact freed.memInfos mem (memsUnlisted listed)
  · intro process handle mem isHandle
    rw [memInfos]
    by_cases isFreed : mem ∈ mems
    · exact memsNamed isHandle isFreed
    · rw [freed.memInfos mem isFreed]
      exact (owners.memHandle (memHandles isHandle)).1
  · intro process handle info isHandle
    rw [syncItem, freed.syncItem_of_unowned (syncsUnnamed isHandle)]
    · exact (owners.syncHandle (syncHandles isHandle)).1
    · intro mem memInfo isFreed isMem owns
      obtain ⟨parent, isParent, named⟩ :=
        owners.syncHandleMem (syncHandles isHandle) isMem owns
      exact memsNamed (parents isHandle isParent named) isFreed
  · exact parents

/-- Sync infos that are not freed are used as before. -/
theorem mayUse
    {user used : Nat}
    (unlisted : used ∉ syncs)
    (unowned : ∀ {mem info}, mem ∈ mems → system.memInfos mem = some info →
      info.psKernelSyncInfo ≠ some used)
    (mayUse : system.owned.MayUse user used) :
    next.MayUse user used := by
  apply mayUse.mono
  · rw [syncItem, freed.syncItem_of_unowned unlisted]
    · exact mayUse.live
    · exact fun isFreed isMem owns => absurd owns (unowned isFreed isMem)
  · exact fun listed => (syncItems _).subset listed
  · rw [memInfos]
    intro other mem info listed isMem owns
    obtain ⟨before, isBefore, same⟩ := freed.memInfo isMem
    exact ⟨(memItems other).subset listed, before, isBefore, same.trans owns⟩

end Freed

namespace LifeInvariant

variable {system next : System} {process : Nat} {eError : SyncError}

/-- Nothing left names the memory info or its sync info. -/
theorem freeDeviceMem
    (invariant : LifeInvariant system)
    {hKernelMemInfo : Nat}
    (safe : ∀ mem info sync,
      (system.procs process).memHandles hKernelMemInfo = some mem →
      system.memInfos mem = some info →
      info.psKernelSyncInfo = some sync →
      ∀ owner, ¬ system.HeldBy owner sync)
    (done : freeDeviceMem system process hKernelMemInfo =
      some (eError, next)) :
    LifeInvariant next := by
  rcases freeDeviceMem_released done with
    rfl | ⟨mem, info, isHandle, isMem, item, released⟩
  · exact invariant
  have owners := invariant.owners
  have freed := released.freed
  have syncItems : ∀ other, (next.owned.syncItems other).Sublist
      (system.owned.syncItems other) := by
    intro other
    rw [owned_syncItems, owned_syncItems, released.syncItems]
  have memItems : ∀ other, (next.owned.memItems other).Sublist
      (system.owned.memItems other) := by
    intro other
    rw [owned_memItems, owned_memItems, released.memItems]
    split
    · exact List.erase_sublist
    · exact List.Sublist.refl _
  have unlisted : ∀ {other found}, found ∈ next.owned.memItems other →
      found ∉ [mem] := by
    intro other found listed isFreed
    rw [List.mem_singleton.mp isFreed] at listed
    obtain ⟨found, isFound, registered⟩ :=
      owners.memItem ((memItems other).subset listed)
    rw [← Option.some.inj (isMem.symm.trans isFound)] at registered
    have isOwner := (owners.memHandle isHandle).2
      ((memItems other).subset listed)
    rw [owned_memItems, released.memItems,
      if_pos ⟨registered, isOwner⟩] at listed
    exact (owners.memNodup other).not_mem_erase listed
  have syncHandles : ∀ {other handle found},
      next.owned.syncHandles other handle = some found →
      system.owned.syncHandles other handle = some found := by
    intro other handle found isFound
    rcases released.handles with ⟨-, same⟩ | left
    · exact (congrFun (same other).1 handle).symm.trans isFound
    · exact ((left other).1 isFound).1
  have memHandles : ∀ {other handle found},
      next.owned.memHandles other handle = some found →
      system.owned.memHandles other handle = some found := by
    intro other handle found isFound
    rcases released.handles with ⟨-, same⟩ | left
    · exact (congrFun (same other).2 handle).symm.trans isFound
    · exact ((left other).2.mp isFound).1
  have memsNamed : ∀ {other handle found},
      next.owned.memHandles other handle = some found →
      found ∈ [mem] → (next.memInfos found).isSome := by
    intro other handle found isFound isFreed
    obtain rfl := List.mem_singleton.mp isFreed
    rcases released.handles with ⟨alive, -⟩ | left
    · exact alive
    · obtain ⟨isOld, notOwn⟩ := (left other).2.mp isFound
      exact absurd (owners.memHandleOnce isOld isHandle) notOwn
  have parents : ∀ {other handle found parent foundMem},
      next.owned.syncHandles other handle = some found →
      found.hParent = some parent →
      system.owned.memHandles other parent = some foundMem →
      next.owned.memHandles other parent = some foundMem := by
    intro other handle found parent foundMem isFound isParent named
    rcases released.handles with ⟨-, same⟩ | left
    · exact (congrFun (same other).2 parent).trans named
    · refine (left other).2.mpr ⟨named, ?_⟩
      rintro ⟨rfl, rfl⟩
      exact ((left other).1 isFound).2 ⟨rfl, isParent⟩
  refine invariant.unheld released.mods ?_ ?_
  · exact freed.owners rfl rfl syncItems memItems owners syncHandles
      memHandles nofun (fun _ => List.not_mem_nil) unlisted
      (fun _ => List.not_mem_nil) memsNamed parents
  · intro owner sync held mayUse
    refine freed.mayUse rfl rfl syncItems memItems List.not_mem_nil ?_ mayUse
    intro found foundInfo isFreed isFound owns
    obtain rfl := List.mem_singleton.mp isFreed
    exact safe found foundInfo sync isHandle isFound owns owner held

/-- An exit frees what its process owns, and nothing else. -/
theorem freed_of_processExit
    (done : processExit system process = some (eError, next)) :
    Freed (system.procs process).syncItems (system.procs process).memItems
      system next ∧
    (∀ mod, mod ∉ (system.procs process).modItems →
      next.modObjs mod = system.modObjs mod) ∧
    next.procs = Function.update system.procs process Process.empty := by
  obtain ⟨completed, syncsFreed, memFreed, _, _, completing, freeingSyncs,
    freeingMem, rfl⟩ := processExit_cases done
  have frame := freeItems_modifyComplete_frame completing
  have syncs := freeItems_frame freeSyncInfoKM_frame freeingSyncs
  have mem := freeItems_frame freeMemCallBackCommon_frame freeingMem
  have afterMods : Freed (system.procs process).syncItems
      (system.procs process).memItems system completed :=
    .of_eq frame.memInfos frame.syncItem
  have afterSyncs := freeItems_induction
    (motive := Freed (system.procs process).syncItems
      (system.procs process).memItems system)
    (fun listed called before =>
      before.trans (freeSyncInfoKM_freed listed called))
    freeingSyncs afterMods
  have afterMem := freeItems_induction
    (motive := Freed (system.procs process).syncItems
      (system.procs process).memItems system)
    (fun listed called before =>
      before.trans (freeMemCallBackCommon_freed listed called).1)
    freeingMem afterSyncs
  refine ⟨⟨afterMem.memInfos, afterMem.memInfo, afterMem.syncItem⟩, ?_, ?_⟩
  · intro mod unlisted
    rw [← frame.modObjs mod (by rwa [List.mem_reverse])]
    exact congrFun (mem.modObjs.trans syncs.modObjs) mod
  · rw [← frame.procs, ← syncs.procs, ← mem.procs]
    rfl

theorem exit
    (invariant : LifeInvariant system)
    (done : processExit system process = some (eError, next)) :
    LifeInvariant next := by
  obtain ⟨freed, mods, procs⟩ := freed_of_processExit done
  have owners := invariant.owners
  have left : ∀ other, other ≠ process →
      next.procs other = system.procs other := by
    intro other apart
    rw [procs, Function.update_of_ne apart]
  have gone : next.procs process = Process.empty := by
    rw [procs, Function.update_self]
  have syncItems : ∀ other, (next.owned.syncItems other).Sublist
      (system.owned.syncItems other) := by
    intro other
    rw [owned_syncItems, owned_syncItems]
    by_cases same : other = process
    · rw [same, gone]
      exact List.nil_sublist _
    · rw [left other same]
  have memItems : ∀ other, (next.owned.memItems other).Sublist
      (system.owned.memItems other) := by
    intro other
    rw [owned_memItems, owned_memItems]
    by_cases same : other = process
    · rw [same, gone]
      exact List.nil_sublist _
    · rw [left other same]
  have syncListed : ∀ {other sync}, sync ∈ next.owned.syncItems other →
      other ≠ process := by
    rintro _ sync listed rfl
    rw [owned_syncItems, gone] at listed
    exact List.not_mem_nil listed
  have memListed : ∀ {other mem}, mem ∈ next.owned.memItems other →
      other ≠ process := by
    rintro _ mem listed rfl
    rw [owned_memItems, gone] at listed
    exact List.not_mem_nil listed
  have syncHandles : ∀ {other handle found},
      next.owned.syncHandles other handle = some found →
      other ≠ process ∧
        system.owned.syncHandles other handle = some found := by
    intro other handle found isFound
    by_cases same : other = process
    · subst same
      rw [owned_syncHandles, gone] at isFound
      contradiction
    · rw [owned_syncHandles, left other same] at isFound
      exact ⟨same, isFound⟩
  have memHandles : ∀ {other handle found},
      next.owned.memHandles other handle = some found →
      other ≠ process ∧
        system.owned.memHandles other handle = some found := by
    intro other handle found isFound
    by_cases same : other = process
    · subst same
      rw [owned_memHandles, gone] at isFound
      contradiction
    · rw [owned_memHandles, left other same] at isFound
      exact ⟨same, isFound⟩
  refine ⟨invariant.kept.exit done, ?_, ?_⟩
  · refine freed.owners rfl rfl syncItems memItems owners
      (fun isFound => (syncHandles isFound).2)
      (fun isFound => (memHandles isFound).2)
      (fun sync listed =>
        owners.syncItem (show sync ∈ system.owned.syncItems process from listed))
      ?_ ?_ ?_ ?_ ?_
    · intro other sync listed isFreed
      exact syncListed listed
        (owners.syncOwner ((syncItems other).subset listed) isFreed)
    · intro other mem listed isFreed
      exact memListed listed
        (owners.memOwner ((memItems other).subset listed) isFreed)
    · intro other handle found isFound isFreed
      obtain ⟨apart, isOld⟩ := syncHandles isFound
      exact apart ((owners.syncHandle isOld).2 isFreed).symm
    · intro other handle found isFound isFreed
      obtain ⟨apart, isOld⟩ := memHandles isFound
      exact absurd ((owners.memHandle isOld).2 isFreed).symm apart
    · intro other handle found parent mem isFound _ named
      have apart := (syncHandles isFound).1
      rw [owned_memHandles, left other apart]
      exact named
  · rintro owner sync ⟨mod, modInfo, listed, isMod, holds⟩
    have apart : owner ≠ process := by
      rintro rfl
      rw [gone] at listed
      exact List.not_mem_nil listed
    rw [left owner apart] at listed
    have unlisted : mod ∉ (system.procs process).modItems :=
      fun own => apart (invariant.kept.owner listed own)
    rw [mods mod unlisted] at isMod
    have mayUse := invariant.held ⟨mod, modInfo, listed, isMod, holds⟩
    refine freed.mayUse rfl rfl syncItems memItems ?_ ?_ mayUse
    · exact fun isFreed => apart (mayUse.syncOwner isFreed).symm
    · exact fun isFreed isMem owns =>
        apart (mayUse.memOwner isFreed isMem owns).symm

end LifeInvariant

/-! ## Every run -/

/-- The calls on modification objects, and those that allocate and free sync
infos and device memory. -/
inductive LifeCall where
  | modify (call : Call)
  | allocSyncInfo (process : Nat) (psSyncInfo hKernelSyncInfo : Option Nat)
      (registered committed : Bool)
  | freeSyncInfo (process hKernelSyncInfo : Nat)
  | allocDeviceMem (process : Nat) (psMemInfo psSyncInfo : Option Nat)
      (noSyncObj noResman : Bool) (hKernelMemInfo hKernelSyncInfo : Nat)
      (registered committed : Bool)
  | freeDeviceMem (process hKernelMemInfo : Nat)

/-- Make a call. -/
def LifeCall.perform (system : System) :
    LifeCall → Option (SyncError × System)
  | .modify call => call.perform system
  | .allocSyncInfo process psSyncInfo hKernelSyncInfo registered committed =>
    SyncMod.allocSyncInfo system process psSyncInfo hKernelSyncInfo
      registered committed
  | .freeSyncInfo process hKernelSyncInfo =>
    SyncMod.freeSyncInfo system process hKernelSyncInfo
  | .allocDeviceMem process psMemInfo psSyncInfo noSyncObj noResman
      hKernelMemInfo hKernelSyncInfo registered committed =>
    SyncMod.allocDeviceMem system process psMemInfo psSyncInfo noSyncObj
      noResman hKernelMemInfo hKernelSyncInfo registered committed
  | .freeDeviceMem process hKernelMemInfo =>
    SyncMod.freeDeviceMem system process hKernelMemInfo

/-- No registered object has a pending modification of a sync info that is
freed by a call. -/
def LifeCall.Safe (system : System) : LifeCall → Prop
  | .freeSyncInfo process hKernelSyncInfo => ∀ handle,
      (system.procs process).syncHandles hKernelSyncInfo = some handle →
      ∀ owner, ¬ system.HeldBy owner handle.psKernelSyncInfo
  | .freeDeviceMem process hKernelMemInfo => ∀ mem info sync,
      (system.procs process).memHandles hKernelMemInfo = some mem →
      system.memInfos mem = some info →
      info.psKernelSyncInfo = some sync →
      ∀ owner, ¬ system.HeldBy owner sync
  | _ => True

/-- The systems that calls meeting the condition lead to.  The counts of a
sync info that lives may change at any time. -/
inductive LifeReachable (condition : System → LifeCall → Prop)
    (initial : System) : System → Prop
  | initial : LifeReachable condition initial initial
  | call {system next : System} {eError : SyncError} (call : LifeCall)
      (reached : LifeReachable condition initial system)
      (meets : condition system call)
      (performed : call.perform system = some (eError, next)) :
      LifeReachable condition initial next
  | counts {system : System} {sync : Nat} {info : KernelSyncInfo}
      (psSyncData : SyncQueue.SyncData)
      (reached : LifeReachable condition initial system)
      (isSync : system.syncInfos sync = some info) :
      LifeReachable condition initial
        (system.setSyncInfo sync (some { info with psSyncData }))

/-- Every sync info that an item's object points to is alive. -/
def NoDangling (system : System) : Prop :=
  ∀ process sync, system.HeldBy process sync →
    (system.syncInfos sync).isSome

/-- Nothing exists yet. -/
def emptySystem : System where
  syncInfos := fun _ => none
  modObjs := fun _ => none
  memInfos := fun _ => none
  procs := fun _ => Process.empty
  history := []

namespace LifeInvariant

theorem empty : LifeInvariant emptySystem := by
  constructor
  · constructor
    · nofun
    · exact fun _ => List.nodup_nil
    · nofun
    · nofun
    · nofun
  · constructor
    · nofun
    · exact fun _ => List.nodup_nil
    · nofun
    · nofun
    · nofun
    · nofun
    · exact fun _ => List.nodup_nil
    · nofun
    · nofun
    · nofun
    · nofun
    · nofun
    · nofun
  · rintro process sync ⟨mod, modInfo, listed, -⟩
    exact absurd listed List.not_mem_nil

variable {system next : System}

theorem call
    (invariant : LifeInvariant system)
    {call : LifeCall}
    {eError : SyncError}
    (safe : call.Safe system)
    (performed : call.perform system = some (eError, next)) :
    LifeInvariant next := by
  cases call with
  | modify call =>
    cases call with
    | create process psModSyncOpInfo hKernelSyncInfoModObj registered
        committed => exact invariant.create performed
    | destroy process hKernelSyncInfoModObj =>
      exact invariant.destroy performed
    | modifyPending process hKernelSyncInfoModObj hKernelSyncInfo
        ui32ModifyFlags =>
      obtain ⟨⟨error, token, after⟩, done, same⟩ :=
        Option.map_eq_some_iff.mp performed
      obtain ⟨-, rfl⟩ := Prod.mk.inj same
      exact invariant.modifyPending done
    | modifyComplete process hKernelSyncInfoModObj =>
      exact invariant.modifyComplete performed
    | exit process => exact invariant.exit performed
  | allocSyncInfo process psSyncInfo hKernelSyncInfo registered committed =>
    exact invariant.allocSyncInfo performed
  | freeSyncInfo process hKernelSyncInfo =>
    exact invariant.freeSyncInfo safe performed
  | allocDeviceMem process psMemInfo psSyncInfo noSyncObj noResman
      hKernelMemInfo hKernelSyncInfo registered committed =>
    exact invariant.allocDeviceMem performed
  | freeDeviceMem process hKernelMemInfo =>
    exact invariant.freeDeviceMem safe performed

theorem counts
    (invariant : LifeInvariant system)
    {sync : Nat}
    {info : KernelSyncInfo}
    (psSyncData : SyncQueue.SyncData)
    (isSync : system.syncInfos sync = some info) :
    LifeInvariant
      (system.setSyncInfo sync (some { info with psSyncData })) := by
  have owned : (system.setSyncInfo sync
      (some { info with psSyncData })).owned = system.owned :=
    owned_eq rfl rfl (syncItem_write isSync rfl rfl)
  exact invariant.same
    (invariant.kept.same ⟨rfl, fun _ => rfl, fun _ => rfl⟩) owned .inl

theorem noDangling (invariant : LifeInvariant system) : NoDangling system := by
  intro process sync held
  have live := (invariant.held held).live
  simpa [System.owned, System.syncItem] using live

end LifeInvariant

/-- In every run in which no call frees a sync info that a registered object
has a pending modification of, no such object points to a freed sync info. -/
theorem reachable_noDangling
    {system : System}
    (reached : LifeReachable (fun system call => call.Safe system) emptySystem
      system) :
    NoDangling system := by
  apply LifeInvariant.noDangling
  induction reached with
  | initial => exact .empty
  | call call _ meets performed ih => exact ih.call meets performed
  | counts psSyncData _ isSync ih => exact ih.counts psSyncData isSync

/-- A modification is pending, and its sync info is owned by memory. -/
theorem reachable_noDangling_pending :
    ∃ system, NoDangling system ∧ system.HeldBy 3 0 := by
  have allocated : LifeReachable (fun system call => call.Safe system)
      emptySystem _ :=
    .call (.allocDeviceMem 3 (some 50) (some 0) false false 8 7 true true)
      .initial trivial rfl
  have created := LifeReachable.call
    (.modify (.create 3 (some 100) (some 5) true true)) allocated trivial rfl
  have pended := LifeReachable.call (.modify (.modifyPending 3 5 7 1)) created
    trivial rfl
  exact ⟨_, reachable_noDangling pended, 100, _, List.mem_cons_self, rfl, rfl⟩

/-- The sync info of a pending modification is freed by a call. -/
theorem freed_pending :
    ∃ system, LifeReachable (fun _ _ => True) emptySystem system ∧
      system.HeldBy 3 0 ∧ system.syncInfos 0 = none := by
  have allocated : LifeReachable (fun _ _ => True) emptySystem _ :=
    .call (.allocSyncInfo 3 (some 0) (some 7) true true) .initial trivial rfl
  have created := LifeReachable.call
    (.modify (.create 3 (some 100) (some 5) true true)) allocated trivial rfl
  have pended := LifeReachable.call (.modify (.modifyPending 3 5 7 1)) created
    trivial rfl
  have freed := LifeReachable.call (.freeSyncInfo 3 7) pended trivial rfl
  exact ⟨_, freed, ⟨100, _, List.mem_cons_self, rfl, rfl⟩, rfl⟩

theorem reachable_noDangling_freed :
    ¬ ∀ system, LifeReachable (fun _ _ => True) emptySystem system →
      NoDangling system := by
  intro noDangling
  obtain ⟨system, reached, held, freed⟩ := freed_pending
  have live := noDangling system reached 3 0 held
  rw [freed] at live
  contradiction

end PvrServices.SyncMod
