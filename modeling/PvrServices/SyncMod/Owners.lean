import PvrServices.SyncMod.Steps

/-!
# Owners of the sync infos

Which process owns a sync info: it is an item of one process, or belongs to
memory that is, and only its owner has a handle of it.  This is kept when
items, handles and infos are added one by one, and when some are taken away.
-/

namespace PvrServices.SyncMod

open Function (update update_of_ne update_self)

/-- Items and handles of sync infos and memory, the memory infos, and the item
of each sync info that lives. -/
@[ext]
structure Owned where
  syncItems : Nat → List Nat
  memItems : Nat → List Nat
  syncHandles : Nat → Nat → Option SyncHandle
  memHandles : Nat → Nat → Option Nat
  memInfos : Nat → Option KernelMemInfo
  syncItem : Nat → Option ResItem

/-- The part of a system that tells who owns what. -/
def System.owned (system : System) : Owned where
  syncItems process := (system.procs process).syncItems
  memItems process := (system.procs process).memItems
  syncHandles process := (system.procs process).syncHandles
  memHandles process := (system.procs process).memHandles
  memInfos := system.memInfos
  syncItem := system.syncItem

/-- A sync info that lives, and that only `process` frees when it exits. -/
structure Owned.MayUse (owned : Owned) (process sync : Nat) : Prop where
  live : (owned.syncItem sync).isSome
  syncOwner : ∀ {other}, sync ∈ owned.syncItems other → other = process
  memOwner : ∀ {other mem info}, mem ∈ owned.memItems other →
    owned.memInfos mem = some info → info.psKernelSyncInfo = some sync →
    other = process

/-- Items and handles name what lives, and belong to one process each. -/
structure Owners (owned : Owned) : Prop where
  syncItem : ∀ {process sync}, sync ∈ owned.syncItems process →
    owned.syncItem sync = some .registered
  syncNodup : ∀ process, (owned.syncItems process).Nodup
  syncOwner : ∀ {process other sync}, sync ∈ owned.syncItems process →
    sync ∈ owned.syncItems other → process = other
  memSync : ∀ {mem info sync}, owned.memInfos mem = some info →
    info.psKernelSyncInfo = some sync → owned.syncItem sync = some .unset
  memSyncOnce : ∀ {mem other info otherInfo sync},
    owned.memInfos mem = some info →
    owned.memInfos other = some otherInfo →
    info.psKernelSyncInfo = some sync →
    otherInfo.psKernelSyncInfo = some sync → mem = other
  memItem : ∀ {process mem}, mem ∈ owned.memItems process →
    ∃ info, owned.memInfos mem = some info ∧ info.hResItem = .registered
  memNodup : ∀ process, (owned.memItems process).Nodup
  memOwner : ∀ {process other mem}, mem ∈ owned.memItems process →
    mem ∈ owned.memItems other → process = other
  memHandle : ∀ {process handle mem},
    owned.memHandles process handle = some mem →
    (owned.memInfos mem).isSome ∧
      ∀ {other}, mem ∈ owned.memItems other → other = process
  memHandleOnce : ∀ {process other handle otherHandle mem},
    owned.memHandles process handle = some mem →
    owned.memHandles other otherHandle = some mem →
    process = other ∧ handle = otherHandle
  syncHandle : ∀ {process handle info},
    owned.syncHandles process handle = some info →
    (owned.syncItem info.psKernelSyncInfo).isSome ∧
      ∀ {other}, info.psKernelSyncInfo ∈ owned.syncItems other →
        other = process
  syncHandleOnce : ∀ {process other handle otherHandle info otherInfo},
    owned.syncHandles process handle = some info →
    owned.syncHandles other otherHandle = some otherInfo →
    info.psKernelSyncInfo = otherInfo.psKernelSyncInfo →
    process = other ∧ handle = otherHandle
  syncHandleMem : ∀ {process handle info mem memInfo},
    owned.syncHandles process handle = some info →
    owned.memInfos mem = some memInfo →
    memInfo.psKernelSyncInfo = some info.psKernelSyncInfo →
    ∃ parent, info.hParent = some parent ∧
      owned.memHandles process parent = some mem

namespace Owned

/-- Add a sync info. -/
def addSyncInfo (owned : Owned) (sync : Nat) (hResItem : ResItem) : Owned :=
  { owned with
    syncItem := Function.update owned.syncItem sync (some hResItem) }

/-- Add an item of a sync info. -/
def addSyncItem (owned : Owned) (process sync : Nat) : Owned :=
  { owned with
    syncItems := Function.update owned.syncItems process
      (sync :: owned.syncItems process) }

/-- Add a handle of a sync info. -/
def addSyncHandle (owned : Owned) (process handle : Nat)
    (info : SyncHandle) : Owned :=
  { owned with
    syncHandles := Function.update owned.syncHandles process
      (Function.update (owned.syncHandles process) handle (some info)) }

/-- Add a memory info. -/
def addMemInfo (owned : Owned) (mem : Nat) (info : KernelMemInfo) : Owned :=
  { owned with memInfos := Function.update owned.memInfos mem (some info) }

/-- Add an item of a memory info. -/
def addMemItem (owned : Owned) (process mem : Nat) : Owned :=
  { owned with
    memItems := Function.update owned.memItems process
      (mem :: owned.memItems process) }

/-- Add a handle of a memory info. -/
def addMemHandle (owned : Owned) (process handle mem : Nat) : Owned :=
  { owned with
    memHandles := Function.update owned.memHandles process
      (Function.update (owned.memHandles process) handle (some mem)) }

/-- Add a sync info and, if it could be registered, its item. -/
def addSync (owned : Owned) (process sync : Nat) (registered : Bool) :
    Owned :=
  let added := owned.addSyncInfo sync (resManRegisterRes registered)
  if registered then added.addSyncItem process sync else added

/-- Add a memory info and, if it is registered, its item. -/
def addMem (owned : Owned) (process mem : Nat) (info : KernelMemInfo)
    (registered : Bool) : Owned :=
  let added := owned.addMemInfo mem info
  if registered then added.addMemItem process mem else added

/-- Take a handle of a sync info away. -/
def removeSyncHandle (owned : Owned) (process handle : Nat) : Owned :=
  { owned with
    syncHandles := Function.update owned.syncHandles process
      (Function.update (owned.syncHandles process) handle none) }

/-- Take an item of a sync info away. -/
def removeSyncItem (owned : Owned) (process sync : Nat) : Owned :=
  { owned with
    syncItems := Function.update owned.syncItems process
      ((owned.syncItems process).erase sync) }

/-- Take a sync info away. -/
def removeSyncInfo (owned : Owned) (sync : Nat) : Owned :=
  { owned with syncItem := Function.update owned.syncItem sync none }

end Owned

variable {items : Nat → List Nat} {process : Nat}

/-- A list of one process that got a new head. -/
theorem mem_update_cons
    {process other added item : Nat} :
    item ∈ update items process (added :: items process) other ↔
      (other = process ∧ item = added) ∨ item ∈ items other := by
  by_cases same : other = process
  · subst same
    simp
  · simp [same]

theorem nodup_update_cons
    {added : Nat}
    (nodup : ∀ other, (items other).Nodup)
    (unlisted : added ∉ items process)
    (other : Nat) :
    (update items process (added :: items process) other).Nodup := by
  by_cases same : other = process
  · subst same
    rw [update_self]
    exact List.nodup_cons.mpr ⟨unlisted, nodup other⟩
  · rw [update_of_ne same]
    exact nodup other

theorem owner_update_cons
    {first second added item : Nat}
    (owner : ∀ {first second item},
      item ∈ items first → item ∈ items second → first = second)
    (unlisted : ∀ other, added ∉ items other)
    (listed : item ∈ update items process (added :: items process) first)
    (otherListed :
      item ∈ update items process (added :: items process) second) :
    first = second := by
  rcases mem_update_cons.mp listed with ⟨rfl, rfl⟩ | old
  · rcases mem_update_cons.mp otherListed with ⟨rfl, -⟩ | otherOld
    · rfl
    · exact absurd otherOld (unlisted second)
  · rcases mem_update_cons.mp otherListed with ⟨-, rfl⟩ | otherOld
    · exact absurd old (unlisted first)
    · exact owner old otherOld

/-- A handle of one process that was free. -/
theorem update_handle
    {value : Type}
    {handles : Nat → Nat → Option value}
    {other handle otherHandle : Nat}
    {added found : value}
    (isFree : handles process handle = none) :
    update handles process
        (update (handles process) handle (some added)) other
        otherHandle = some found ↔
      (other = process ∧ otherHandle = handle ∧ found = added) ∨
        handles other otherHandle = some found := by
  by_cases same : other = process
  · subst same
    by_cases sameHandle : otherHandle = handle
    · subst sameHandle
      simp [isFree, eq_comm]
    · simp [sameHandle]
  · simp [same]

/-- Nothing else becomes an owner of a sync info that stays alive. -/
theorem Owned.MayUse.mono
    {owned next : Owned}
    {sync : Nat}
    (mayUse : owned.MayUse process sync)
    (live : (next.syncItem sync).isSome)
    (syncItems : ∀ {other}, sync ∈ next.syncItems other →
      sync ∈ owned.syncItems other)
    (memItems : ∀ {other mem info}, mem ∈ next.memItems other →
      next.memInfos mem = some info → info.psKernelSyncInfo = some sync →
      mem ∈ owned.memItems other ∧ ∃ before,
        owned.memInfos mem = some before ∧
        before.psKernelSyncInfo = some sync) :
    next.MayUse process sync := by
  refine ⟨live, fun listed => mayUse.syncOwner (syncItems listed), ?_⟩
  intro other mem info listed isMem owns
  obtain ⟨wasListed, before, isBefore, owned⟩ := memItems listed isMem owns
  exact mayUse.memOwner wasListed isBefore owned

namespace Owners

variable {owned : Owned} {process handle sync mem other item user used : Nat}
  {info : KernelMemInfo} {registered : Bool}

section

variable (owners : Owners owned)
include owners

/-- A process may use the sync infos it has handles of. -/
theorem mayUse
    {info : SyncHandle}
    (isHandle : owned.syncHandles process handle = some info) :
    owned.MayUse process info.psKernelSyncInfo := by
  refine ⟨(owners.syncHandle isHandle).1, (owners.syncHandle isHandle).2, ?_⟩
  intro other mem memInfo listed isMem owns
  obtain ⟨parent, -, isParent⟩ := owners.syncHandleMem isHandle isMem owns
  exact (owners.memHandle isParent).2 listed

/-! ## Additions -/

theorem addSyncInfo
    (hResItem : ResItem)
    (unused : owned.syncItem sync = none) :
    Owners (owned.addSyncInfo sync hResItem) := by
  have keeps : ∀ {other item}, owned.syncItem other = some item →
      update owned.syncItem sync (some hResItem) other = some item := by
    intro other item isItem
    rw [update_of_ne, isItem]
    rintro rfl
    rw [unused] at isItem
    contradiction
  refine { owners with syncItem := ?_, memSync := ?_, syncHandle := ?_ }
  · exact fun listed => keeps (owners.syncItem listed)
  · exact fun isMem owns => keeps (owners.memSync isMem owns)
  · intro process handle info isHandle
    obtain ⟨live, owner⟩ := owners.syncHandle isHandle
    obtain ⟨item, isItem⟩ := Option.isSome_iff_exists.mp live
    exact ⟨Option.isSome_iff_exists.mpr ⟨item, keeps isItem⟩, owner⟩

theorem addSyncItem
    (registered : owned.syncItem sync = some .registered)
    (unlisted : ∀ other, sync ∉ owned.syncItems other)
    (unnamed : ∀ {other handle info},
      owned.syncHandles other handle = some info →
      info.psKernelSyncInfo ≠ sync) :
    Owners (owned.addSyncItem process sync) := by
  refine { owners with
    syncItem := ?_, syncNodup := ?_, syncOwner := ?_, syncHandle := ?_ }
  · intro other item listed
    rcases mem_update_cons.mp listed with ⟨-, rfl⟩ | old
    · exact registered
    · exact owners.syncItem old
  · exact nodup_update_cons owners.syncNodup (unlisted process)
  · exact owner_update_cons owners.syncOwner unlisted
  · intro other handle info isHandle
    obtain ⟨live, owner⟩ := owners.syncHandle isHandle
    refine ⟨live, ?_⟩
    intro third listed
    rcases mem_update_cons.mp listed with ⟨-, same⟩ | old
    · exact absurd same (unnamed isHandle)
    · exact owner old

theorem addSyncHandle
    {info : SyncHandle}
    (isFree : owned.syncHandles process handle = none)
    (live : (owned.syncItem info.psKernelSyncInfo).isSome)
    (owner : ∀ {other}, info.psKernelSyncInfo ∈ owned.syncItems other →
      other = process)
    (unnamed : ∀ {other otherHandle otherInfo},
      owned.syncHandles other otherHandle = some otherInfo →
      otherInfo.psKernelSyncInfo ≠ info.psKernelSyncInfo)
    (parent : ∀ {mem memInfo}, owned.memInfos mem = some memInfo →
      memInfo.psKernelSyncInfo = some info.psKernelSyncInfo →
      ∃ parent, info.hParent = some parent ∧
        owned.memHandles process parent = some mem) :
    Owners (owned.addSyncHandle process handle info) := by
  refine { owners with
    syncHandle := ?_, syncHandleOnce := ?_, syncHandleMem := ?_ }
  · intro other otherHandle otherInfo isHandle
    rcases (update_handle isFree).mp isHandle with ⟨rfl, -, rfl⟩ | old
    · exact ⟨live, owner⟩
    · exact owners.syncHandle old
  · intro first second firstHandle secondHandle firstInfo secondInfo isFirst
      isSecond same
    rcases (update_handle isFree).mp isFirst with ⟨rfl, rfl, rfl⟩ | old
    · rcases (update_handle isFree).mp isSecond with ⟨rfl, rfl, -⟩ | otherOld
      · exact ⟨rfl, rfl⟩
      · exact absurd same.symm (unnamed otherOld)
    · rcases (update_handle isFree).mp isSecond with ⟨-, -, rfl⟩ | otherOld
      · exact absurd same (unnamed old)
      · exact owners.syncHandleOnce old otherOld same
  · intro other otherHandle otherInfo mem memInfo isHandle isMem owns
    rcases (update_handle isFree).mp isHandle with ⟨rfl, -, rfl⟩ | old
    · exact parent isMem owns
    · exact owners.syncHandleMem old isMem owns

theorem addMemInfo
    (unused : owned.memInfos mem = none)
    (unset : ∀ {sync}, info.psKernelSyncInfo = some sync →
      owned.syncItem sync = some .unset)
    (unowned : ∀ {other otherInfo sync},
      owned.memInfos other = some otherInfo →
      info.psKernelSyncInfo = some sync →
      otherInfo.psKernelSyncInfo ≠ some sync)
    (unnamed : ∀ {process handle syncInfo},
      owned.syncHandles process handle = some syncInfo →
      info.psKernelSyncInfo ≠ some syncInfo.psKernelSyncInfo) :
    Owners (owned.addMemInfo mem info) := by
  have infos : ∀ {other found},
      update owned.memInfos mem (some info) other = some found →
      (other = mem ∧ found = info) ∨ owned.memInfos other = some found := by
    intro other found isFound
    by_cases same : other = mem
    · subst same
      rw [update_self] at isFound
      exact .inl ⟨rfl, (Option.some.inj isFound).symm⟩
    · rw [update_of_ne same] at isFound
      exact .inr isFound
  have keeps : ∀ {other found}, owned.memInfos other = some found →
      update owned.memInfos mem (some info) other = some found := by
    intro other found isFound
    rw [update_of_ne, isFound]
    rintro rfl
    rw [unused] at isFound
    contradiction
  refine { owners with
    memSync := ?_, memSyncOnce := ?_, memItem := ?_, memHandle := ?_,
    syncHandleMem := ?_ }
  · intro other found sync isFound owns
    rcases infos isFound with ⟨-, rfl⟩ | old
    · exact unset owns
    · exact owners.memSync old owns
  · intro first second firstInfo secondInfo sync isFirst isSecond owns
      otherOwns
    rcases infos isFirst with ⟨rfl, rfl⟩ | old
    · rcases infos isSecond with ⟨rfl, -⟩ | otherOld
      · rfl
      · exact absurd otherOwns (unowned otherOld owns)
    · rcases infos isSecond with ⟨-, rfl⟩ | otherOld
      · exact absurd owns (unowned old otherOwns)
      · exact owners.memSyncOnce old otherOld owns otherOwns
  · intro process other listed
    obtain ⟨found, isFound, registered⟩ := owners.memItem listed
    exact ⟨found, keeps isFound, registered⟩
  · intro process handle other isHandle
    obtain ⟨live, owner⟩ := owners.memHandle isHandle
    obtain ⟨found, isFound⟩ := Option.isSome_iff_exists.mp live
    exact ⟨Option.isSome_iff_exists.mpr ⟨found, keeps isFound⟩, owner⟩
  · intro process handle syncInfo other found isHandle isFound owns
    rcases infos isFound with ⟨-, rfl⟩ | old
    · exact absurd owns (unnamed isHandle)
    · exact owners.syncHandleMem isHandle old owns

theorem addMemItem
    (isMem : owned.memInfos mem = some info)
    (registered : info.hResItem = .registered)
    (unlisted : ∀ other, mem ∉ owned.memItems other)
    (unnamed : ∀ other handle, owned.memHandles other handle ≠ some mem) :
    Owners (owned.addMemItem process mem) := by
  refine { owners with
    memItem := ?_, memNodup := ?_, memOwner := ?_, memHandle := ?_ }
  · intro other item listed
    rcases mem_update_cons.mp listed with ⟨-, rfl⟩ | old
    · exact ⟨info, isMem, registered⟩
    · exact owners.memItem old
  · exact nodup_update_cons owners.memNodup (unlisted process)
  · exact owner_update_cons owners.memOwner unlisted
  · intro other handle item isHandle
    obtain ⟨live, owner⟩ := owners.memHandle isHandle
    refine ⟨live, ?_⟩
    intro third listed
    rcases mem_update_cons.mp listed with ⟨-, rfl⟩ | old
    · exact absurd isHandle (unnamed other handle)
    · exact owner old

theorem addMemHandle
    (isFree : owned.memHandles process handle = none)
    (live : (owned.memInfos mem).isSome)
    (owner : ∀ {other}, mem ∈ owned.memItems other → other = process)
    (unnamed : ∀ other otherHandle,
      owned.memHandles other otherHandle ≠ some mem) :
    Owners (owned.addMemHandle process handle mem) := by
  refine { owners with
    memHandle := ?_, memHandleOnce := ?_, syncHandleMem := ?_ }
  · intro other otherHandle found isHandle
    rcases (update_handle isFree).mp isHandle with ⟨rfl, -, rfl⟩ | old
    · exact ⟨live, owner⟩
    · exact owners.memHandle old
  · intro first second firstHandle secondHandle found isFirst isSecond
    rcases (update_handle isFree).mp isFirst with ⟨rfl, rfl, rfl⟩ | old
    · rcases (update_handle isFree).mp isSecond with ⟨rfl, rfl, -⟩ | otherOld
      · exact ⟨rfl, rfl⟩
      · exact absurd otherOld (unnamed second secondHandle)
    · rcases (update_handle isFree).mp isSecond with ⟨-, -, rfl⟩ | otherOld
      · exact absurd old (unnamed first firstHandle)
      · exact owners.memHandleOnce old otherOld
  · intro other otherHandle info found memInfo isHandle isMem owns
    obtain ⟨parent, isParent, named⟩ :=
      owners.syncHandleMem isHandle isMem owns
    exact ⟨parent, isParent, (update_handle isFree).mpr (.inr named)⟩

/-! ## Allocations -/

/-- A sync info at an unused address is owned by nobody. -/
structure Unowned (owned : Owned) (sync : Nat) : Prop where
  unlisted : ∀ process, sync ∉ owned.syncItems process
  unowned : ∀ {mem info}, owned.memInfos mem = some info →
    info.psKernelSyncInfo ≠ some sync
  unnamed : ∀ {process handle info},
    owned.syncHandles process handle = some info →
    info.psKernelSyncInfo ≠ sync

theorem unowned
    (unused : owned.syncItem sync = none) :
    Unowned owned sync := by
  constructor
  · intro process listed
    have item := owners.syncItem listed
    rw [unused] at item
    contradiction
  · intro mem info isMem owns
    have item := owners.memSync isMem owns
    rw [unused] at item
    contradiction
  · rintro process handle info isHandle rfl
    have live := (owners.syncHandle isHandle).1
    rw [unused] at live
    contradiction

end

theorem addSync_syncItem (process sync : Nat) (registered : Bool) :
    (owned.addSync process sync registered).syncItem =
      update owned.syncItem sync (some (resManRegisterRes registered)) := by
  cases registered <;> rfl

theorem addSync_syncHandles (process sync : Nat) (registered : Bool) :
    (owned.addSync process sync registered).syncHandles =
      owned.syncHandles := by
  cases registered <;> rfl

theorem addSync_memInfos (process sync : Nat) (registered : Bool) :
    (owned.addSync process sync registered).memInfos = owned.memInfos := by
  cases registered <;> rfl

theorem addSync_memItems (process sync : Nat) (registered : Bool) :
    (owned.addSync process sync registered).memItems = owned.memItems := by
  cases registered <;> rfl

theorem mem_addSync
    (listed :
      item ∈ (owned.addSync process sync registered).syncItems other) :
    (other = process ∧ item = sync) ∨ item ∈ owned.syncItems other := by
  cases registered with
  | false => exact .inr listed
  | true => exact mem_update_cons.mp listed

theorem addSync
    (owners : Owners owned)
    (unused : owned.syncItem sync = none)
    (process : Nat)
    (registered : Bool) :
    Owners (owned.addSync process sync registered) := by
  have fresh := owners.unowned unused
  have added := owners.addSyncInfo (resManRegisterRes registered) unused
  cases registered with
  | false => exact added
  | true =>
    exact added.addSyncItem (update_self ..) fresh.unlisted fresh.unnamed

/-- The process that gets the sync info may have a handle of it. -/
theorem addSync_handle
    (owners : Owners owned)
    (unused : owned.syncItem sync = none)
    (registered : Bool)
    (isFree : owned.syncHandles process handle = none) :
    Owners ((owned.addSync process sync registered).addSyncHandle process
      handle ⟨sync, none⟩) := by
  have fresh := owners.unowned unused
  apply (owners.addSync unused process registered).addSyncHandle
  · rw [addSync_syncHandles]
    exact isFree
  · rw [addSync_syncItem, update_self]
    rfl
  · intro other listed
    rcases mem_addSync listed with ⟨same, -⟩ | old
    · exact same
    · exact absurd old (fresh.unlisted other)
  · rw [addSync_syncHandles]
    exact fresh.unnamed
  · rw [addSync_memInfos]
    intro mem info isMem owns
    exact absurd owns (fresh.unowned isMem)

section

variable (unused : owned.syncItem sync = none)
include unused

theorem ne_of_mayUse
    (mayUse : owned.MayUse user used) :
    used ≠ sync := by
  rintro rfl
  have live := mayUse.live
  rw [unused] at live
  contradiction

theorem mayUse_addSyncInfo
    (hResItem : ResItem)
    (mayUse : owned.MayUse user used) :
    (owned.addSyncInfo sync hResItem).MayUse user used := by
  have apart := ne_of_mayUse unused mayUse
  refine ⟨?_, mayUse.syncOwner, mayUse.memOwner⟩
  have same : (owned.addSyncInfo sync hResItem).syncItem used =
      owned.syncItem used := update_of_ne apart ..
  rw [same]
  exact mayUse.live

theorem mayUse_addSync
    (process : Nat)
    (registered : Bool)
    (mayUse : owned.MayUse user used) :
    (owned.addSync process sync registered).MayUse user used := by
  have apart := ne_of_mayUse unused mayUse
  apply mayUse.mono
  · rw [addSync_syncItem, update_of_ne apart]
    exact mayUse.live
  · intro other listed
    rcases mem_addSync listed with ⟨-, same⟩ | old
    · exact absurd same apart
    · exact old
  · rw [addSync_memInfos, addSync_memItems]
    exact fun listed isMem owns => ⟨listed, _, isMem, owns⟩

end

theorem addMem_memInfos (process mem : Nat) (info : KernelMemInfo)
    (registered : Bool) :
    (owned.addMem process mem info registered).memInfos =
      update owned.memInfos mem (some info) := by
  cases registered <;> rfl

theorem mem_addMem
    (listed :
      item ∈ (owned.addMem process mem info registered).memItems other) :
    (other = process ∧ item = mem) ∨ item ∈ owned.memItems other := by
  cases registered with
  | false => exact .inr listed
  | true => exact mem_update_cons.mp listed

section

variable (owners : Owners owned)
include owners

/-- A memory info at an unused address, whose sync info belongs to nobody
else. -/
theorem addMem
    (unused : owned.memInfos mem = none)
    (unset : ∀ {sync}, info.psKernelSyncInfo = some sync →
      owned.syncItem sync = some .unset ∧
        (∀ {other otherInfo}, owned.memInfos other = some otherInfo →
          otherInfo.psKernelSyncInfo ≠ some sync) ∧
        ∀ {process handle syncInfo},
          owned.syncHandles process handle = some syncInfo →
          syncInfo.psKernelSyncInfo ≠ sync)
    (process : Nat)
    (isRegistered : registered = true → info.hResItem = .registered) :
    Owners (owned.addMem process mem info registered) := by
  have added : Owners (owned.addMemInfo mem info) := by
    apply owners.addMemInfo unused
    · exact fun owns => (unset owns).1
    · exact fun isOther owns => (unset owns).2.1 isOther
    · exact fun isHandle owns => (unset owns).2.2 isHandle rfl
  cases registered with
  | false => exact added
  | true =>
    apply added.addMemItem (update_self ..) (isRegistered rfl)
    · intro other listed
      obtain ⟨found, isFound, -⟩ := owners.memItem listed
      rw [unused] at isFound
      contradiction
    · intro other handle isHandle
      have live := (owners.memHandle isHandle).1
      rw [unused] at live
      contradiction

omit owners in
theorem mayUse_addMem
    (unused : owned.memInfos mem = none)
    (mayUse : owned.MayUse user used)
    (apart : info.psKernelSyncInfo ≠ some used)
    (process : Nat)
    (registered : Bool) :
    (owned.addMem process mem info registered).MayUse user used := by
  apply mayUse.mono
  · cases registered <;> exact mayUse.live
  · intro other listed
    cases registered <;> exact listed
  · intro other item found listed isFound owns
    rw [addMem_memInfos] at isFound
    have differs : item ≠ mem := by
      rintro rfl
      rw [update_self] at isFound
      rw [Option.some.inj isFound] at apart
      exact apart owns
    rw [update_of_ne differs] at isFound
    rcases mem_addMem listed with ⟨-, same⟩ | old
    · exact absurd same differs
    · exact ⟨old, found, isFound, owns⟩

/-! ## Releases -/

omit owners in
/-- What is left is another handle. -/
theorem of_removeSyncHandle
    {otherHandle : Nat}
    {info : SyncHandle}
    (isHandle : (owned.removeSyncHandle process handle).syncHandles other
      otherHandle = some info) :
    ¬(other = process ∧ otherHandle = handle) ∧
      owned.syncHandles other otherHandle = some info := by
  by_cases same : other = process
  · subst same
    by_cases sameHandle : otherHandle = handle
    · subst sameHandle
      simp [Owned.removeSyncHandle] at isHandle
    · simpa [Owned.removeSyncHandle, sameHandle] using isHandle
  · simpa [Owned.removeSyncHandle, same] using isHandle

theorem removeSyncHandle
    (process handle : Nat) :
    Owners (owned.removeSyncHandle process handle) := by
  refine { owners with
    syncHandle := ?_, syncHandleOnce := ?_, syncHandleMem := ?_ }
  · exact fun isHandle => owners.syncHandle (of_removeSyncHandle isHandle).2
  · exact fun isHandle isOther => owners.syncHandleOnce
      (of_removeSyncHandle isHandle).2 (of_removeSyncHandle isOther).2
  · exact fun isHandle =>
      owners.syncHandleMem (of_removeSyncHandle isHandle).2

/-- No other handle names the sync info whose handle is taken away. -/
theorem unnamed_removeSyncHandle
    {info : SyncHandle}
    (isHandle : owned.syncHandles process handle = some info)
    {otherHandle : Nat}
    {otherInfo : SyncHandle}
    (isOther : (owned.removeSyncHandle process handle).syncHandles other
      otherHandle = some otherInfo) :
    otherInfo.psKernelSyncInfo ≠ info.psKernelSyncInfo := by
  obtain ⟨apart, isOld⟩ := of_removeSyncHandle isOther
  exact fun sameSync =>
    apart (owners.syncHandleOnce isOld isHandle sameSync)

end

theorem mem_removeSyncItem
    (listed : item ∈ (owned.removeSyncItem process sync).syncItems other) :
    item ∈ owned.syncItems other := by
  by_cases same : other = process
  · subst same
    simp only [Owned.removeSyncItem, update_self] at listed
    exact List.mem_of_mem_erase listed
  · simpa [Owned.removeSyncItem, same] using listed

theorem removeSyncItem
    (owners : Owners owned)
    (process sync : Nat) :
    Owners (owned.removeSyncItem process sync) := by
  refine { owners with
    syncItem := ?_, syncNodup := ?_, syncOwner := ?_, syncHandle := ?_ }
  · exact fun listed => owners.syncItem (mem_removeSyncItem listed)
  · intro other
    by_cases same : other = process
    · subst same
      simp only [Owned.removeSyncItem, update_self]
      exact (owners.syncNodup other).erase sync
    · simpa [Owned.removeSyncItem, same] using owners.syncNodup other
  · exact fun listed otherListed => owners.syncOwner
      (mem_removeSyncItem listed) (mem_removeSyncItem otherListed)
  · intro other handle info isHandle
    obtain ⟨live, owner⟩ := owners.syncHandle isHandle
    exact ⟨live, fun listed => owner (mem_removeSyncItem listed)⟩

/-- An item that is taken away is gone. -/
theorem notMem_removeSyncItem
    (owners : Owners owned)
    (owner : ∀ {other}, sync ∈ owned.syncItems other → other = process)
    (other : Nat) :
    sync ∉ (owned.removeSyncItem process sync).syncItems other := by
  intro listed
  obtain rfl := owner (mem_removeSyncItem listed)
  simp only [Owned.removeSyncItem, update_self] at listed
  exact (owners.syncNodup other).not_mem_erase listed

theorem removeSyncInfo_syncItem
    (apart : other ≠ sync) :
    (owned.removeSyncInfo sync).syncItem other = owned.syncItem other :=
  update_of_ne apart ..

/-- A sync info that nothing names is freed. -/
theorem removeSyncInfo
    (owners : Owners owned)
    (unlisted : ∀ process, sync ∉ owned.syncItems process)
    (unowned : ∀ {mem info}, owned.memInfos mem = some info →
      info.psKernelSyncInfo ≠ some sync)
    (unnamed : ∀ {process handle info},
      owned.syncHandles process handle = some info →
      info.psKernelSyncInfo ≠ sync) :
    Owners (owned.removeSyncInfo sync) := by
  refine { owners with syncItem := ?_, memSync := ?_, syncHandle := ?_ }
  · intro process other listed
    rw [removeSyncInfo_syncItem]
    · exact owners.syncItem listed
    · rintro rfl
      exact unlisted process listed
  · intro mem info other isMem owns
    rw [removeSyncInfo_syncItem]
    · exact owners.memSync isMem owns
    · rintro rfl
      exact unowned isMem owns
  · intro process handle info isHandle
    rw [removeSyncInfo_syncItem (unnamed isHandle)]
    exact owners.syncHandle isHandle

/-- Items and handles are taken away; what they referred to and what is left
refers to stays. -/
theorem release
    {next : Owned}
    (owners : Owners owned)
    (syncItems : ∀ process,
      (next.syncItems process).Sublist (owned.syncItems process))
    (memItems : ∀ process,
      (next.memItems process).Sublist (owned.memItems process))
    (syncHandles : ∀ {process handle info},
      next.syncHandles process handle = some info →
      owned.syncHandles process handle = some info)
    (memHandles : ∀ {process handle mem},
      next.memHandles process handle = some mem →
      owned.memHandles process handle = some mem)
    (memInfos : ∀ {mem info}, next.memInfos mem = some info →
      ∃ before, owned.memInfos mem = some before ∧
        before.psKernelSyncInfo = info.psKernelSyncInfo)
    (memSync : ∀ {mem info sync}, next.memInfos mem = some info →
      info.psKernelSyncInfo = some sync → next.syncItem sync = some .unset)
    (syncListed : ∀ {process sync}, sync ∈ next.syncItems process →
      next.syncItem sync = owned.syncItem sync)
    (memListed : ∀ {process mem}, mem ∈ next.memItems process →
      next.memInfos mem = owned.memInfos mem)
    (memNamed : ∀ {process handle mem},
      next.memHandles process handle = some mem →
      (next.memInfos mem).isSome)
    (syncNamed : ∀ {process handle info},
      next.syncHandles process handle = some info →
      (next.syncItem info.psKernelSyncInfo).isSome)
    (parents : ∀ {process handle info parent mem},
      next.syncHandles process handle = some info →
      info.hParent = some parent →
      owned.memHandles process parent = some mem →
      next.memHandles process parent = some mem) :
    Owners next := by
  constructor
  · intro process sync listed
    rw [syncListed listed]
    exact owners.syncItem ((syncItems process).subset listed)
  · intro process
    exact (owners.syncNodup process).sublist (syncItems process)
  · intro process other sync listed otherListed
    exact owners.syncOwner ((syncItems process).subset listed)
      ((syncItems other).subset otherListed)
  · exact memSync
  · intro mem other info otherInfo sync isMem isOther owns otherOwns
    obtain ⟨before, isBefore, same⟩ := memInfos isMem
    obtain ⟨otherBefore, isOtherBefore, otherSame⟩ := memInfos isOther
    exact owners.memSyncOnce isBefore isOtherBefore (same.trans owns)
      (otherSame.trans otherOwns)
  · intro process mem listed
    rw [memListed listed]
    exact owners.memItem ((memItems process).subset listed)
  · intro process
    exact (owners.memNodup process).sublist (memItems process)
  · intro process other mem listed otherListed
    exact owners.memOwner ((memItems process).subset listed)
      ((memItems other).subset otherListed)
  · intro process handle mem isHandle
    refine ⟨memNamed isHandle, ?_⟩
    intro other listed
    exact (owners.memHandle (memHandles isHandle)).2
      ((memItems other).subset listed)
  · intro process other handle otherHandle mem isHandle isOther
    exact owners.memHandleOnce (memHandles isHandle) (memHandles isOther)
  · intro process handle info isHandle
    refine ⟨syncNamed isHandle, ?_⟩
    intro other listed
    exact (owners.syncHandle (syncHandles isHandle)).2
      ((syncItems other).subset listed)
  · intro process other handle otherHandle info otherInfo isHandle isOther
    exact owners.syncHandleOnce (syncHandles isHandle) (syncHandles isOther)
  · intro process handle info mem memInfo isHandle isMem owns
    obtain ⟨before, isBefore, same⟩ := memInfos isMem
    obtain ⟨parent, isParent, named⟩ :=
      owners.syncHandleMem (syncHandles isHandle) isBefore (same.trans owns)
    exact ⟨parent, isParent, parents isHandle isParent named⟩

end Owners

end PvrServices.SyncMod
