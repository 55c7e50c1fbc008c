import PvrServices.SyncMod.Steps

/-!
# The items of the modification objects

The bookkeeping the bridge calls keep: an item of the resource manager belongs
to one process and stands for a live object, and a handle names a live object
of its own process.
-/

namespace PvrServices.SyncMod

open Function (update update_of_ne update_self)
open PvrServices.SyncMod.System (pended record setModObj setProcess
  setSyncInfo)
open Process (empty)

/-! ## Items and handles -/

/-- An item stands for a live object and belongs to one process; a handle
names a live object, and only one handle does. -/
structure ModsKept (system : System) : Prop where
  live : ∀ {process mod}, mod ∈ (system.procs process).modItems →
    ∃ modInfo, system.modObjs mod = some modInfo ∧
      modInfo.hResItem = .registered
  nodup : ∀ process, (system.procs process).modItems.Nodup
  owner : ∀ {process other mod}, mod ∈ (system.procs process).modItems →
    mod ∈ (system.procs other).modItems → process = other
  named : ∀ {process handle mod},
    (system.procs process).modHandles handle = some mod →
    ∃ modInfo, system.modObjs mod = some modInfo ∧
      (modInfo.hResItem = .null ∨ modInfo.hResItem = .registered ∧
        mod ∈ (system.procs process).modItems)
  namedOnce : ∀ {process other handle otherHandle mod},
    (system.procs process).modHandles handle = some mod →
    (system.procs other).modHandles otherHandle = some mod →
    process = other ∧ handle = otherHandle

/-- A step that leaves the modification objects as they are. -/
structure SameMods (system next : System) : Prop where
  modObjs : next.modObjs = system.modObjs
  modItems : ∀ process,
    (next.procs process).modItems = (system.procs process).modItems
  modHandles : ∀ process,
    (next.procs process).modHandles = (system.procs process).modHandles

theorem SameMods.trans
    {system middle next : System}
    (first : SameMods system middle)
    (second : SameMods middle next) :
    SameMods system next :=
  ⟨second.modObjs.trans first.modObjs,
    fun process => (second.modItems process).trans (first.modItems process),
    fun process =>
      (second.modHandles process).trans (first.modHandles process)⟩

namespace ModsKept

variable {system next : System} {process hKernelSyncInfoModObj : Nat}
  {eError : SyncError}

theorem same (kept : ModsKept system) (unchanged : SameMods system next) :
    ModsKept next := by
  constructor
  · intro process mod listed
    rw [unchanged.modItems] at listed
    rw [unchanged.modObjs]
    exact kept.live listed
  · intro process
    rw [unchanged.modItems]
    exact kept.nodup process
  · intro process other mod listed otherListed
    rw [unchanged.modItems] at listed otherListed
    exact kept.owner listed otherListed
  · intro process handle mod isHandle
    rw [unchanged.modHandles] at isHandle
    rw [unchanged.modObjs, unchanged.modItems]
    exact kept.named isHandle
  · intro process other handle otherHandle mod isHandle isOther
    rw [unchanged.modHandles] at isHandle isOther
    exact kept.namedOnce isHandle isOther

section

variable (kept : ModsKept system)
include kept

/-- A step that writes to one object and does not move its item. -/
theorem write
    {mod : Nat}
    {modInfo written : ModifySyncOpInfo}
    (isMod : system.modObjs mod = some modInfo)
    (modObjs : next.modObjs =
      update system.modObjs mod (some written))
    (sameItem : written.hResItem = modInfo.hResItem)
    (modItems : ∀ process,
      (next.procs process).modItems.Perm (system.procs process).modItems)
    (modHandles : ∀ process,
      (next.procs process).modHandles = (system.procs process).modHandles) :
    ModsKept next := by
  have infos : ∀ {other otherInfo},
      system.modObjs other = some otherInfo →
      ∃ nextInfo, next.modObjs other = some nextInfo ∧
        nextInfo.hResItem = otherInfo.hResItem := by
    intro other otherInfo isOther
    rw [modObjs]
    by_cases same : other = mod
    · subst same
      have sameInfo : otherInfo = modInfo :=
        Option.some.inj (isOther.symm.trans isMod)
      exact ⟨written, update_self .., by rw [sameItem, sameInfo]⟩
    · exact ⟨otherInfo, by rw [update_of_ne same, isOther], rfl⟩
  constructor
  · intro process other listed
    obtain ⟨otherInfo, isOther, item⟩ :=
      kept.live ((modItems process).mem_iff.mp listed)
    obtain ⟨nextInfo, isNext, nextItem⟩ := infos isOther
    exact ⟨nextInfo, isNext, nextItem.trans item⟩
  · intro process
    exact (modItems process).nodup_iff.mpr (kept.nodup process)
  · intro process other item listed otherListed
    exact kept.owner ((modItems process).mem_iff.mp listed)
      ((modItems other).mem_iff.mp otherListed)
  · intro process handle other isHandle
    rw [modHandles] at isHandle
    obtain ⟨otherInfo, isOther, item⟩ := kept.named isHandle
    obtain ⟨nextInfo, isNext, nextItem⟩ := infos isOther
    rw [nextItem.symm, ← (modItems process).mem_iff] at item
    exact ⟨nextInfo, isNext, item⟩
  · intro process other handle otherHandle item isHandle isOther
    rw [modHandles] at isHandle isOther
    exact kept.namedOnce isHandle isOther

theorem create
    {process : Nat}
    {psModSyncOpInfo hKernelSyncInfoModObj : Option Nat}
    {registered committed : Bool}
    {eError : SyncError}
    (done : createSyncInfoModObj system process psModSyncOpInfo
      hKernelSyncInfoModObj registered committed = some (eError, next)) :
    ModsKept next := by
  rcases createSyncInfoModObj_cases done with
    rfl | ⟨mod, unused, rfl | ⟨handle, isFree, rfl⟩⟩
  · exact kept
  all_goals
    have apart : ∀ {other modInfo},
        system.modObjs other = some modInfo → other ≠ mod := by
      rintro other modInfo isOther rfl
      rw [unused] at isOther
      contradiction
    have unlisted : ∀ process, mod ∉ (system.procs process).modItems := by
      intro process listed
      obtain ⟨modInfo, isMod, -⟩ := kept.live listed
      exact apart isMod rfl
    have unnamed : ∀ process handle,
        (system.procs process).modHandles handle ≠ some mod := by
      intro process handle isHandle
      obtain ⟨modInfo, isMod, -⟩ := kept.named isHandle
      exact apart isMod rfl
  · -- The handle could not be allocated, and the object is lost.
    constructor
    · intro process other listed
      obtain ⟨modInfo, isMod, item⟩ := kept.live listed
      refine ⟨modInfo, ?_, item⟩
      exact (update_of_ne (apart isMod) ..).trans isMod
    · exact kept.nodup
    · exact kept.owner
    · intro process handle other isHandle
      obtain ⟨modInfo, isMod, item⟩ := kept.named isHandle
      refine ⟨modInfo, ?_, item⟩
      exact (update_of_ne (apart isMod) ..).trans isMod
    · exact kept.namedOnce
  · obtain ⟨next, isNext⟩ : ∃ next, next =
        (system.setModObj mod
          (some ⟨resManRegisterRes registered, none, 0, 0, 0⟩)).setProcess
          process
          { system.procs process with
            modItems :=
              if registered then mod :: (system.procs process).modItems
              else (system.procs process).modItems
            modHandles :=
              if committed then
                update (system.procs process).modHandles handle (some mod)
              else (system.procs process).modHandles } := ⟨_, rfl⟩
    rw [← isNext]
    have newInfo : next.modObjs mod =
        some ⟨resManRegisterRes registered, none, 0, 0, 0⟩ := by
      rw [isNext]
      exact update_self ..
    have oldInfo : ∀ {other modInfo}, system.modObjs other = some modInfo →
        next.modObjs other = some modInfo := by
      intro other modInfo isOther
      rw [isNext]
      exact (update_of_ne (apart isOther) ..).trans isOther
    have items : ∀ other, (next.procs other).modItems =
        if other = process ∧ registered = true then
          mod :: (system.procs other).modItems
        else (system.procs other).modItems := by
      intro other
      by_cases same : other = process
      · subst same
        cases registered <;> simp [isNext, setProcess]
      · simp [isNext, setProcess, same, setModObj]
    have handles : ∀ {other otherHandle named},
        (next.procs other).modHandles otherHandle = some named →
        (other = process ∧ otherHandle = handle ∧ named = mod) ∨
        (system.procs other).modHandles otherHandle = some named := by
      intro other otherHandle named isHandle
      by_cases same : other = process
      · subst same
        by_cases sameHandle : otherHandle = handle
        · subst sameHandle
          cases committed
          · simp [isNext, setProcess, isFree] at isHandle
          · simp [isNext, setProcess] at isHandle
            exact .inl ⟨rfl, rfl, isHandle.symm⟩
        · cases committed <;>
            simpa [isNext, setProcess, sameHandle] using isHandle
      · right
        simpa [isNext, setProcess, same, setModObj] using isHandle
    have listedOld : ∀ {other member},
        member ∈ (system.procs other).modItems →
        member ∈ (next.procs other).modItems := by
      intro other member listed
      rw [items]
      split
      · exact List.mem_cons_of_mem _ listed
      · exact listed
    have listedCases : ∀ {other member},
        member ∈ (next.procs other).modItems →
        (other = process ∧ registered = true ∧ member = mod) ∨
        member ∈ (system.procs other).modItems := by
      intro other member listed
      rw [items] at listed
      split at listed
      · rename_i isNew
        rcases List.mem_cons.mp listed with rfl | old
        · exact .inl ⟨isNew.1, isNew.2, rfl⟩
        · exact .inr old
      · exact .inr listed
    constructor
    · intro other member listed
      rcases listedCases listed with ⟨rfl, rfl, rfl⟩ | old
      · exact ⟨_, newInfo, rfl⟩
      · obtain ⟨modInfo, isMod, item⟩ := kept.live old
        exact ⟨modInfo, oldInfo isMod, item⟩
    · intro other
      rw [items]
      split
      · exact List.nodup_cons.mpr ⟨unlisted other, kept.nodup other⟩
      · exact kept.nodup other
    · intro first second member listed otherListed
      rcases listedCases listed with ⟨rfl, -, rfl⟩ | old
      · rcases listedCases otherListed with ⟨rfl, -, -⟩ | otherOld
        · rfl
        · exact absurd otherOld (unlisted second)
      · rcases listedCases otherListed with ⟨-, -, rfl⟩ | otherOld
        · exact absurd old (unlisted first)
        · exact kept.owner old otherOld
    · intro other otherHandle named isHandle
      rcases handles isHandle with ⟨rfl, rfl, rfl⟩ | old
      · refine ⟨_, newInfo, ?_⟩
        cases registered with
        | false => exact .inl rfl
        | true =>
          refine .inr ⟨rfl, ?_⟩
          rw [items, if_pos ⟨rfl, rfl⟩]
          exact List.mem_cons_self
      · obtain ⟨modInfo, isMod, item⟩ := kept.named old
        exact ⟨modInfo, oldInfo isMod, item.imp id (And.imp id listedOld)⟩
    · intro first second handle otherHandle named isHandle isOther
      rcases handles isHandle with ⟨rfl, rfl, rfl⟩ | old
      · rcases handles isOther with ⟨rfl, rfl, -⟩ | otherOld
        · exact ⟨rfl, rfl⟩
        · exact absurd otherOld (unnamed second otherHandle)
      · rcases handles isOther with ⟨-, -, rfl⟩ | otherOld
        · exact absurd old (unnamed first handle)
        · exact kept.namedOnce old otherOld

/-- Handles and items are taken away, and only objects that lost both are
freed. -/
theorem release
    (items : ∀ process,
      ((next.procs process).modItems).Sublist (system.procs process).modItems)
    (handles : ∀ {process handle mod},
      (next.procs process).modHandles handle = some mod →
      (system.procs process).modHandles handle = some mod)
    (infos : ∀ {process mod}, (mod ∈ (next.procs process).modItems ∨
        ∃ handle, (next.procs process).modHandles handle = some mod) →
      next.modObjs mod = system.modObjs mod)
    (stays : ∀ {process handle mod},
      (next.procs process).modHandles handle = some mod →
      mod ∈ (system.procs process).modItems →
      mod ∈ (next.procs process).modItems) :
    ModsKept next := by
  constructor
  · intro process mod listed
    rw [infos (.inl listed)]
    exact kept.live ((items process).subset listed)
  · intro process
    exact (kept.nodup process).sublist (items process)
  · intro process other mod listed otherListed
    exact kept.owner ((items process).subset listed)
      ((items other).subset otherListed)
  · intro process handle mod isHandle
    obtain ⟨modInfo, isMod, item⟩ := kept.named (handles isHandle)
    rw [infos (.inr ⟨handle, isHandle⟩)]
    exact ⟨modInfo, isMod, item.imp id (And.imp id (stays isHandle))⟩
  · intro process other handle otherHandle mod isHandle isOther
    exact kept.namedOnce (handles isHandle) (handles isOther)

end

theorem destroy
    (kept : ModsKept system)
    {handle : Nat}
    (done : destroySyncInfoModObj system process handle =
      some (eError, next)) :
    ModsKept next := by
  rcases destroySyncInfoModObj_cases done with
    rfl | ⟨mod, modInfo, isHandle, isMod, -, ⟨-, rfl⟩ | ⟨-, rfl⟩⟩
  · exact kept
  · apply kept.release
    · intro other
      by_cases same : other = process
      · subst same
        simp [setProcess]
      · simp [setProcess, same]
    · intro other otherHandle named isOther
      by_cases same : other = process
      · subst same
        by_cases sameHandle : otherHandle = handle
        · simp [setProcess, sameHandle] at isOther
        · simpa [setProcess, sameHandle] using isOther
      · simpa [setProcess, same] using isOther
    · exact fun _ => rfl
    · intro other otherHandle named _ listed
      by_cases same : other = process
      · subst same
        simpa [setProcess] using listed
      · simpa [setProcess, same] using listed
  · obtain ⟨next, isNext⟩ : ∃ next, next = (system.setProcess process
        { system.procs process with
          modHandles := update (system.procs process).modHandles handle none
          modItems := (system.procs process).modItems.erase mod }).setModObj
          mod none := ⟨_, rfl⟩
    rw [← isNext]
    have items : ∀ other, (next.procs other).modItems =
        if other = process then (system.procs other).modItems.erase mod
        else (system.procs other).modItems := by
      intro other
      by_cases same : other = process
      · subst same
        simp [isNext, setProcess, setModObj]
      · simp [isNext, setProcess, setModObj, same]
    have handles : ∀ {other otherHandle named},
        (next.procs other).modHandles otherHandle = some named →
        named ≠ mod ∧
        (system.procs other).modHandles otherHandle = some named := by
      intro other otherHandle named isOther
      have old :
          (system.procs other).modHandles otherHandle = some named ∧
            ¬ (other = process ∧ otherHandle = handle) := by
        by_cases same : other = process
        · subst same
          by_cases sameHandle : otherHandle = handle
          · simp [isNext, setProcess, setModObj, sameHandle] at isOther
          · exact ⟨by simpa [isNext, setProcess, setModObj,
              sameHandle] using isOther, fun both => sameHandle both.2⟩
        · exact ⟨by simpa [isNext, setProcess, setModObj,
            same] using isOther, fun both => same both.1⟩
      refine ⟨?_, old.1⟩
      rintro rfl
      exact old.2 (kept.namedOnce old.1 isHandle)
    have listed_ne : ∀ {other member},
        member ∈ (next.procs other).modItems →
        member ∈ (system.procs other).modItems ∧ member ≠ mod := by
      intro other member listed
      rw [items] at listed
      split at listed
      · rename_i same
        subst same
        exact ((kept.nodup other).mem_erase_iff.mp listed).symm
      · rename_i apart
        refine ⟨listed, ?_⟩
        rintro rfl
        -- An object with a handle is an item of the same process.
        obtain ⟨sameInfo, isSame, item⟩ := kept.named isHandle
        obtain ⟨liveInfo, isLive, registered⟩ := kept.live listed
        have sameLive : liveInfo = sameInfo :=
          Option.some.inj (isLive.symm.trans isSame)
        rw [← sameLive, registered] at item
        rcases item with isNull | ⟨-, own⟩
        · contradiction
        · exact apart (kept.owner listed own)
    apply kept.release
    · intro other
      rw [items]
      split
      · exact List.erase_sublist
      · exact List.Sublist.refl _
    · exact fun isOther => (handles isOther).2
    · rintro other member (listed | ⟨otherHandle, isOther⟩)
      · rw [isNext]
        exact update_of_ne (listed_ne listed).2 ..
      · rw [isNext]
        exact update_of_ne (handles isOther).1 ..
    · intro other otherHandle named isOther listed
      rw [items]
      split
      · exact (List.mem_erase_of_ne (handles isOther).1).mpr listed
      · exact listed

section

variable (kept : ModsKept system)
include kept

theorem modifyPending
    {hKernelSyncInfo : Nat}
    {ui32ModifyFlags : BitVec 32}
    {token : Option Token}
    (done : modifyPendingSyncOps system process hKernelSyncInfoModObj
      hKernelSyncInfo ui32ModifyFlags = some (eError, token, next)) :
    ModsKept next := by
  rcases modifyPendingSyncOps_cases done with
    rfl | ⟨mod, handle, modInfo, info, isHandle, -, isMod, -, -,
      ⟨-, rfl⟩ | ⟨registered, rfl⟩⟩
  · exact kept
  · exact kept.write isMod rfl rfl (fun _ => List.Perm.refl _) (fun _ => rfl)
  · have own : mod ∈ (system.procs process).modItems := by
      obtain ⟨sameInfo, isSame, item⟩ := kept.named isHandle
      rw [Option.some.inj (isSame.symm.trans isMod), registered] at item
      rcases item with isNull | ⟨-, own⟩
      · contradiction
      · exact own
    refine kept.write isMod rfl rfl ?_ ?_
    · intro other
      by_cases same : other = process
      · subst same
        simpa [record, setProcess] using (List.perm_cons_erase own).symm
      · simp [record, setProcess, same, pended, setSyncInfo, setModObj]
    · intro other
      by_cases same : other = process
      · subst same
        simp [record, setProcess]
      · simp [record, setProcess, same, pended, setSyncInfo, setModObj]

theorem modifyComplete
    (done : modifyCompleteSyncOps system process hKernelSyncInfoModObj =
      some (eError, next)) :
    ModsKept next := by
  rcases modifyCompleteSyncOps_cases done with
    rfl | ⟨mod, modInfo, sync, info, -, isMod, -, -, -, rfl⟩
  · exact kept
  · exact kept.write isMod rfl rfl (fun _ => List.Perm.refl _) (fun _ => rfl)

theorem exit
    (done : processExit system process = some (eError, next)) :
    ModsKept next := by
  obtain ⟨completed, syncsFreed, memFreed, _, _, completing, freeingSyncs,
    freeingMem, rfl⟩ := processExit_cases done
  have mods := freeItems_modifyComplete_frame completing
  have syncs := freeItems_frame freeSyncInfoKM_frame freeingSyncs
  have mem := freeItems_frame freeMemCallBackCommon_frame freeingMem
  have procs : memFreed.procs = system.procs :=
    mem.procs.trans (syncs.procs.trans mods.procs)
  have modObjs : memFreed.modObjs = completed.modObjs :=
    mem.modObjs.trans syncs.modObjs
  have other_of_listed : ∀ {other mod},
      mod ∈ ((memFreed.setProcess process empty).procs other).modItems →
      other ≠ process ∧ mod ∈ (system.procs other).modItems := by
    intro other mod listed
    by_cases same : other = process
    · subst same
      simp [setProcess, empty] at listed
    · exact ⟨same, by simpa [setProcess, same, procs] using listed⟩
  have other_of_named : ∀ {other handle mod},
      ((memFreed.setProcess process empty).procs
        other).modHandles handle = some mod →
      other ≠ process ∧ (system.procs other).modHandles handle = some mod := by
    intro other handle mod isHandle
    by_cases same : other = process
    · subst same
      simp [setProcess, empty] at isHandle
    · exact ⟨same, by simpa [setProcess, same, procs] using isHandle⟩
  apply kept.release
  · intro other
    by_cases same : other = process
    · subst same
      simp [setProcess, empty]
    · simp [setProcess, same, procs]
  · exact fun isHandle => (other_of_named isHandle).2
  · intro other mod kind
    have unlisted : mod ∉ (system.procs process).modItems.reverse := by
      rw [List.mem_reverse]
      intro listed
      rcases kind with otherListed | ⟨handle, isHandle⟩
      · obtain ⟨apart, otherListed⟩ := other_of_listed otherListed
        exact apart (kept.owner otherListed listed)
      · obtain ⟨apart, isHandle⟩ := other_of_named isHandle
        obtain ⟨modInfo, isMod, item⟩ := kept.named isHandle
        obtain ⟨liveInfo, isLive, registered⟩ := kept.live listed
        rw [← Option.some.inj (isLive.symm.trans isMod), registered] at item
        rcases item with isNull | ⟨-, own⟩
        · contradiction
        · exact apart (kept.owner own listed)
    exact (congrFun modObjs mod).trans (mods.modObjs mod unlisted)
  · intro other handle mod isHandle listed
    have apart := (other_of_named isHandle).1
    simpa [setProcess, apart, procs] using listed

end

end ModsKept

end PvrServices.SyncMod
