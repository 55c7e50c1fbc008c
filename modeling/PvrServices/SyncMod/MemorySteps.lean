import PvrServices.SyncMod.Items

/-!
# Steps of the sync infos and the memory

What allocating and freeing a sync info or device memory does, case by case.
-/

namespace PvrServices.SyncMod

open Function (update update_of_ne update_self)
open Option (bind_eq_some_iff)
open PvrServices.SyncMod.System (setMemInfo setProcess setSyncInfo)

variable {eError : SyncError}
  {process hKernelMemInfo sync hKernelSyncInfo mem : Nat}
  {psSyncInfo : Option Nat} {registered committed : Bool}
  {system next : System} {syncs mems : List Nat}

theorem freeSyncInfoKM_cases
    (done : freeSyncInfoKM system sync = some (eError, next)) :
    (eError ≠ .ok ∧ next = system) ∨
    (eError = .ok ∧ next = system.setSyncInfo sync none) := by
  obtain ⟨info, isSync, done⟩ := bind_eq_some_iff.mp done
  split at done
  · cases done
    exact .inl ⟨by simp, rfl⟩
  · cases done
    exact .inr ⟨rfl, rfl⟩

/-- A new sync info, with its item and its handle if these succeed. -/
def System.withSync (system : System) (process sync handle : Nat)
    (registered committed : Bool) : System :=
  (system.setSyncInfo sync (some
    { newSyncInfo with
      hResItem := resManRegisterRes registered })).setProcess process
    { system.procs process with
      syncItems :=
        if registered then sync :: (system.procs process).syncItems
        else (system.procs process).syncItems
      syncHandles :=
        if committed then
          update (system.procs process).syncHandles handle (some ⟨sync, none⟩)
        else (system.procs process).syncHandles }

theorem allocSyncInfo_cases
    {hKernelSyncInfo : Option Nat}
    (done : allocSyncInfo system process psSyncInfo hKernelSyncInfo registered
      committed = some (eError, next)) :
    next = system ∨
    ∃ sync handle, system.syncInfos sync = none ∧
      (system.procs process).syncHandles handle = none ∧
      next = system.withSync process sync handle registered committed := by
  simp only [allocSyncInfo] at done
  split at done
  · exact .inl (next_eq done)
  rename_i sync
  split at done
  · cases done
  rename_i isSync
  split at done
  · exact .inl (next_eq done)
  rename_i handle
  split at done
  · cases done
  rename_i isHandle
  exact .inr ⟨sync, handle, Option.not_isSome_iff_eq_none.mp isSync,
    Option.not_isSome_iff_eq_none.mp isHandle, next_eq done⟩

theorem freeSyncInfo_cases
    (done : freeSyncInfo system process hKernelSyncInfo =
      some (eError, next)) :
    next = system ∨
    ∃ handle info,
      (system.procs process).syncHandles hKernelSyncInfo = some handle ∧
      system.syncInfos handle.psKernelSyncInfo = some info ∧
      ((info.hResItem = .null ∧ next = system.setProcess process
        { system.procs process with
          syncHandles := update (system.procs process).syncHandles
            hKernelSyncInfo none }) ∨
      (info.hResItem = .registered ∧
        ∃ erased, erased = system.setProcess process
          { system.procs process with
            syncHandles := update
              (system.procs process).syncHandles hKernelSyncInfo none
            syncItems := (system.procs process).syncItems.erase
              handle.psKernelSyncInfo } ∧
          (next = erased ∨
            next = erased.setSyncInfo handle.psKernelSyncInfo none))) := by
  simp only [freeSyncInfo] at done
  split at done
  · exact .inl (next_eq done)
  rename_i handle isHandle
  obtain ⟨info, isSync, done⟩ := bind_eq_some_iff.mp done
  refine .inr ⟨handle, info, isHandle, isSync, ?_⟩
  split at done
  · cases done
  · rename_i item
    exact .inl ⟨item, next_eq done⟩
  · rename_i item
    exact .inr ⟨item, _, rfl,
      (freeSyncInfoKM_cases done).imp And.right And.right⟩

/-- Some of the sync infos and memory infos are freed, and with a memory info
its sync info. -/
structure Freed (syncs mems : List Nat) (system next : System) : Prop where
  memInfos : ∀ mem, mem ∉ mems → next.memInfos mem = system.memInfos mem
  memInfo : ∀ {mem left}, next.memInfos mem = some left →
    ∃ info, system.memInfos mem = some info ∧
      info.psKernelSyncInfo = left.psKernelSyncInfo
  syncItem : ∀ sync, next.syncItem sync = system.syncItem sync ∨
    sync ∈ syncs ∨
    ∃ mem info, mem ∈ mems ∧ system.memInfos mem = some info ∧
      info.psKernelSyncInfo = some sync ∧ next.memInfos mem = none

namespace Freed

variable {syncs mems : List Nat} {system middle next : System}

theorem of_eq
    (memInfos : next.memInfos = system.memInfos)
    (syncItem : ∀ sync, next.syncItem sync = system.syncItem sync) :
    Freed syncs mems system next := by
  refine ⟨fun mem _ => congrFun memInfos mem, ?_, fun s => .inl (syncItem s)⟩
  intro mem left isLeft
  rw [memInfos] at isLeft
  exact ⟨left, isLeft, rfl⟩

theorem trans
    (first : Freed syncs mems system middle)
    (second : Freed syncs mems middle next) :
    Freed syncs mems system next := by
  constructor
  · intro mem notMem
    rw [second.memInfos mem notMem, first.memInfos mem notMem]
  · intro mem left isLeft
    obtain ⟨half, isHalf, same⟩ := second.memInfo isLeft
    obtain ⟨info, isInfo, sameHalf⟩ := first.memInfo isHalf
    exact ⟨info, isInfo, sameHalf.trans same⟩
  · intro sync
    rcases second.syncItem sync with
      kept | listed | ⟨mem, half, isMem, isHalf, owns, freed⟩
    · rcases first.syncItem sync with
        wasKept | listed | ⟨mem, info, isMem, isInfo, owns, freed⟩
      · exact .inl (kept.trans wasKept)
      · exact .inr (.inl listed)
      · refine .inr (.inr ⟨mem, info, isMem, isInfo, owns, ?_⟩)
        cases isNext : next.memInfos mem with
        | none => rfl
        | some left =>
          obtain ⟨half, isHalf, -⟩ := second.memInfo isNext
          rw [freed] at isHalf
          contradiction
    · exact .inr (.inl listed)
    · obtain ⟨info, isInfo, same⟩ := first.memInfo isHalf
      exact .inr (.inr ⟨mem, info, isMem, isInfo, same.trans owns, freed⟩)

/-- One memory info changes, and no sync info's item does. -/
theorem of_setMemInfo
    {info : KernelMemInfo}
    {changed : Option KernelMemInfo}
    (listed : mem ∈ mems)
    (isMem : system.memInfos mem = some info)
    (memInfos : next.memInfos = update system.memInfos mem changed)
    (sameSync : ∀ {left}, changed = some left →
      info.psKernelSyncInfo = left.psKernelSyncInfo)
    (syncItem : ∀ sync, next.syncItem sync = system.syncItem sync ∨
      (info.psKernelSyncInfo = some sync ∧ changed = none)) :
    Freed syncs mems system next := by
  constructor
  · intro other notMem
    rw [memInfos, update_of_ne]
    rintro rfl
    exact notMem listed
  · intro other left isLeft
    rw [memInfos] at isLeft
    by_cases same : other = mem
    · subst same
      rw [update_self] at isLeft
      exact ⟨info, isMem, sameSync isLeft⟩
    · rw [update_of_ne same] at isLeft
      exact ⟨left, isLeft, rfl⟩
  · intro sync
    rcases syncItem sync with same | ⟨owns, freed⟩
    · exact .inl same
    · refine .inr (.inr ⟨mem, info, listed, isMem, owns, ?_⟩)
      rw [memInfos, update_self, freed]

end Freed

theorem freeSyncInfoKM_freed
    (listed : sync ∈ syncs)
    (done : freeSyncInfoKM system sync = some (eError, next)) :
    Freed syncs mems system next := by
  rcases freeSyncInfoKM_cases done with ⟨-, rfl⟩ | ⟨-, rfl⟩
  · exact .of_eq rfl fun _ => rfl
  · refine ⟨fun _ _ => rfl, fun isLeft => ⟨_, isLeft, rfl⟩, ?_⟩
    intro other
    by_cases same : other = sync
    · exact .inr (.inl (same ▸ listed))
    · left
      simp [System.syncItem, setSyncInfo, same]

/-- A failing callback has not freed the memory info. -/
theorem freeMemCallBackCommon_freed
    (listed : mem ∈ mems)
    (done : freeMemCallBackCommon system mem = some (eError, next)) :
    Freed syncs mems system next ∧
      (eError ≠ .ok → (next.memInfos mem).isSome) := by
  cases isMem : system.memInfos mem with
  | none => simp [freeMemCallBackCommon, isMem] at done
  | some info =>
  simp only [freeMemCallBackCommon, isMem, bind, Option.bind] at done
  split at done
  · cases done
    refine ⟨.of_setMemInfo listed isMem rfl ?_ (fun _ => .inl rfl), by simp⟩
    rintro left ⟨⟩
    rfl
  cases owns : info.psKernelSyncInfo with
  | none =>
    simp only [owns] at done
    cases done
    exact ⟨.of_setMemInfo listed isMem rfl (by simp) (fun _ => .inl rfl),
      by simp⟩
  | some sync =>
  cases isSync : system.syncInfos sync with
  | none => simp [owns, isSync] at done
  | some syncInfo =>
  simp only [owns, isSync] at done
  have dropped : ∀ other, (system.setSyncInfo sync (some
      { syncInfo with
        ui32RefCount := syncInfo.ui32RefCount - 1 })).syncItem other =
      system.syncItem other := syncItem_write isSync rfl rfl
  split at done
  · cases done
    exact ⟨.of_setMemInfo listed isMem rfl (by simp)
      (fun other => .inl (dropped other)), by simp⟩
  split at done
  · contradiction
  · rename_i result freeing
    simp only at done
    rcases freeSyncInfoKM_cases freeing with
      ⟨failed, same⟩ | ⟨isOk, freed⟩
    · rw [if_neg failed, same] at done
      cases done
      refine ⟨.of_setMemInfo listed isMem rfl ?_
        (fun other => .inl (dropped other)), ?_⟩
      · rintro left ⟨⟩
        exact owns
      · simp [setMemInfo]
    · rw [if_pos isOk, freed] at done
      cases done
      refine ⟨.of_setMemInfo listed isMem rfl (by simp) ?_, by simp⟩
      intro other
      by_cases same : other = sync
      · subst same
        exact .inr ⟨owns, rfl⟩
      · left
        simp [System.syncItem, setMemInfo, setSyncInfo, same]

/-- A process with a memory info among its items, and with the handles. -/
def Process.withMem (proc : Process) (noResman committed : Bool)
    (mem hKernelMemInfo : Nat) (handles : Nat → Option SyncHandle) :
    Process :=
  { proc with
    memItems := if noResman then proc.memItems else mem :: proc.memItems
    memHandles :=
      if committed then update proc.memHandles hKernelMemInfo (some mem)
      else proc.memHandles
    syncHandles := if committed then handles else proc.syncHandles }

/-- Memory is allocated with its handles, without a sync info or with one. -/
theorem allocDeviceMem_cases
    {psMemInfo : Option Nat}
    {noSyncObj noResman : Bool}
    (done : allocDeviceMem system process psMemInfo psSyncInfo noSyncObj
      noResman hKernelMemInfo hKernelSyncInfo registered committed =
        some (eError, next)) :
    next = system ∨
    ∃ mem hResItem synced owned handles,
      system.memInfos mem = none ∧
      (system.procs process).memHandles hKernelMemInfo = none ∧
      (system.procs process).syncHandles hKernelSyncInfo = none ∧
      ((owned = none ∧ synced = system ∧
        handles = (system.procs process).syncHandles) ∨
      ∃ sync, owned = some sync ∧ system.syncInfos sync = none ∧
        synced = system.setSyncInfo sync
          (some { newSyncInfo with ui32RefCount := 1 }) ∧
        handles = update (system.procs process).syncHandles
          hKernelSyncInfo (some ⟨sync, some hKernelMemInfo⟩)) ∧
      (noResman = false → hResItem = .registered) ∧
      (next = synced ∨
        next = (synced.setMemInfo mem
          (some ⟨owned, 1, hResItem⟩)).setProcess process
          ((system.procs process).withMem noResman committed mem
            hKernelMemInfo handles)) := by
  simp only [allocDeviceMem] at done
  cases psMemInfo with
  | none => exact .inl (next_eq done)
  | some mem =>
  simp only at done
  split at done
  · contradiction
  rename_i isFree
  simp only [not_or, Bool.not_eq_true, Option.isSome_eq_false_iff,
    Option.isNone_iff_eq_none] at isFree
  obtain ⟨freeMem, freeMemHandle, freeSyncHandle⟩ := isFree
  have item : ¬ (noResman = false ∧ registered = false) →
      noResman = false →
      (if noResman = true then ResItem.null
        else resManRegisterRes registered) = .registered := by
    intro succeeded kept
    subst kept
    cases registered with
    | false => exact absurd ⟨rfl, rfl⟩ succeeded
    | true => rfl
  split at done
  · split at done
    · exact .inl (next_eq done)
    · rename_i succeeded
      exact .inr ⟨mem, _, _, _, _, freeMem, freeMemHandle, freeSyncHandle,
        .inl ⟨rfl, rfl, rfl⟩, item succeeded, .inr (next_eq done)⟩
  cases psSyncInfo with
  | none => exact .inl (next_eq done)
  | some sync =>
  simp only at done
  split at done
  · contradiction
  rename_i isUnused
  have unused : system.syncInfos sync = none := by
    simpa using isUnused
  split at done
  · exact .inr ⟨mem, .registered, _, _, _, freeMem, freeMemHandle,
      freeSyncHandle, .inr ⟨sync, rfl, unused, rfl, rfl⟩, fun _ => rfl,
      .inl (next_eq done)⟩
  · rename_i succeeded
    exact .inr ⟨mem, _, _, _, _, freeMem, freeMemHandle, freeSyncHandle,
      .inr ⟨sync, rfl, unused, rfl, rfl⟩, item succeeded,
      .inr (next_eq done)⟩

theorem freeDeviceMem_cases
    (done : freeDeviceMem system process hKernelMemInfo =
      some (eError, next)) :
    next = system ∨
    ∃ mem info erased freeError freed,
      (system.procs process).memHandles hKernelMemInfo = some mem ∧
      system.memInfos mem = some info ∧
      ((info.hResItem = .null ∧ erased = system) ∨
      (info.hResItem = .registered ∧ erased = system.setProcess process
        { system.procs process with
          memItems := (system.procs process).memItems.erase mem })) ∧
      freeMemCallBackCommon erased mem = some (freeError, freed) ∧
      ((freeError ≠ .ok ∧ next = freed) ∨
      next = freed.setProcess process
        { freed.procs process with
          memHandles := update (freed.procs process).memHandles
            hKernelMemInfo none
          syncHandles := fun hKernelSyncInfo =>
            match (freed.procs process).syncHandles hKernelSyncInfo with
            | none => none
            | some handle =>
              if handle.hParent = some hKernelMemInfo then none
              else some handle }) := by
  simp only [freeDeviceMem] at done
  split at done
  · exact .inl (next_eq done)
  rename_i mem isHandle
  obtain ⟨info, isMem, done⟩ := bind_eq_some_iff.mp done
  refine .inr ⟨mem, info, ?_⟩
  split at done
  · cases done
  · rename_i item
    obtain ⟨⟨freeError, freed⟩, freeing, done⟩ := bind_eq_some_iff.mp done
    refine ⟨_, freeError, freed, isHandle, isMem, .inl ⟨item, rfl⟩, freeing,
      ?_⟩
    split at done
    · rename_i failed
      exact .inl ⟨failed, next_eq done⟩
    · exact .inr (next_eq done)
  · rename_i item
    obtain ⟨⟨freeError, freed⟩, freeing, done⟩ := bind_eq_some_iff.mp done
    refine ⟨_, freeError, freed, isHandle, isMem, .inr ⟨item, rfl⟩, freeing,
      ?_⟩
    split at done
    · rename_i failed
      exact .inl ⟨failed, next_eq done⟩
    · exact .inr (next_eq done)

/-- What freeing the memory info with a handle leaves: the handle and those of
the sync infos below it are gone, unless the memory info is not freed. -/
structure MemReleased (process hKernelMemInfo mem : Nat)
    (info : KernelMemInfo) (system next : System) : Prop where
  mods : SameMods system next
  freed : Freed [] [mem] system next
  syncItems : ∀ other,
    (next.procs other).syncItems = (system.procs other).syncItems
  memItems : ∀ other, (next.procs other).memItems =
    if info.hResItem = .registered ∧ other = process then
      (system.procs other).memItems.erase mem
    else (system.procs other).memItems
  handles : ((next.memInfos mem).isSome ∧ ∀ other,
      (next.procs other).syncHandles = (system.procs other).syncHandles ∧
      (next.procs other).memHandles = (system.procs other).memHandles) ∨
    ∀ other,
      (∀ {handle found},
        (next.procs other).syncHandles handle = some found →
        (system.procs other).syncHandles handle = some found ∧
          ¬ (other = process ∧ found.hParent = some hKernelMemInfo)) ∧
      ∀ {handle found},
        (next.procs other).memHandles handle = some found ↔
          (system.procs other).memHandles handle = some found ∧
            ¬ (other = process ∧ handle = hKernelMemInfo)

/-- The item of a memory info is taken away when it is registered. -/
theorem memReleased_erased
    {erased : System}
    {info : KernelMemInfo}
    (isErased : (info.hResItem = .null ∧ erased = system) ∨
      (info.hResItem = .registered ∧ erased = system.setProcess process
        { system.procs process with
          memItems := (system.procs process).memItems.erase mem })) :
    erased.memInfos = system.memInfos ∧
    erased.syncInfos = system.syncInfos ∧
    erased.modObjs = system.modObjs ∧
    ∀ other,
      (erased.procs other).modItems = (system.procs other).modItems ∧
      (erased.procs other).modHandles = (system.procs other).modHandles ∧
      (erased.procs other).syncItems = (system.procs other).syncItems ∧
      (erased.procs other).memItems =
        (if info.hResItem = .registered ∧ other = process then
          (system.procs other).memItems.erase mem
        else (system.procs other).memItems) ∧
      (erased.procs other).syncHandles = (system.procs other).syncHandles ∧
      (erased.procs other).memHandles = (system.procs other).memHandles := by
  rcases isErased with ⟨item, rfl⟩ | ⟨item, rfl⟩
  · simp [item]
  · refine ⟨rfl, rfl, rfl, ?_⟩
    intro other
    by_cases same : other = process
    · subst same
      simp [setProcess, item]
    · simp [setProcess, same]

theorem freeDeviceMem_released
    (done : freeDeviceMem system process hKernelMemInfo =
      some (eError, next)) :
    next = system ∨
    ∃ mem info,
      (system.procs process).memHandles hKernelMemInfo = some mem ∧
      system.memInfos mem = some info ∧
      (info.hResItem = .null ∨ info.hResItem = .registered) ∧
      MemReleased process hKernelMemInfo mem info system next := by
  rcases freeDeviceMem_cases done with
    rfl | ⟨mem, info, erased, freeError, freed, isHandle, isMem, isErased,
      freeing, isNext⟩
  · exact .inl rfl
  refine .inr ⟨mem, info, isHandle, isMem, isErased.imp And.left And.left, ?_⟩
  have frame := freeMemCallBackCommon_frame freeing
  obtain ⟨erasedMem, erasedSync, erasedMods, erasedProcs⟩ :=
    memReleased_erased isErased
  obtain ⟨freedMem, alive⟩ : Freed [] [mem] erased freed ∧ _ :=
    freeMemCallBackCommon_freed (List.mem_singleton_self mem) freeing
  have released : Freed [] [mem] system freed := by
    refine Freed.trans (.of_eq erasedMem ?_) freedMem
    intro sync
    rw [System.syncItem, System.syncItem, erasedSync]
  rw [← frame.procs] at erasedProcs
  rcases isNext with ⟨failed, rfl⟩ | rfl
  · exact
      { mods := ⟨frame.modObjs.trans erasedMods,
          fun other => (erasedProcs other).1,
          fun other => (erasedProcs other).2.1⟩
        freed := released
        syncItems := fun other => (erasedProcs other).2.2.1
        memItems := fun other => (erasedProcs other).2.2.2.1
        handles := .inl ⟨alive failed, fun other =>
          (erasedProcs other).2.2.2.2⟩ }
  · refine ⟨⟨frame.modObjs.trans erasedMods, ?_, ?_⟩, ?_, ?_, ?_, .inr ?_⟩
    · intro other
      rw [← (erasedProcs other).1]
      by_cases same : other = process <;> simp [setProcess, same]
    · intro other
      rw [← (erasedProcs other).2.1]
      by_cases same : other = process <;> simp [setProcess, same]
    · exact ⟨released.memInfos, released.memInfo, released.syncItem⟩
    · intro other
      rw [← (erasedProcs other).2.2.1]
      by_cases same : other = process <;> simp [setProcess, same]
    · intro other
      rw [← (erasedProcs other).2.2.2.1]
      by_cases same : other = process <;> simp [setProcess, same]
    · intro other
      obtain ⟨-, -, -, -, syncHandles, memHandles⟩ := erasedProcs other
      by_cases same : other = process
      · subst same
        refine ⟨?_, ?_⟩
        · intro handle found isFound
          simp only [setProcess, update_self, syncHandles] at isFound
          split at isFound
          · contradiction
          · split at isFound
            · contradiction
            · rename_i notChild
              cases isFound
              exact ⟨by assumption, fun both => notChild both.2⟩
        · intro handle found
          simp only [setProcess, update_self, memHandles]
          by_cases sameHandle : handle = hKernelMemInfo
          · subst sameHandle
            simp
          · simp [sameHandle]
      · simp [setProcess, same, syncHandles, memHandles]

end PvrServices.SyncMod
