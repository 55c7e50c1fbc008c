import PvrServices.Queue.Sync

/-!
# Order and progress of synchronised commands

The commands that are inserted and not completed hold tickets of the sync
counters in insertion order.  A command that passes the dependency test
therefore shares no sync object with an older one, and the oldest command
always passes it.
-/

namespace PvrServices.SyncQueue

open Function (update update_of_ne)
open Queue Tickets
open List (mem_append mem_flatMap mem_map mem_map_of_mem)

/-! ## Sampling and completing -/

variable {sync : Nat} {command first second : Command} {table : SyncTable}
  {data : SyncData}

theorem completeCounts_update
    (writes : data.ui32WriteOpsComplete = (table sync).ui32WriteOpsComplete)
    (reads : data.ui32ReadOpsComplete = (table sync).ui32ReadOpsComplete) :
    completeCounts (update table sync data) = completeCounts table := by
  ext ⟨other, kind⟩
  by_cases same : other = sync
  · subst same
    cases kind <;> simp [completeCounts, writes, reads]
  · cases kind <;> simp [completeCounts, update_of_ne same]

theorem pendingCounts_update
    (writes : data.ui32WriteOpsPending = (table sync).ui32WriteOpsPending)
    (reads : data.ui32ReadOpsPending = (table sync).ui32ReadOpsPending) :
    pendingCounts (update table sync data) = pendingCounts table := by
  ext ⟨other, kind⟩
  by_cases same : other = sync
  · subst same
    cases kind <;> simp [pendingCounts, writes, reads]
  · cases kind <;> simp [pendingCounts, update_of_ne same]

/-- The kind of operation an access is. -/
def opKind (bIsReadOp : Bool) : OpKind :=
  if bIsReadOp then .read else .write

/-- The sync object a command gets for `sync`. -/
def sampleOf (table : SyncTable) (sync : Nat) : SyncObject where
  psKernelSyncInfoKM := sync
  ui32WriteOpsPending := pendingCounts table (sync, .write)
  ui32ReadOpsPending := pendingCounts table (sync, .read)

section

variable (bIsReadOp : Bool) (table : SyncTable)

/-- Sampling one sync info bumps its pending count. -/
theorem sampleSyncs_cons
    (sync : Nat)
    (rest : List Nat) :
    ∃ middle,
      sampleSyncs bIsReadOp table (sync :: rest) =
          ((sampleSyncs bIsReadOp middle rest).1,
            sampleOf table sync :: (sampleSyncs bIsReadOp middle rest).2) ∧
        completeCounts middle = completeCounts table ∧
        pendingCounts middle =
          advance (pendingCounts table) [(sync, opKind bIsReadOp)] := by
  refine ⟨update table sync
    (getReadOpsPending (getWriteOpsPending (table sync) bIsReadOp).1
      bIsReadOp).1, ?_, ?_, ?_⟩
  · cases bIsReadOp <;> rfl
  · apply completeCounts_update <;> cases bIsReadOp <;> rfl
  · ext ⟨other, kind⟩
    by_cases same : other = sync
    · subst same
      cases bIsReadOp <;> cases kind <;>
        simp [pendingCounts, advance, opKind, getReadOpsPending,
          getWriteOpsPending]
    · have distinct : (other, kind) ∉ [(sync, opKind bIsReadOp)] := by
        simp [same]
      rw [advance_of_notMem _ distinct]
      cases kind <;> simp [pendingCounts, update_of_ne same]

theorem sampleSyncs_counts
    (syncs : List Nat) :
    completeCounts (sampleSyncs bIsReadOp table syncs).1 =
        completeCounts table ∧
      pendingCounts (sampleSyncs bIsReadOp table syncs).1 =
        advance (pendingCounts table) (syncs.map (·, opKind bIsReadOp)) := by
  induction syncs generalizing table with
  | nil => exact ⟨rfl, (advance_nil _).symm⟩
  | cons sync rest ih =>
    obtain ⟨middle, result, complete, pending⟩ :=
      sampleSyncs_cons bIsReadOp table sync rest
    obtain ⟨restComplete, restPending⟩ := ih middle
    rw [result]
    refine ⟨restComplete.trans complete, ?_⟩
    rw [restPending, pending, ← advance_append]
    rfl

theorem sampleSyncs_objects
    {syncs : List Nat}
    (distinct : syncs.Nodup) :
    (sampleSyncs bIsReadOp table syncs).2 = syncs.map (sampleOf table) := by
  induction syncs generalizing table with
  | nil => rfl
  | cons sync rest ih =>
    obtain ⟨middle, result, _, pending⟩ :=
      sampleSyncs_cons bIsReadOp table sync rest
    obtain ⟨notMem, restDistinct⟩ := List.nodup_cons.mp distinct
    rw [result, List.map_cons, ih middle restDistinct]
    refine congrArg (sampleOf table sync :: ·) (List.map_congr_left ?_)
    intro other member
    have different : other ≠ sync := fun same => notMem (same ▸ member)
    have untouched : ∀ kind,
        pendingCounts middle (other, kind) =
          pendingCounts table (other, kind) := by
      intro kind
      rw [pending]
      exact advance_of_notMem _ (by simp [different])
    simp only [sampleOf, untouched]

end

/-- The loop over the sync objects bumps one complete count for each, if its
body does. -/
theorem completeSyncs_counts
    {bump : SyncData → SyncData}
    {kind : OpKind}
    (bumps : ∀ table sync,
      completeCounts (update table sync (bump (table sync))) =
          advance (completeCounts table) [(sync, kind)] ∧
        pendingCounts (update table sync (bump (table sync))) =
          pendingCounts table)
    (table : SyncTable)
    (objects : List SyncObject) :
    completeCounts (completeSyncs bump table objects) =
        advance (completeCounts table)
          ((objects.map SyncObject.psKernelSyncInfoKM).map (·, kind)) ∧
      pendingCounts (completeSyncs bump table objects) =
        pendingCounts table := by
  induction objects generalizing table with
  | nil => exact ⟨(advance_nil _).symm, rfl⟩
  | cons object rest ih =>
    obtain ⟨first, firstPending⟩ := bumps table object.psKernelSyncInfoKM
    rw [completeSyncs]
    obtain ⟨complete, pending⟩ := ih
      (update table object.psKernelSyncInfoKM
        (bump (table object.psKernelSyncInfoKM)))
    refine ⟨?_, pending.trans firstPending⟩
    rw [complete, first, ← advance_append]
    rfl

theorem completeWrite_counts (table : SyncTable) (sync : Nat) :
    completeCounts
          (update table sync (table sync).completeWrite) =
        advance (completeCounts table) [(sync, .write)] ∧
      pendingCounts
          (update table sync (table sync).completeWrite) =
        pendingCounts table := by
  refine ⟨?_, pendingCounts_update rfl rfl⟩
  ext ⟨other, kind⟩
  by_cases same : other = sync
  · subst same
    cases kind <;> simp [completeCounts, advance, SyncData.completeWrite]
  · have distinct : (other, kind) ∉ [(sync, OpKind.write)] := by
      simp [same]
    rw [advance_of_notMem _ distinct]
    cases kind <;> simp [completeCounts, update_of_ne same]

theorem completeRead_counts (table : SyncTable) (sync : Nat) :
    completeCounts
          (update table sync (table sync).completeRead) =
        advance (completeCounts table) [(sync, .read)] ∧
      pendingCounts
          (update table sync (table sync).completeRead) =
        pendingCounts table := by
  refine ⟨?_, pendingCounts_update rfl rfl⟩
  ext ⟨other, kind⟩
  by_cases same : other = sync
  · subst same
    cases kind <;> simp [completeCounts, advance, SyncData.completeRead]
  · have distinct : (other, kind) ∉ [(sync, OpKind.read)] := by
      simp [same]
    rw [advance_of_notMem _ distinct]
    cases kind <;> simp [completeCounts, update_of_ne same]

theorem accesses_nodup
    {dst src : List Nat}
    (distinct : (dst ++ src).Nodup) :
    (accesses dst src).Nodup := by
  obtain ⟨dstDistinct, srcDistinct, _⟩ := List.nodup_append.mp distinct
  refine List.nodup_append.mpr ⟨?_, ?_, ?_⟩
  · exact dstDistinct.map fun first second same => (Prod.mk.inj same).1
  · exact srcDistinct.map fun first second same => (Prod.mk.inj same).1
  · intro first inDst second inSrc
    obtain ⟨_, _, rfl⟩ := mem_map.mp inDst
    obtain ⟨_, _, rfl⟩ := mem_map.mp inSrc
    simp

/-! ## The dependency test -/

theorem dependencyMet_iff {table : SyncTable} {object : SyncObject} :
    dependencyMet false table object = true ↔
      ∀ ticket ∈ samples object, ticket.2 = completeCounts table ticket.1 := by
  simp only [dependencyMet, samples, completeCounts, List.forall_mem_cons,
    Bool.not_false, Bool.true_or, Bool.not_true]
  split_ifs with differs <;> simp <;> grind

/-- Without a flush the test compares every sample with the complete count. -/
theorem dependenciesMet_iff {table : SyncTable} {command : Command} :
    dependenciesMet false table command = true ↔
      commandScheme.Ready (completeCounts table) command := by
  simp only [dependenciesMet, Bool.and_eq_true, List.all_eq_true,
    dependencyMet_iff, Scheme.Ready, commandScheme, Command.objects,
    mem_flatMap, mem_append]
  constructor
  · rintro ⟨dst, src⟩ ticket ⟨object, member | member, sample⟩
    · exact dst object member ticket sample
    · exact src object member ticket sample
  · intro ready
    exact ⟨fun object member ticket sample =>
        ready ticket ⟨object, Or.inl member, sample⟩,
      fun object member ticket sample =>
        ready ticket ⟨object, Or.inr member, sample⟩⟩

/-! ## Sharing a sync object -/

theorem mem_bumps_sync
    {counter : Counter}
    (member : counter ∈ commandScheme.bumps command) :
    counter.1 ∈ command.syncs := by
  simp only [commandScheme, accesses, mem_append, mem_map] at member
  simp only [Command.syncs, Command.objects, mem_map, mem_append]
  rcases member with ⟨sync, ⟨object, inDst, rfl⟩, rfl⟩ |
    ⟨sync, ⟨object, inSrc, rfl⟩, rfl⟩
  · exact ⟨object, Or.inl inDst, rfl⟩
  · exact ⟨object, Or.inr inSrc, rfl⟩

theorem exists_mem_bumps
    (member : sync ∈ command.syncs) :
    ∃ kind, (sync, kind) ∈ commandScheme.bumps command := by
  simp only [Command.syncs, Command.objects, mem_map, mem_append]
    at member
  obtain ⟨object, inDst | inSrc, rfl⟩ := member
  · exact ⟨.write, List.mem_append_left _ (mem_map_of_mem
      (mem_map_of_mem inDst))⟩
  · exact ⟨.read, List.mem_append_right _ (mem_map_of_mem
      (mem_map_of_mem inSrc))⟩

theorem mem_waits_sync
    {ticket : Counter × BitVec 32}
    (member : ticket ∈ commandScheme.waits command) :
    ticket.1.1 ∈ command.syncs := by
  simp only [commandScheme, mem_flatMap, samples, List.mem_cons,
    List.not_mem_nil, or_false] at member
  obtain ⟨object, inObjects, rfl | rfl⟩ := member
  · exact mem_map_of_mem inObjects
  · exact mem_map_of_mem inObjects

theorem exists_mem_waits
    (member : sync ∈ command.syncs)
    (kind : OpKind) :
    ∃ ticket ∈ commandScheme.waits command, ticket.1 = (sync, kind) := by
  obtain ⟨object, inObjects, rfl⟩ := mem_map.mp member
  cases kind with
  | write =>
    exact ⟨_, mem_flatMap.mpr ⟨object, inObjects, List.mem_cons_self⟩, rfl⟩
  | read =>
    exact ⟨_, mem_flatMap.mpr
      ⟨object, inObjects, List.mem_cons_of_mem _ List.mem_cons_self⟩, rfl⟩

/-- A command that waits for no counter the other bumps shares no sync object
with it. -/
theorem not_sharesSync_of_waits
    (apart : ∀ ticket ∈ commandScheme.waits second,
      ticket.1 ∉ commandScheme.bumps first) :
    ¬ SharesSync first second := by
  rintro ⟨sync, inFirst, inSecond⟩
  obtain ⟨kind, bumped⟩ := exists_mem_bumps inFirst
  obtain ⟨ticket, waits, same⟩ := exists_mem_waits inSecond kind
  exact apart ticket waits (same ▸ bumped)

theorem waits_apart_of_not_sharesSync
    (apart : ¬ SharesSync first second) :
    ∀ ticket ∈ commandScheme.waits first,
      ticket.1 ∉ commandScheme.bumps second := by
  intro ticket waits bumped
  exact apart ⟨ticket.1.1, mem_waits_sync waits, mem_bumps_sync bumped⟩

end PvrServices.SyncQueue
