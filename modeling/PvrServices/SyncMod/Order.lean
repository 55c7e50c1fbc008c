import PvrServices.SyncMod.Items

/-!
# Order of the modifications

The modifications of a sync info take tickets of its complete counts: the
snapshots an object records are the values the counts reach when the earlier
modifications have completed.  The list of the outstanding modifications, in
the order of the calls that made them pending, carries the invariant.
-/

namespace PvrServices.SyncMod

open SyncQueue (SyncData OpKind)
open Tickets
open List (mem_cons mem_cons_of_mem mem_cons_self)

/-! ## Modifications as tickets -/

/-- The counts a modification selects. -/
def selected (ui32ModifyFlags : BitVec 32) : List OpKind :=
  (if hasFlag ui32ModifyFlags flagWoInc then [.write] else []) ++
    if hasFlag ui32ModifyFlags flagRoInc then [.read] else []

/-- The complete counts. -/
def completeCounts (data : SyncData) : OpKind → BitVec 32
  | .write => data.ui32WriteOpsComplete
  | .read => data.ui32ReadOpsComplete

/-- The pending counts. -/
def pendingCounts (data : SyncData) : OpKind → BitVec 32
  | .write => data.ui32WriteOpsPending
  | .read => data.ui32ReadOpsPending

/-- A modification an object holds. -/
structure Modification where
  mod : Nat
  ui32ModifyFlags : BitVec 32
  ui32ReadOpsPendingSnapShot : BitVec 32
  ui32WriteOpsPendingSnapShot : BitVec 32
deriving DecidableEq, Repr

/-- The modification in an object. -/
def ModifySyncOpInfo.modification (modInfo : ModifySyncOpInfo) (mod : Nat) :
    Modification where
  mod := mod
  ui32ModifyFlags := modInfo.ui32ModifyFlags
  ui32ReadOpsPendingSnapShot := modInfo.ui32ReadOpsPendingSnapShot
  ui32WriteOpsPendingSnapShot := modInfo.ui32WriteOpsPendingSnapShot

/-- The object and the flags, as the history names a modification. -/
def Modification.entry (modification : Modification) : Nat × BitVec 32 :=
  (modification.mod, modification.ui32ModifyFlags)

/-- A modification waits for both counts and bumps those it selects. -/
def modifications : Scheme Modification OpKind 32 where
  bumps modification := selected modification.ui32ModifyFlags
  waits modification :=
    [(.write, modification.ui32WriteOpsPendingSnapShot),
      (.read, modification.ui32ReadOpsPendingSnapShot)]

/-- An object holds the modification of `sync`, and it selects a count. -/
def System.Holds (system : System) (sync : Nat)
    (modification : Modification) : Prop :=
  ∃ modInfo, system.modObjs modification.mod = some modInfo ∧
    modInfo.psKernelSyncInfo = some sync ∧
    modInfo.modification modification.mod = modification ∧
    selected modification.ui32ModifyFlags ≠ []

/-- Modifications of `sync` made pending, of those that select a count. -/
def pendings (sync : Nat) (history : List Event) : List (Nat × BitVec 32) :=
  history.filterMap fun
    | .pending other mod ui32ModifyFlags =>
      if other = sync ∧ selected ui32ModifyFlags ≠ [] then
        some (mod, ui32ModifyFlags)
      else none
    | .complete .. => none

/-- Modifications of `sync` completed, of those that select a count. -/
def completions (sync : Nat) (history : List Event) :
    List (Nat × BitVec 32) :=
  history.filterMap fun
    | .pending .. => none
    | .complete other mod ui32ModifyFlags _ =>
      if other = sync ∧ selected ui32ModifyFlags ≠ [] then
        some (mod, ui32ModifyFlags)
      else none

/-- The counts the modifications of a list select. -/
def allSelected (entries : List (Nat × BitVec 32)) : List OpKind :=
  entries.flatMap fun entry => selected entry.2

/-! ## Counts -/

section

variable (data : SyncData) (ui32ModifyFlags : BitVec 32)
include data

theorem completeCounts_completeOps :
    completeCounts (completeOps data ui32ModifyFlags) =
      advance (completeCounts data) (selected ui32ModifyFlags) := by
  funext kind
  unfold completeOps selected
  cases hasFlag ui32ModifyFlags flagWoInc <;>
    cases hasFlag ui32ModifyFlags flagRoInc <;> cases kind <;>
      simp [completeCounts, advance]

theorem pendingCounts_completeOps :
    pendingCounts (completeOps data ui32ModifyFlags) = pendingCounts data := by
  funext kind
  unfold completeOps
  cases hasFlag ui32ModifyFlags flagWoInc <;>
    cases hasFlag ui32ModifyFlags flagRoInc <;> cases kind <;> rfl

theorem pendingCounts_pendOps :
    pendingCounts (pendOps data ui32ModifyFlags) =
      advance (pendingCounts data) (selected ui32ModifyFlags) := by
  funext kind
  unfold pendOps selected
  cases hasFlag ui32ModifyFlags flagWoInc <;>
    cases hasFlag ui32ModifyFlags flagRoInc <;> cases kind <;>
      simp [pendingCounts, advance]

theorem completeCounts_pendOps :
    completeCounts (pendOps data ui32ModifyFlags) = completeCounts data := by
  funext kind
  unfold pendOps
  cases hasFlag ui32ModifyFlags flagWoInc <;>
    cases hasFlag ui32ModifyFlags flagRoInc <;> cases kind <;> rfl

end

theorem count_selected (ui32ModifyFlags : BitVec 32) (kind : OpKind) :
    (selected ui32ModifyFlags).count kind =
      if kind ∈ selected ui32ModifyFlags then 1 else 0 := by
  unfold selected
  cases hasFlag ui32ModifyFlags flagWoInc <;>
    cases hasFlag ui32ModifyFlags flagRoInc <;> cases kind <;> rfl

theorem count_allSelected
    (entries : List (Nat × BitVec 32)) (kind : OpKind) :
    (allSelected entries).count kind =
      entries.countP fun entry => kind ∈ selected entry.2 := by
  induction entries with
  | nil => rfl
  | cons entry rest ih =>
    rw [List.countP_cons, ← ih, allSelected,
      List.flatMap_cons, List.count_append, count_selected, allSelected,
      Nat.add_comm]
    simp only [decide_eq_true_eq]

theorem allBumps_eq (outs : List Modification) :
    modifications.allBumps outs =
      allSelected (outs.map Modification.entry) := by
  rw [allSelected, List.flatMap_map]
  rfl

theorem count_allBumps_le (outs : List Modification) (kind : OpKind) :
    (modifications.allBumps outs).count kind ≤ outs.length := by
  rw [allBumps_eq, count_allSelected]
  exact List.countP_le_length.trans_eq (List.length_map _)

/-! ## Reaching a snapshot -/

/-- A complete count has reached a snapshot: none of the outstanding
operations will take it there. -/
def Reached (ui32OpsComplete snapshot : BitVec 32) (outstanding : Nat) :
    Prop :=
  ∀ step, 0 < step → step ≤ outstanding →
    ui32OpsComplete + BitVec.ofNat 32 step ≠ snapshot

theorem reached_iff
    {pending complete snapshot : BitVec 32}
    {outstanding : Nat}
    (bounded : outstanding < 2 ^ 32)
    (isPending : pending = complete + BitVec.ofNat 32 outstanding) :
    pending - complete ≤ pending - snapshot ↔
      Reached complete snapshot outstanding := by
  subst isPending
  have distance : complete + BitVec.ofNat 32 outstanding - complete =
      BitVec.ofNat 32 outstanding := by
    rw [BitVec.add_comm, BitVec.add_sub_cancel]
  rw [distance, BitVec.le_def, BitVec.toNat_ofNat, Nat.mod_eq_of_lt bounded]
  constructor
  · rintro ahead step positive within rfl
    have left : complete + BitVec.ofNat 32 outstanding -
        (complete + BitVec.ofNat 32 step) =
        BitVec.ofNat 32 (outstanding - step) := by
      bv_omega
    rw [left, BitVec.toNat_ofNat, Nat.mod_eq_of_lt (by omega)] at ahead
    omega
  · intro reached
    by_contra behind
    rw [not_le] at behind
    refine reached (outstanding -
      (complete + BitVec.ofNat 32 outstanding - snapshot).toNat)
      (by omega) (by omega) ?_
    bv_omega

/-! ## The invariant of the outstanding modifications -/

/-- `outs` are the modifications of `sync` that are outstanding, in order. -/
structure Outstanding
    (sync : Nat) (initial : SyncData) (system : System) (data : SyncData)
    (outs : List Modification) : Prop where
  ticketed : modifications.Ticketed (completeCounts data) outs
  pending : pendingCounts data =
    advance (completeCounts data) (modifications.allBumps outs)
  holds : ∀ modification, modification ∈ outs ↔ system.Holds sync modification
  nodup : outs.Nodup
  matched : pendings sync system.history =
    completions sync system.history ++ outs.map Modification.entry
  complete : completeCounts data = advance (completeCounts initial)
    (allSelected (completions sync system.history))
  bounded : outs.length < 2 ^ 32

/-- An object that held a modification is emptied or freed. -/
theorem holds_emptied
    {sync mod : Nat}
    {system next : System}
    {written : Option ModifySyncOpInfo}
    {modification : Modification}
    (modObjs : next.modObjs = Function.update system.modObjs mod written)
    (emptied : ∀ {modInfo}, written = some modInfo →
      modInfo.psKernelSyncInfo = none) :
    next.Holds sync modification ↔
      modification.mod ≠ mod ∧ system.Holds sync modification := by
  by_cases same : modification.mod = mod
  · constructor
    · rintro ⟨modInfo, isNext, holds, -⟩
      rw [modObjs, same, Function.update_self] at isNext
      rw [emptied isNext] at holds
      contradiction
    · exact fun both => absurd same both.1
  · simp only [System.Holds, modObjs, Function.update_of_ne same, ne_eq, same,
      not_false_eq_true, true_and]

namespace Outstanding

variable {sync mod : Nat} {initial data : SyncData} {system next : System}
  {outs earlier later : List Modification} {modification : Modification}
  {before : ModifySyncOpInfo}

/-- Nothing of what the invariant is about changes. -/
theorem same
    {nextData : SyncData}
    (outstanding : Outstanding sync initial system data outs)
    (completeSame : completeCounts nextData = completeCounts data)
    (pendingSame : pendingCounts nextData = pendingCounts data)
    (holdsSame : ∀ modification,
      next.Holds sync modification ↔ system.Holds sync modification)
    (pendingsSame :
      pendings sync next.history = pendings sync system.history)
    (completionsSame :
      completions sync next.history = completions sync system.history) :
    Outstanding sync initial next nextData outs := by
  constructor
  · rw [completeSame]
    exact outstanding.ticketed
  · rw [pendingSame, completeSame]
    exact outstanding.pending
  · intro modification
    rw [holdsSame]
    exact outstanding.holds modification
  · exact outstanding.nodup
  · rw [pendingsSame, completionsSame]
    exact outstanding.matched
  · rw [completeSame, completionsSame]
    exact outstanding.complete
  · exact outstanding.bounded

/-- Only the first of the outstanding modifications finds no earlier one that
bumps a count. -/
theorem eq_nil_of_notMem
    (outstanding : Outstanding sync initial system data
      (earlier ++ modification :: later))
    (none : ∀ kind, kind ∉ modifications.allBumps earlier) :
    earlier = [] := by
  cases earlier with
  | nil => rfl
  | cons first rest =>
    exfalso
    obtain ⟨-, -, -, -, selects⟩ := (outstanding.holds first).mp mem_cons_self
    obtain ⟨kind, isSelected⟩ := List.exists_mem_of_ne_nil _ selects
    refine none kind (List.mem_flatMap.mpr ⟨first, mem_cons_self, ?_⟩)
    exact isSelected

/-- A modification whose snapshots equal the complete counts is the first. -/
theorem eq_nil_of_ready
    (outstanding : Outstanding sync initial system data
      (earlier ++ modification :: later))
    (ready : modifications.Ready (completeCounts data) modification) :
    earlier = [] := by
  apply outstanding.eq_nil_of_notMem
  have bounded : ∀ counter,
      (modifications.allBumps earlier).count counter < 2 ^ 32 := by
    intro counter
    have short := outstanding.bounded
    rw [List.length_append] at short
    exact (count_allBumps_le earlier counter).trans_lt (by omega)
  intro kind
  cases kind with
  | write =>
    exact Scheme.notMem_earlier_of_ready outstanding.ticketed bounded ready
      mem_cons_self
  | read =>
    exact Scheme.notMem_earlier_of_ready outstanding.ticketed bounded ready
      (mem_cons_of_mem _ mem_cons_self)

section

variable (outstanding : Outstanding sync initial system data outs)
include outstanding

theorem count_lt
    (kind : OpKind) :
    (modifications.allBumps outs).count kind < 2 ^ 32 :=
  (count_allBumps_le outs kind).trans_lt outstanding.bounded

theorem satisfied_iff
    (ui32ReadOpsPendingSnapShot ui32WriteOpsPendingSnapShot : BitVec 32) :
    doQuerySyncOpsSatisfied data ui32ReadOpsPendingSnapShot
        ui32WriteOpsPendingSnapShot = true ↔
      Reached data.ui32WriteOpsComplete ui32WriteOpsPendingSnapShot
        ((modifications.allBumps outs).count .write) ∧
      Reached data.ui32ReadOpsComplete ui32ReadOpsPendingSnapShot
        ((modifications.allBumps outs).count .read) := by
  rw [doQuerySyncOpsSatisfied, Bool.and_eq_true, decide_eq_true_iff,
    decide_eq_true_iff]
  exact and_congr
    (reached_iff (outstanding.count_lt .write)
      (congrFun outstanding.pending .write))
    (reached_iff (outstanding.count_lt .read)
      (congrFun outstanding.pending .read))

/-- A modification the callback finds satisfied is the first one. -/
theorem shows_of_satisfied
    {modInfo : ModifySyncOpInfo}
    (isMod : system.modObjs mod = some modInfo)
    (holds : modInfo.psKernelSyncInfo = some sync)
    (selects : selected modInfo.ui32ModifyFlags ≠ [])
    (satisfied : doQuerySyncOpsSatisfied data
      modInfo.ui32ReadOpsPendingSnapShot
      modInfo.ui32WriteOpsPendingSnapShot = true) :
    modInfo.Shows data := by
  have isOut : modInfo.modification mod ∈ outs :=
    (outstanding.holds _).mpr ⟨modInfo, isMod, holds, rfl, selects⟩
  obtain ⟨earlier, later, rfl⟩ := List.append_of_mem isOut
  obtain ⟨writes, reads⟩ := (outstanding.satisfied_iff _ _).mp satisfied
  have tickets := (Scheme.ticketed_append.mp outstanding.ticketed).2.1
  -- The snapshot is as far ahead as the earlier modifications bump the count.
  have none : ∀ kind, kind ∉ modifications.allBumps earlier := by
    intro kind isBump
    have positive := List.count_pos_iff.mpr isBump
    have within : (modifications.allBumps earlier).count kind ≤
        (modifications.allBumps
          (earlier ++ modInfo.modification mod :: later)).count kind := by
      rw [Scheme.allBumps_append, List.count_append]
      exact Nat.le_add_right _ _
    cases kind with
    | write =>
      exact writes _ positive within
        (tickets (.write, modInfo.ui32WriteOpsPendingSnapShot)
          mem_cons_self).symm
    | read =>
      exact reads _ positive within
        (tickets (.read, modInfo.ui32ReadOpsPendingSnapShot)
          (mem_cons_of_mem _ mem_cons_self)).symm
  obtain rfl := outstanding.eq_nil_of_notMem none
  rw [show modifications.allBumps [] = [] from rfl, advance_nil] at tickets
  exact ⟨tickets (.write, modInfo.ui32WriteOpsPendingSnapShot)
      mem_cons_self,
    tickets (.read, modInfo.ui32ReadOpsPendingSnapShot)
      (mem_cons_of_mem _ mem_cons_self)⟩

/-- An object makes a modification pending. -/
theorem pend
    (written : ModifySyncOpInfo)
    (isMod : system.modObjs mod = some before)
    (empty : before.psKernelSyncInfo = none)
    (modObjs : next.modObjs =
      Function.update system.modObjs mod (some written))
    (holds : written.psKernelSyncInfo = some sync)
    (writes : written.ui32WriteOpsPendingSnapShot = data.ui32WriteOpsPending)
    (reads : written.ui32ReadOpsPendingSnapShot = data.ui32ReadOpsPending)
    (history : next.history =
      system.history ++ [.pending sync mod written.ui32ModifyFlags])
    (room : outs.length + 1 < 2 ^ 32) :
    ∃ nextOuts, Outstanding sync initial next
      (pendOps data written.ui32ModifyFlags) nextOuts := by
  have newInfo : next.modObjs mod = some written := by
    rw [modObjs, Function.update_self]
  have holds_next : ∀ modification, next.Holds sync modification ↔
      system.Holds sync modification ∨
        (modification = written.modification mod ∧
          selected written.ui32ModifyFlags ≠ []) := by
    intro modification
    by_cases same : modification.mod = mod
    · constructor
      · rintro ⟨modInfo, isNext, -, isModification, selects⟩
        rw [same] at isNext isModification
        have sameInfo := Option.some.inj (isNext.symm.trans newInfo)
        rw [sameInfo] at isModification
        rw [← isModification] at selects
        exact .inr ⟨isModification.symm, selects⟩
      · rintro (⟨modInfo, isOld, holdsOld, -⟩ | ⟨rfl, selects⟩)
        · rw [same, isMod] at isOld
          rw [← Option.some.inj isOld, empty] at holdsOld
          contradiction
        · exact ⟨written, newInfo, holds, rfl, selects⟩
    · have sameInfo :
          next.modObjs modification.mod = system.modObjs modification.mod := by
        rw [modObjs, Function.update_of_ne same]
      have differs : modification ≠ written.modification mod := by
        rintro rfl
        exact same rfl
      simp only [System.Holds, sameInfo, differs, false_and, or_false]
  have completionsSame : completions sync next.history =
      completions sync system.history := by
    simp [history, completions]
  by_cases selects : selected written.ui32ModifyFlags = []
  · refine ⟨outs, outstanding.same (completeCounts_pendOps ..) ?_ ?_ ?_
      completionsSame⟩
    · rw [pendingCounts_pendOps, selects, advance_nil]
    · intro modification
      rw [holds_next]
      simp [selects]
    · simp [history, pendings, selects]
  · refine ⟨outs ++ [written.modification mod], ?_⟩
    have bumps : modifications.allBumps [written.modification mod] =
        selected written.ui32ModifyFlags := by
      simp [Scheme.allBumps, modifications, ModifySyncOpInfo.modification]
    constructor
    · rw [completeCounts_pendOps, Scheme.ticketed_append]
      refine ⟨outstanding.ticketed, ?_, trivial⟩
      intro ticket waits
      rw [← outstanding.pending]
      simp only [modifications, mem_cons, List.not_mem_nil, or_false] at waits
      rcases waits with rfl | rfl
      · exact writes
      · exact reads
    · rw [pendingCounts_pendOps, completeCounts_pendOps, outstanding.pending,
        Scheme.allBumps_append, advance_append, bumps]
    · intro modification
      rw [holds_next, List.mem_append, outstanding.holds, List.mem_singleton]
      simp [selects]
    · rw [List.nodup_append]
      refine ⟨outstanding.nodup, List.nodup_singleton _, ?_⟩
      rintro modification isOut other isNew rfl
      rw [List.mem_singleton.mp isNew] at isOut
      obtain ⟨modInfo, isOld, holdsOld, -⟩ := (outstanding.holds _).mp isOut
      rw [← Option.some.inj (isMod.symm.trans isOld), empty] at holdsOld
      contradiction
    · rw [completionsSame, List.map_append, ← List.append_assoc,
        ← outstanding.matched, history]
      simp [pendings, selects, Modification.entry,
        ModifySyncOpInfo.modification]
    · rw [completeCounts_pendOps, completionsSame]
      exact outstanding.complete
    · rwa [List.length_append, List.length_singleton]

/-- The object whose snapshots equal the complete counts completes its
modification. -/
theorem finish
    {written : Option ModifySyncOpInfo}
    {byCallback : Bool}
    (isMod : system.modObjs mod = some before)
    (holds : before.psKernelSyncInfo = some sync)
    (shows : before.Shows data)
    (modObjs : next.modObjs = Function.update system.modObjs mod written)
    (emptied : ∀ {modInfo}, written = some modInfo →
      modInfo.psKernelSyncInfo = none)
    (history : next.history = system.history ++
      [.complete sync mod before.ui32ModifyFlags byCallback]) :
    ∃ nextOuts, Outstanding sync initial next
      (completeOps data before.ui32ModifyFlags) nextOuts := by
  have pendingsSame : pendings sync next.history =
      pendings sync system.history := by
    simp [history, pendings]
  by_cases selects : selected before.ui32ModifyFlags = []
  · refine ⟨outs, outstanding.same ?_ (pendingCounts_completeOps ..) ?_
      pendingsSame ?_⟩
    · rw [completeCounts_completeOps, selects, advance_nil]
    · intro modification
      rw [holds_emptied modObjs emptied]
      refine and_iff_right_of_imp ?_
      rintro ⟨modInfo, isOld, -, isModification, selectsOld⟩ rfl
      rw [← Option.some.inj (isMod.symm.trans isOld)] at isModification
      rw [← isModification] at selectsOld
      exact selectsOld selects
    · simp [history, completions, selects]
  · have isOut : before.modification mod ∈ outs :=
      (outstanding.holds _).mpr ⟨before, isMod, holds, rfl, selects⟩
    obtain ⟨earlier, later, rfl⟩ := List.append_of_mem isOut
    have ready : modifications.Ready (completeCounts data)
        (before.modification mod) := by
      intro ticket waits
      simp only [modifications, mem_cons, List.not_mem_nil, or_false] at waits
      rcases waits with rfl | rfl
      · exact shows.1
      · exact shows.2
    obtain rfl := outstanding.eq_nil_of_ready ready
    rw [List.nil_append] at outstanding
    refine ⟨later, ?_⟩
    constructor
    · rw [completeCounts_completeOps]
      exact outstanding.ticketed.2
    · rw [pendingCounts_completeOps, completeCounts_completeOps,
        outstanding.pending, ← advance_append]
      rfl
    · intro modification
      rw [holds_emptied modObjs emptied, ← outstanding.holds]
      constructor
      · intro inLater
        refine ⟨?_, mem_cons_of_mem _ inLater⟩
        rintro rfl
        obtain ⟨modInfo, isOld, -, isModification, -⟩ :=
          (outstanding.holds modification).mp (mem_cons_of_mem _ inLater)
        rw [← Option.some.inj (isMod.symm.trans isOld)] at isModification
        rw [← isModification] at inLater
        exact (List.nodup_cons.mp outstanding.nodup).1 inLater
      · rintro ⟨apart, listed⟩
        rcases mem_cons.mp listed with rfl | inLater
        · exact absurd rfl apart
        · exact inLater
    · exact (List.nodup_cons.mp outstanding.nodup).2
    · rw [pendingsSame, outstanding.matched, history]
      simp [completions, selects, Modification.entry,
        ModifySyncOpInfo.modification]
    · rw [completeCounts_completeOps, outstanding.complete, history,
        ← advance_append]
      simp [completions, selects, allSelected]
    · have short := outstanding.bounded
      rw [List.length_cons] at short
      omega

end

end Outstanding

end PvrServices.SyncMod
