import PvrServices.DeviceMem.Making
import PvrServices.DisplayClass.SwapChain
import Mathlib.Algebra.BigOperators.Group.List.Basic
import Mathlib.Tactic.Abel

/-!
# When a failed creation leaves nothing behind

A creation that fails leaves everything as it was, unless there is no memory
for the swap chain, the driver does not describe its display or there is no
memory for the reference, or the lock of the queues is taken when the queue
should be destroyed.
-/

namespace PvrServices.DisplayClass

open Resman (Address PvrsrvError pvrsrvErrorOutOfMemory)

/-! ## What is to hold -/

/-- The creation gives its caller nothing. -/
def CreateCall.Fails
    (call : CreateCall) (answers : CreateAnswers) (state : State) : Prop :=
  ∀ after created,
    state.createDCSwapChainKM call answers ≠ some (after, .ok created)

/-- The creation returns an error, and everything is as it was: what is held,
the queues, and the shared swap chains with their references. -/
def CreateCall.FailsCleanly
    (call : CreateCall) (answers : CreateAnswers) (state : State) : Prop :=
  ∃ eError, state.createDCSwapChainKM call answers = some (state, .error eError)

/-! ## When it holds -/

/-- A queue is made. -/
def QueueAnswers.Made (answers : QueueAnswers) : Prop :=
  answers.psQueueInfo ≠ none ∧ answers.pvLinQueueKM ≠ none ∧
    answers.locks = true

/-- A sync info is made. -/
def SyncAnswers.Made (answers : SyncAnswers) : Prop :=
  answers.psKernelSyncInfo ≠ none ∧ answers.psSyncDataMemInfoKM ≠ none

/-- The arguments ask for a new swap chain, and are accepted. -/
structure CreateCall.Creates (call : CreateCall) : Prop where
  pointers : call.pointers = true
  few : call.ui32BufferCount.toNat ≤ pvrsrvMaxDCSwapchainBuffers
  enough : 2 ≤ call.ui32BufferCount.toNat
  new : call.ui32Flags &&& pvrsrvCreateSwapchainQuery = 0

/-- The failing step is one that `ErrorExit` undoes, and it can destroy the
queue. -/
structure Undoable (call : CreateCall) (answers : CreateAnswers) : Prop where
  swapChain : answers.psSwapChain ≠ none
  lock : answers.queue.Made → answers.destroyLocks = true
  driver : answers.queue.Made →
    (∀ i < call.ui32BufferCount.toNat, (answers.syncs i).Made) →
    ∃ eError, answers.pfnGetDCInfo = .ok () ∧
      answers.pfnCreateDCSwapChain = .error eError

/-! ## What is held -/

namespace State

@[simp] theorem hold_hold (state : State) (first second : Resource → Int) :
    (state.hold first).hold second = state.hold (first + second) := by
  simp only [hold, add_assoc]

theorem hold_zero (state : State) : state.hold 0 = state := by
  simp only [hold, add_zero]

end State

/-- What a sync info holds. -/
def KernelSyncInfo.cost (sync : KernelSyncInfo) : Resource → Int :=
  Pi.single (.syncInfo sync.psKernelSyncInfo) 1 +
    Pi.single (.syncData sync.psSyncDataMemInfoKM) 1

/-- The results of the calls, where `AllocDeviceMem` is a call of its own. -/
def SyncAnswers.ofDeviceMem (answers : DeviceMem.SyncAnswers) :
    SyncAnswers where
  psKernelSyncInfo := answers.psKernelSyncInfo
  psSyncDataMemInfoKM :=
    answers.syncData.psMemInfo.bind fun psMemInfo =>
      answers.syncData.hBuffer.map fun _ => psMemInfo

/-- `PVRSRVAllocSyncInfoKM` makes the sync info that it makes for device
memory, and acquires as many sync infos and mem infos for their data. -/
theorem State.allocSyncInfoKM_deviceMem
    (state : State)
    (memory : DeviceMem.State)
    (answers : DeviceMem.SyncAnswers) :
    let (after, sync) := state.allocSyncInfoKM (.ofDeviceMem answers)
    let (memoryAfter, psKernelSyncInfo) := memory.allocSyncInfoKM answers
    sync.map KernelSyncInfo.psKernelSyncInfo = psKernelSyncInfo ∧
      ∀ address,
        after.held (.syncInfo address) - state.held (.syncInfo address) =
          memoryAfter.held.count (.syncInfo address) -
            memory.held.count (.syncInfo address) ∧
        after.held (.syncData address) - state.held (.syncData address) =
          memoryAfter.held.count (.memInfo address) -
            memory.held.count (.memInfo address) := by
  obtain ⟨psKernelSyncInfo, psMemInfo, hBuffer⟩ := answers
  cases psKernelSyncInfo <;> cases psMemInfo <;> cases hBuffer <;>
    refine ⟨rfl, fun address => ?_⟩ <;>
    simp [SyncAnswers.ofDeviceMem, State.acquire, State.release, State.hold,
      DeviceMem.State.acquire, DeviceMem.State.release, Pi.single_apply,
      List.count_cons, @eq_comm _ address]

/-- What a queue holds. -/
def QueueInfo.cost (queue : QueueInfo) : Resource → Int :=
  Pi.single (.queueInfo queue.psQueueInfo) 1 +
    Pi.single (.queueBuffer queue.pvLinQueueKM) 1

/-- What sync infos hold together. -/
def syncsCost (syncs : List KernelSyncInfo) : Resource → Int :=
  (syncs.map KernelSyncInfo.cost).sum

/-- Sync infos are neither swap chains nor queues nor of the driver. -/
theorem syncsCost_eq_zero
    {resource : Resource}
    (notSync : ∀ address, resource ≠ .syncInfo address ∧
      resource ≠ .syncData address)
    (syncs : List KernelSyncInfo) :
    syncsCost syncs resource = 0 := by
  induction syncs with
  | nil => rfl
  | cons sync syncs ih =>
    simp only [syncsCost, List.map_cons, List.sum_cons, Pi.add_apply,
      KernelSyncInfo.cost, Pi.single_eq_of_ne (notSync _).1,
      Pi.single_eq_of_ne (notSync _).2, zero_add]
    exact ih

namespace State

variable {state : State} {queue : QueueInfo} {syncs : List KernelSyncInfo}

/-! ## Steps -/

theorem createCommandQueueKM_cases (answers : QueueAnswers) :
    (answers.Made ∧ ∃ queue : QueueInfo, state.createCommandQueueKM answers =
      ({ state.hold queue.cost with
        psQueueList := queue.psQueueInfo :: state.psQueueList }, .ok queue)) ∨
    (¬answers.Made ∧ ∃ eError,
      state.createCommandQueueKM answers = (state, .error eError)) := by
  unfold createCommandQueueKM QueueAnswers.Made
  cases answers.psQueueInfo with
  | none => exact .inr ⟨fun made => made.1 rfl, _, rfl⟩
  | some psQueueInfo =>
    cases answers.pvLinQueueKM with
    | none =>
      refine .inr ⟨fun made => made.2.1 rfl, pvrsrvErrorOutOfMemory, ?_⟩
      simp [acquire, release, hold_zero]
    | some pvLinQueueKM =>
      cases answers.locks with
      | true =>
        refine .inl ⟨⟨nofun, nofun, rfl⟩, ⟨psQueueInfo, pvLinQueueKM⟩, ?_⟩
        simp [acquire, QueueInfo.cost, hold, add_assoc]
      | false =>
        refine .inr ⟨nofun, pvrsrvErrorUnableToLockResource, ?_⟩
        simp [acquire, release, hold_zero]

/-- The first queue of the list is destroyed, if the lock is free. -/
theorem destroyCommandQueueKM_first
    {list : List Address}
    (first : state.psQueueList = queue.psQueueInfo :: list) :
    state.destroyCommandQueueKM queue true =
      { state.hold (-queue.cost) with psQueueList := list } := by
  rw [destroyCommandQueueKM, if_pos ⟨rfl, by rw [first]; exact .head _⟩]
  simp only [first, List.erase_cons_head, release, hold, QueueInfo.cost,
    State.mk.injEq, and_true]
  abel

theorem allocSyncInfoKM_cases (answers : SyncAnswers) :
    (answers.Made ∧ ∃ sync : KernelSyncInfo, sync.ui32RefCount = 0 ∧
      state.allocSyncInfoKM answers = (state.hold sync.cost, some sync)) ∨
    (¬answers.Made ∧ state.allocSyncInfoKM answers = (state, none)) := by
  unfold allocSyncInfoKM SyncAnswers.Made
  cases answers.psKernelSyncInfo with
  | none => exact .inr ⟨fun made => made.1 rfl, rfl⟩
  | some psKernelSyncInfo =>
    cases answers.psSyncDataMemInfoKM with
    | none =>
      refine .inr ⟨fun made => made.2 rfl, ?_⟩
      simp [acquire, release, hold_zero]
    | some psSyncDataMemInfoKM =>
      refine .inl ⟨⟨nofun, nofun⟩,
        ⟨psKernelSyncInfo, psSyncDataMemInfoKM, 0⟩, rfl, ?_⟩
      simp [acquire, KernelSyncInfo.cost]

/-- The loop gives sync infos with one reference up to the first that cannot
be made. -/
theorem allocSyncInfos_runs
    (answers : Nat → SyncAnswers)
    (left i : Nat) :
    ∃ syncs done,
      allocSyncInfos answers left i state =
          (state.hold (syncsCost syncs), syncs, done) ∧
        (∀ sync ∈ syncs, sync.ui32RefCount = 1) ∧
        (done = true ↔ ∀ j < left, (answers (i + j)).Made) := by
  induction left generalizing i state with
  | zero =>
    exact ⟨[], true, by simp [allocSyncInfos, syncsCost, hold_zero], nofun,
      iff_of_true rfl nofun⟩
  | succ left ih =>
    rcases @allocSyncInfoKM_cases state (answers i) with
      ⟨made, sync, unused, makes⟩ | ⟨notMade, fails⟩
    · obtain ⟨syncs, done, runs, counted, isDone⟩ :=
        @ih (state.hold sync.cost) (i + 1)
      refine ⟨{ sync with ui32RefCount := sync.ui32RefCount + 1 } :: syncs,
        done, ?_, ?_, ?_⟩
      · simp only [allocSyncInfos, makes, runs, hold_hold]
        rfl
      · refine List.forall_mem_cons.mpr ⟨?_, counted⟩
        simp [unused]
      · rw [isDone]
        constructor
        · intro rest j below
          cases j with
          | zero => exact made
          | succ j =>
            have later := rest j (Nat.lt_of_succ_lt_succ below)
            rwa [Nat.add_right_comm] at later
        · intro all j below
          have later := all (j + 1) (Nat.succ_lt_succ below)
          rwa [Nat.add_right_comm]
    · refine ⟨[], false, ?_, nofun, iff_of_false nofun fun all => ?_⟩
      · simp only [allocSyncInfos, fails]
        simp [syncsCost, hold_zero]
      · exact notMade (all 0 (Nat.succ_pos left))

/-- Sync infos with one reference are freed. -/
theorem foldl_dropSyncInfo
    (counted : ∀ sync ∈ syncs, sync.ui32RefCount = 1) :
    syncs.foldl dropSyncInfo state = state.hold (-syncsCost syncs) := by
  induction syncs generalizing state with
  | nil => simp [syncsCost, hold_zero]
  | cons sync syncs ih =>
    obtain ⟨once, counted⟩ := List.forall_mem_cons.mp counted
    have dropped : state.dropSyncInfo sync = state.hold (-sync.cost) := by
      rw [dropSyncInfo, once, if_pos (by decide)]
      simp only [release, hold_hold, KernelSyncInfo.cost]
      congr 1
      abel
    rw [List.foldl_cons, dropped, ih counted, hold_hold]
    simp only [syncsCost, List.map_cons, List.sum_cons, neg_add]

/-! ## Undoing -/

/-- A swap chain and its queue have been made. -/
def opened (state : State) (psSwapChain : Address) (queue : QueueInfo) :
    State :=
  { (state.acquire (.swapChain psSwapChain)).hold queue.cost with
    psQueueList := queue.psQueueInfo :: state.psQueueList }

section

variable (counted : ∀ sync ∈ syncs, sync.ui32RefCount = 1)
  (psSwapChain : Address) (queue : QueueInfo)
include counted

/-- What `ErrorExit` leaves of a swap chain with its queue and its sync
infos. -/
theorem errorExit_opened
    (extra : Resource → Int)
    (destroyLocks : Bool) :
    (((state.opened psSwapChain queue).hold (syncsCost syncs)).hold
        extra).errorExit (some psSwapChain) syncs (some queue) destroyLocks =
      some (if destroyLocks then state.hold extra
        else { state.hold (queue.cost + extra) with
          psQueueList := queue.psQueueInfo :: state.psQueueList }) := by
  simp only [errorExit, Option.map_some, foldl_dropSyncInfo counted,
    hold_hold, Option.some.injEq]
  cases destroyLocks with
  | true =>
    rw [@destroyCommandQueueKM_first _ queue state.psQueueList rfl]
    simp only [opened, acquire, release, hold, if_true, State.mk.injEq,
      and_true]
    abel
  | false =>
    simp only [destroyCommandQueueKM, Bool.false_eq_true, false_and,
      if_false, opened, acquire, release, hold, State.mk.injEq, and_true]
    abel

/-- `ErrorExit` leaves everything as it was if it gets the lock and the driver
holds nothing. -/
theorem errorExit_clean_iff
    (destroyLocks : Bool)
    (eError : PvrsrvError) :
    (∃ error, failsWith eError (((state.opened psSwapChain queue).hold
        (syncsCost syncs)).errorExit (some psSwapChain) syncs (some queue)
          destroyLocks) = some (state, .error error)) ↔
      destroyLocks = true := by
  have exits := @errorExit_opened state syncs counted psSwapChain queue 0
    destroyLocks
  rw [hold_zero] at exits
  rw [failsWith, exits]
  cases destroyLocks with
  | true => simp [hold_zero]
  | false =>
    refine iff_of_false ?_ nofun
    rintro ⟨error, same⟩
    have list := congrArg State.psQueueList
      (congrArg Prod.fst (Option.some.inj same))
    exact absurd (congrArg List.length list) (by simp)

end

/-- With a swap chain and its queue, more is held than before. -/
theorem opened_ne
    {psSwapChain : Address} :
    (state.opened psSwapChain queue).hold (syncsCost syncs) ≠ state := by
  intro same
  have held := congrFun (congrArg State.held same) (.swapChain psSwapChain)
  simp [opened, acquire, hold, QueueInfo.cost, syncsCost_eq_zero] at held

/-- `ErrorExit` does not destroy the swap chain of the driver. -/
theorem errorExit_ext
    (counted : ∀ sync ∈ syncs, sync.ui32RefCount = 1)
    (psSwapChain hExtSwapChain : Address)
    (queue : QueueInfo)
    (destroyLocks : Bool)
    (eError : PvrsrvError) :
    ¬∃ error, failsWith eError ((((state.opened psSwapChain queue).hold
        (syncsCost syncs)).acquire (.extSwapChain hExtSwapChain)).errorExit
          (some psSwapChain) syncs (some queue) destroyLocks) =
      some (state, .error error) := by
  rintro ⟨error, same⟩
  rw [acquire, errorExit_opened counted] at same
  have isState := congrArg Prod.fst (Option.some.inj same)
  have held := congrFun (congrArg State.held isState)
    (.extSwapChain hExtSwapChain)
  cases destroyLocks <;> simp [hold, QueueInfo.cost] at held

end State

/-! ## All creations -/

variable {call : CreateCall} {answers : CreateAnswers}

/-- A new swap chain that is not made leaves nothing behind exactly if the
failing step is undone. -/
theorem createSwapChain_clean_iff
    {state : State}
    (fails : ∀ after created,
      state.createSwapChain call answers ≠ some (after, .ok created)) :
    (∃ eError,
      state.createSwapChain call answers = some (state, .error eError)) ↔
      Undoable call answers := by
  unfold State.createSwapChain at fails ⊢
  cases isChain : answers.psSwapChain with
  | none => exact iff_of_false nofun fun undoable => undoable.swapChain isChain
  | some psSwapChain =>
    rcases @State.createCommandQueueKM_cases
        (state.acquire (.swapChain psSwapChain)) answers.queue with
      ⟨made, queue, makes⟩ | ⟨notMade, eError, stops⟩
    · obtain ⟨syncs, done, runs, counted, isDone⟩ :=
        @State.allocSyncInfos_runs (state.opened psSwapChain queue)
          answers.syncs call.ui32BufferCount.toNat 0
      have makes : (state.acquire (.swapChain psSwapChain)).createCommandQueueKM
          answers.queue = (state.opened psSwapChain queue, .ok queue) := makes
      have exits := @State.errorExit_clean_iff state syncs counted
        psSwapChain queue answers.destroyLocks
      have lockOf : Undoable call answers → answers.destroyLocks = true :=
        fun undoable => undoable.lock made
      simp only [isChain, makes, runs] at fails ⊢
      cases done with
      | false =>
        have notAll : ¬∀ i < call.ui32BufferCount.toNat,
            (answers.syncs i).Made := fun all =>
          absurd (isDone.mpr fun j below => by simpa using all j below)
            nofun
        exact (exits _).trans ⟨fun locks => ⟨by simp [isChain],
          fun _ => locks, fun _ all => absurd all notAll⟩, lockOf⟩
      | true =>
        have all : ∀ i < call.ui32BufferCount.toNat,
            (answers.syncs i).Made := fun i below => by
          simpa using isDone.mp rfl i below
        cases isInfo : answers.pfnGetDCInfo with
        | error eError =>
          refine iff_of_false ?_ fun undoable => ?_
          · rintro ⟨_, same⟩
            exact State.opened_ne
              (congrArg Prod.fst (Option.some.inj same))
          · obtain ⟨_, isOk, _⟩ := undoable.driver made all
            cases isInfo.symm.trans isOk
        | ok =>
          unfold State.createExtSwapChain at fails ⊢
          cases isExt : answers.pfnCreateDCSwapChain with
          | error eError =>
            exact (exits _).trans ⟨fun locks => ⟨by simp [isChain],
              fun _ => locks, fun _ _ => ⟨eError, isInfo, isExt⟩⟩,
              lockOf⟩
          | ok ext =>
            simp only [isInfo, isExt] at fails ⊢
            refine iff_of_false ?_ fun undoable => ?_
            · cases isRef : answers.psSwapChainRef with
              | none => exact State.errorExit_ext counted _ _ _ _ _
              | some psSwapChainRef =>
                simp only [isRef, State.createDCSwapChainRefKM]
                  at fails
                exact absurd rfl (fails _ _)
            · obtain ⟨_, _, isError⟩ := undoable.driver made all
              cases isExt.symm.trans isError
    · simp only [stops]
      refine iff_of_true ⟨eError, ?_⟩ ⟨by simp [isChain],
        fun made => absurd made notMade, fun made => absurd made notMade⟩
      simp [State.failsWith, State.errorExit, State.acquire, State.release,
        State.hold_zero]

/-- A creation that fails leaves everything as it was exactly if it does not
get to make a new swap chain, or the failing step is undone. -/
theorem createDCSwapChainKM_failsCleanly_iff
    {state : State}
    (fails : call.Fails answers state) :
    call.FailsCleanly answers state ↔
      (call.Creates → Undoable call answers) := by
  unfold CreateCall.Fails at fails
  unfold CreateCall.FailsCleanly
  unfold State.createDCSwapChainKM at fails ⊢
  split_ifs at fails ⊢ with pointers tooMany tooFew query
  · exact iff_of_true ⟨_, rfl⟩ fun creates =>
      absurd creates.few (Nat.not_le_of_lt tooMany)
  · exact iff_of_true ⟨_, rfl⟩ fun creates =>
      absurd creates.enough (Nat.not_le_of_lt tooFew)
  · refine iff_of_true ?_ fun creates => absurd creates.new query
    unfold State.querySwapChain at fails ⊢
    cases found : state.psDCSwapChainShared.find? fun chain =>
        chain.ui32SwapChainID = call.ui32SwapChainID with
    | none => exact ⟨_, rfl⟩
    | some chain =>
      cases isRef : answers.psSwapChainRef with
      | none => exact ⟨_, rfl⟩
      | some psSwapChainRef =>
        simp only [found, isRef, State.createDCSwapChainRefKM] at fails
        exact absurd rfl (fails _ _)
  · rw [createSwapChain_clean_iff fails]
    exact ⟨fun undoable _ => undoable, fun undoable => undoable
      ⟨pointers, Nat.le_of_not_lt tooMany, Nat.le_of_not_lt tooFew,
        not_not.mp query⟩⟩
  · exact iff_of_true ⟨_, rfl⟩ fun creates => absurd creates.pointers pointers

/-- A creation with three buffers in which everything is made. -/
def threeBuffers : CreateCall where
  pointers := true
  ui32Flags := 0
  ui32BufferCount := 3
  ui32SwapChainID := 0

/-- The driver makes a swap chain, but there is no memory for the reference. -/
def noReference : CreateAnswers where
  psSwapChain := some 1
  queue := ⟨some 2, some 3, true⟩
  syncs := fun i => ⟨some (10 + i), some (20 + i)⟩
  pfnGetDCInfo := .ok ()
  pfnCreateDCSwapChain := .ok (4, 1)
  psSwapChainRef := none
  hResItem := none
  destroyLocks := true

/-- The sync info of the third buffer cannot be made. -/
def noThirdSync : CreateAnswers :=
  { noReference with
    syncs := fun i => ⟨some (10 + i), if i < 2 then some (20 + i) else none⟩ }

theorem createDCSwapChainKM_failsCleanly_iff_noThirdSync :
    threeBuffers.FailsCleanly noThirdSync ⟨0, [], []⟩ := by
  refine (createDCSwapChainKM_failsCleanly_iff ?_).mpr fun _ =>
    ⟨nofun, fun _ => rfl, fun _ all => absurd rfl (all 2 (by decide)).2⟩
  rintro after created ⟨⟩

/-- The swap chain of the driver is left. -/
theorem createDCSwapChainKM_leaksExtSwapChain :
    ¬ ∀ (call : CreateCall) (answers : CreateAnswers) (state : State),
      call.Fails answers state → call.FailsCleanly answers state := by
  intro clean
  obtain ⟨eError, same⟩ := clean threeBuffers noReference ⟨0, [], []⟩
    (by rintro after created ⟨⟩)
  have held : some (1 : Int) = some 0 :=
    congrArg (Option.map fun returned : State × Except PvrsrvError Created =>
      returned.1.held (.extSwapChain 4)) same
  exact absurd held (by decide)

end PvrServices.DisplayClass
