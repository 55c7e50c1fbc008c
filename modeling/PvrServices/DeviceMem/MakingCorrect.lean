import PvrServices.DeviceMem.Making

/-!
# When a failing call gives everything back

A call that fails gives back what it has acquired, unless it is an allocation
that the resource manager refuses: the mem info is freed although the caller
has been given it, and the sync info stays.  Wraps and mappings do not fail
when they are refused.
-/

namespace PvrServices.DeviceMem

open BufferManager (Address)
open Resman (pvrsrvOk)

/-! ## What is to hold -/

/-- What is held is what was held before, with the same references and the
same items, and the pointer of the caller does not refer to memory that has
been given back. -/
structure State.Clean (held : List Resource) (after : State) : Prop where
  restored : after.held.Perm held
  output : ∀ psMemInfo, after.output = .memInfo psMemInfo →
    .memInfo psMemInfo ∉ after.released

/-- The call returns an error. -/
def MakeCall.Fails (call : MakeCall) (held : List Resource) : Prop :=
  (call.perform held).2 ≠ pvrsrvOk

instance (call : MakeCall) (held : List Resource) :
    Decidable (call.Fails held) :=
  inferInstanceAs (Decidable (_ ≠ _))

/-- The call leaves everything as it was. -/
def MakeCall.FailsCleanly (call : MakeCall) (held : List Resource) : Prop :=
  (call.perform held).1.Clean held

/-! ## When it holds -/

/-- A mem info is made. -/
def MemAnswers.Made (answers : MemAnswers) : Prop :=
  answers.psMemInfo ≠ none ∧ answers.hBuffer ≠ none

/-- A sync info is made. -/
def SyncAnswers.Made (answers : SyncAnswers) : Prop :=
  answers.psKernelSyncInfo ≠ none ∧ answers.syncData.Made

namespace State

/-- The same is held, and the pointer of the caller is as it was. -/
structure Undone (state after : State) : Prop where
  held : after.held = state.held
  output : after.output = state.output

section Undoing

variable {state after : State}

/-- A call that is undone before it has written a mem info through the pointer
is clean. -/
theorem Undone.clean
    (undone : Undone state after)
    (unwritten : ∀ psMemInfo, state.output ≠ .memInfo psMemInfo) :
    after.Clean state.held where
  restored := List.Perm.of_eq undone.held
  output := fun psMemInfo written =>
    absurd (undone.output.symm.trans written) (unwritten psMemInfo)

/-- What was acquired last is given back. -/
theorem Undone.release
    {resource : Resource}
    (undone : Undone (state.acquire resource) after) :
    Undone state (after.release resource) where
  held := by
    rw [State.release, undone.held]
    exact List.erase_cons_head _ _
  output := undone.output

/-- A mem info is freed with its buffer. -/
theorem Undone.freeDeviceMem
    {memInfo : MemInfo}
    (undone : Undone ((state.acquire (.memInfo memInfo.psMemInfo)).acquire
      (.buffer memInfo.hBuffer)) after) :
    Undone state (after.freeDeviceMem memInfo) :=
  undone.release.release

/-- Nothing has changed. -/
theorem Undone.refl (state : State) : Undone state state :=
  ⟨rfl, rfl⟩

end Undoing

/-- `AllocDeviceMem` is undone, or makes a mem info. -/
theorem allocDeviceMem_cases
    (state : State)
    (answers : MemAnswers) :
    (¬ answers.Made ∧ ∃ after,
      state.allocDeviceMem answers = (after, none) ∧ Undone state after) ∨
    (answers.Made ∧ ∃ memInfo : MemInfo,
      state.allocDeviceMem answers =
        ((state.acquire (.memInfo memInfo.psMemInfo)).acquire
          (.buffer memInfo.hBuffer), some memInfo)) := by
  unfold allocDeviceMem MemAnswers.Made
  cases answers.psMemInfo with
  | none => exact .inl ⟨fun made => made.1 rfl, _, rfl, .refl state⟩
  | some psMemInfo =>
    cases answers.hBuffer with
    | none =>
      exact .inl ⟨fun made => made.2 rfl, _, rfl, (Undone.refl _).release⟩
    | some hBuffer => exact .inr ⟨⟨nofun, nofun⟩, ⟨psMemInfo, hBuffer⟩, rfl⟩

/-- `PVRSRVAllocSyncInfoKM` is undone, or makes a sync info. -/
theorem allocSyncInfoKM_cases
    (state : State)
    (answers : SyncAnswers) :
    (¬ answers.Made ∧ ∃ after,
      state.allocSyncInfoKM answers = (after, none) ∧ Undone state after) ∨
    (answers.Made ∧ ∃ (psKernelSyncInfo : Address) (memInfo : MemInfo),
      state.allocSyncInfoKM answers =
        (((state.acquire (.syncInfo psKernelSyncInfo)).acquire
          (.memInfo memInfo.psMemInfo)).acquire (.buffer memInfo.hBuffer),
        some psKernelSyncInfo)) := by
  unfold allocSyncInfoKM SyncAnswers.Made
  cases answers.psKernelSyncInfo with
  | none => exact .inl ⟨fun made => made.1 rfl, _, rfl, .refl state⟩
  | some psKernelSyncInfo =>
    rcases allocDeviceMem_cases (state.acquire (.syncInfo psKernelSyncInfo))
        answers.syncData with
      ⟨notMade, after, fails, undone⟩ | ⟨made, memInfo, makes⟩
    · simp only [fails]
      exact .inl ⟨fun made => notMade made.2, _, rfl, undone.release⟩
    · simp only [makes]
      exact .inr ⟨⟨nofun, made⟩, psKernelSyncInfo, memInfo, rfl⟩

/-! ## Allocating -/

variable {ui32Flags : BitVec 32} {memInfo : MemInfo}
  {pages : Option AcquiredPages} {call : WrapCall} {answers : WrapAnswers}
  {state : State}

/-- Acquire the pages of a wrap, if there are any. -/
def acquirePages (state : State) (pages : Option AcquiredPages) : State :=
  match pages with
  | none => state
  | some pages =>
    (state.acquire (.addressArray pages.psIntSysPAddr)).acquire
      (.physPages pages.hOSWrapMem)

/-- The pages of a wrap are given back. -/
theorem Undone.errorExitPhase2
    {after : State}
    (undone : Undone (state.acquirePages pages) after) :
    Undone state (after.errorExitPhase2 pages) := by
  cases pages with
  | none => exact undone
  | some pages => exact undone.release.release

end State

/-! ## All calls -/

/-- There is no memory for a buffer. -/
def noBuffer : MakeAnswers where
  memInfo := { psMemInfo := some 1, hBuffer := none }
  syncInfo := { psKernelSyncInfo := none, syncData := ⟨none, none⟩ }
  hResItem := none

end PvrServices.DeviceMem
