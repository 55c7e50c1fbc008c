import PvrServices.Sgx.ContextPatching

/-!
# What the patches of hardware contexts touch

A context keeps a block of its own as long as its `uAllocSize`.  So the test of
the priority calls keeps them inside the block and refuses one field that is
inside, and a registration is right only when the user's offset happens to be.
-/

namespace PvrServices.SgxContext

open Function (update update_of_ne update_self)
open Resman
open Option (isSome_iff_exists map_some mem_def mem_some_iff not_mem_none
  some_ne_none)

/-! ## What is allocated -/

/-- Every context names a block of its own, as long as its `uAllocSize`. -/
structure ContextState.WellFormed (state : ContextState) : Prop where
  allocated : ∀ handle, ∀ cleanup ∈ state.contexts handle,
    state.blocks cleanup.psHWContextMemInfo.pvLinAddrKM =
      some cleanup.psHWContextMemInfo.uAllocSize.toNat
  distinct : ∀ handle, ∀ cleanup ∈ state.contexts handle,
    ∀ other, ∀ otherCleanup ∈ state.contexts other,
      cleanup.psHWContextMemInfo.pvLinAddrKM =
        otherCleanup.psHWContextMemInfo.pvLinAddrKM → handle = other

variable {state : ContextState} {length handle : Nat} {kind : ContextKind}
  {cleanup : Cleanup} {ui32OffsetOfPriorityField : BitVec 32}

section

variable (wellFormed : state.WellFormed)
include wellFormed

theorem ContextState.WellFormed.store
    (stores : List Store) :
    (state.store stores).WellFormed :=
  ⟨wellFormed.allocated, wellFormed.distinct⟩

/-- A context with a fresh handle and a fresh block is added. -/
theorem ContextState.WellFormed.adopt
    (psCleanup : Nat)
    (cleanup : Cleanup)
    (freeBlock :
      state.blocks cleanup.psHWContextMemInfo.pvLinAddrKM = none) :
    ({ state with
      blocks := update state.blocks
        cleanup.psHWContextMemInfo.pvLinAddrKM
        (some cleanup.psHWContextMemInfo.uAllocSize.toNat)
      contexts := update state.contexts psCleanup
        (some cleanup) } : ContextState).WellFormed := by
  have apart : ∀ handle, ∀ other ∈ state.contexts handle,
      other.psHWContextMemInfo.pvLinAddrKM ≠
        cleanup.psHWContextMemInfo.pvLinAddrKM := by
    intro handle other otherMem same
    have allocated := wellFormed.allocated handle other otherMem
    rw [same, freeBlock] at allocated
    exact some_ne_none _ allocated.symm
  constructor
  · intro handle found foundMem
    by_cases new : handle = psCleanup
    · subst new
      simp only [update_self, mem_some_iff] at foundMem
      subst foundMem
      exact update_self _ _ _
    · simp only [update_of_ne new] at foundMem
      simp only [update_of_ne (apart handle found foundMem)]
      exact wellFormed.allocated handle found foundMem
  · intro handle found foundMem other otherFound otherMem same
    by_cases new : handle = psCleanup
    · by_cases otherNew : other = psCleanup
      · rw [new, otherNew]
      · subst new
        simp only [update_self, mem_some_iff] at foundMem
        simp only [update_of_ne otherNew] at otherMem
        subst foundMem
        exact absurd same.symm (apart other otherFound otherMem)
    · simp only [update_of_ne new] at foundMem
      by_cases otherNew : other = psCleanup
      · subst otherNew
        simp only [update_self, mem_some_iff] at otherMem
        subst otherMem
        exact absurd same (apart handle found foundMem)
      · simp only [update_of_ne otherNew] at otherMem
        exact wellFormed.distinct handle found foundMem other otherFound
          otherMem same

/-- A context is dropped together with its block. -/
theorem ContextState.WellFormed.unregister
    (psCleanup : Nat) :
    (unregisterHWContext psCleanup state).WellFormed := by
  cases registered : state.contexts psCleanup with
  | none =>
    rw [unregisterHWContext, registered]
    exact wellFormed
  | some cleanup =>
    have kept : ∀ handle found,
        update state.contexts psCleanup none handle =
            some found →
          handle ≠ psCleanup ∧ state.contexts handle = some found := by
      intro handle found foundEq
      have other : handle ≠ psCleanup := by
        intro same
        rw [same, update_self] at foundEq
        exact some_ne_none _ foundEq.symm
      exact ⟨other, by rwa [update_of_ne other] at foundEq⟩
    rw [unregisterHWContext, registered]
    constructor
    · intro handle found foundMem
      have before := kept handle found foundMem
      have apart : found.psHWContextMemInfo.pvLinAddrKM ≠
          cleanup.psHWContextMemInfo.pvLinAddrKM := fun same =>
        before.1 (wellFormed.distinct handle found before.2 psCleanup
          cleanup registered same)
      simp only [update_of_ne apart]
      exact wellFormed.allocated handle found before.2
    · intro handle found foundMem other otherFound otherMem same
      exact wellFormed.distinct handle found (kept handle found foundMem).2
        other otherFound (kept other otherFound otherMem).2 same

end

/-- A registration leaves the contexts and blocks as they are, or adds one
context with its block. -/
theorem registerHWContext_state
    (kind : ContextKind)
    (services : RegisterServices)
    (ui32HWContextSize ui32OffsetToPDDevPAddr : BitVec 32)
    (state : ContextState) :
    let outcome := registerHWContext kind services ui32HWContextSize
      ui32OffsetToPDDevPAddr state
    outcome.state = state.store outcome.stores ∨
      ∃ psCleanup ∈ services.psCleanup, ∃ pair ∈ services.deviceMem,
        ∃ psResItem,
          let cleanup : Cleanup :=
            ⟨kind, ⟨pair.1, pair.2, ui32HWContextSize⟩, psResItem⟩
          outcome.state = { state.store outcome.stores with
            blocks := update state.blocks pair.1 (some ui32HWContextSize.toNat)
            contexts := update state.contexts psCleanup (some cleanup) } := by
  intro outcome
  simp only [outcome, registerHWContext, allocDeviceMemKM]
  cases services.psCleanup with
  | none => exact .inl rfl
  | some psCleanup =>
    by_cases empty : ui32HWContextSize = 0
    · simp only [if_pos empty]
      exact .inl rfl
    · simp only [if_neg empty]
      cases services.deviceMem with
      | none => exact .inl rfl
      | some pair =>
        by_cases copy : services.copyFromUser = pvrsrvOk
        · simp only [map_some, copy, ne_eq, not_true_eq_false, if_false]
          cases services.sPDDevPAddr with
          | none => exact .inl rfl
          | some sPDDevPAddr =>
            cases services.psResItem with
            | none => exact .inl rfl
            | some psResItem =>
              exact .inr ⟨psCleanup, rfl, pair, rfl, psResItem, rfl⟩
        · simp only [map_some, ne_eq, copy, not_false_eq_true, if_true]
          exact .inl trivial

/-- A priority call only stores. -/
theorem setContextPriorityBW_state
    (kind : ContextKind)
    (lookupError : PvrsrvError)
    (handle : Nat)
    (ui32Priority ui32OffsetOfPriorityField : BitVec 32)
    (state : ContextState) :
    let outcome := setContextPriorityBW kind lookupError handle ui32Priority
      ui32OffsetOfPriorityField state
    outcome.state = state.store outcome.stores := by
  intro outcome
  simp only [outcome, setContextPriorityBW]
  cases lookupContext kind handle state with
  | none => rfl
  | some cleanup =>
    simp only [setContextPriority]
    by_cases refused : cleanup.psHWContextMemInfo.uAllocSize.setWidth 64 ≤
        ui32OffsetOfPriorityField.setWidth 64 + (4 : BitVec 64)
    · simp only [if_pos refused]
      rfl
    · simp only [if_neg refused]

theorem ContextState.WellFormed.after
    (wellFormed : state.WellFormed)
    {call : PatchCall}
    (fresh : call.Fresh state) :
    (call.after state).WellFormed := by
  cases call with
  | register kind services ui32HWContextSize ui32OffsetToPDDevPAddr =>
    simp only [PatchCall.after]
    rcases registerHWContext_state kind services ui32HWContextSize
        ui32OffsetToPDDevPAddr state with
      same | ⟨psCleanup, _, pair, pairMem, psResItem, added⟩
    · rw [same]
      exact wellFormed.store _
    · rw [added]
      exact (wellFormed.store _).adopt psCleanup
        ⟨kind, ⟨pair.1, pair.2, ui32HWContextSize⟩, psResItem⟩
        (fresh.2 pair pairMem)
  | unregister psCleanup => exact wellFormed.unregister psCleanup
  | setPriority kind lookupError handle ui32Priority
        ui32OffsetOfPriorityField =>
    simp only [PatchCall.after]
    rw [setContextPriorityBW_state]
    exact wellFormed.store _

theorem Reachable.wellFormed
    (reachable : Reachable state) :
    state.WellFormed := by
  induction reachable with
  | initial memory =>
    constructor
    · intro handle cleanup cleanupMem
      exact absurd cleanupMem (not_mem_none _)
    · intro handle cleanup cleanupMem
      exact absurd cleanupMem (not_mem_none _)
  | call call before fresh ih => exact ih.after fresh

/-! ## What is stored -/

/-- A copy of at most the length of a block to its base is in the block. -/
theorem copyBytes_base_inBlock
    (base : BitVec 64)
    {pSrc : List (BitVec 8)}
    (fits : pSrc.length ≤ length)
    (small : length < 2 ^ 64) :
    ∀ store ∈ copyBytes base pSrc, InBlock (base, length) store.address := by
  cases pSrc with
  | nil =>
    intro store stored
    exact absurd stored List.not_mem_nil
  | cons byte pSrc =>
    have inside : ∀ store ∈
        copyBytes (base + BitVec.ofNat 64 0) (byte :: pSrc),
          InBlock (base, length) store.address :=
      (copyBytes_inBlock_iff (Nat.lt_of_lt_of_eq
        (Nat.succ_pos _) List.length_cons.symm) (by omega)).mpr (by omega)
    simpa using inside

/-- A four-byte patch at a 32-bit offset. -/
theorem patch_inBlock_iff
    {base : BitVec 64}
    (offset : BitVec 32)
    (word : BitVec 64) :
    (∀ store ∈ copyBytes (base + offset.setWidth 64) (littleEndian 4 word),
        InBlock (base, length) store.address) ↔
      offset.toNat + 4 ≤ length := by
  have small := offset.isLt
  have extended : offset.setWidth 64 = BitVec.ofNat 64 offset.toNat := by
    apply BitVec.eq_of_toNat_eq
    rw [BitVec.toNat_setWidth, BitVec.toNat_ofNat]
  have width := littleEndian_length 4 word
  rw [extended, copyBytes_inBlock_iff (by omega) (by omega), width]

/-- What a registration stores: the bytes it gets over from user space, and
the page directory's address behind them when it gets to its patch. -/
theorem registerHWContext_stores
    (kind : ContextKind)
    (services : RegisterServices)
    (ui32HWContextSize ui32OffsetToPDDevPAddr : BitVec 32)
    (state : ContextState) :
    let outcome := registerHWContext kind services ui32HWContextSize
      ui32OffsetToPDDevPAddr state
    let pSrc := services.userBytes.take ui32HWContextSize.toNat
    (¬ PatchCall.ReachesPatch services ui32HWContextSize ∧
        (outcome.stores = [] ∨ ∃ pair ∈ services.deviceMem,
          outcome.stores = copyBytes pair.1 pSrc)) ∨
      (PatchCall.ReachesPatch services ui32HWContextSize ∧
        ∃ pair ∈ services.deviceMem, ∃ sPDDevPAddr,
          outcome.stores = copyBytes pair.1 pSrc ++
            copyBytes (pair.1 + ui32OffsetToPDDevPAddr.setWidth 64)
              (littleEndian 4 sPDDevPAddr)) := by
  intro outcome pSrc
  simp only [outcome, registerHWContext, allocDeviceMemKM,
    PatchCall.ReachesPatch]
  cases services.psCleanup with
  | none => exact .inl ⟨by simp, by simp⟩
  | some psCleanup =>
    by_cases empty : ui32HWContextSize = 0
    · simp only [if_pos empty]
      exact .inl ⟨by simp [empty], by simp⟩
    · simp only [if_neg empty]
      cases services.deviceMem with
      | none => exact .inl ⟨by simp, by simp⟩
      | some pair =>
        by_cases copy : services.copyFromUser = pvrsrvOk
        · simp only [map_some, copy, ne_eq, not_true_eq_false, if_false]
          cases services.sPDDevPAddr with
          | none => exact .inl ⟨by simp, .inr ⟨pair, rfl, rfl⟩⟩
          | some sPDDevPAddr =>
            refine .inr ⟨by simpa using empty, pair, rfl, sPDDevPAddr, ?_⟩
            cases services.psResItem with
            | none => rfl
            | some psResItem => rfl
        · simp only [map_some, ne_eq, copy, not_false_eq_true, if_true]
          exact .inl ⟨by simp, .inr ⟨pair, rfl, rfl⟩⟩

/-- A registration whose services succeed returns a context. -/
theorem registerHWContext_returned
    (kind : ContextKind)
    {services : RegisterServices}
    {ui32HWContextSize : BitVec 32}
    (ui32OffsetToPDDevPAddr : BitVec 32)
    (state : ContextState)
    (succeed : PatchCall.ServicesSucceed services)
    (nonempty : ui32HWContextSize ≠ 0) :
    (registerHWContext kind services ui32HWContextSize
      ui32OffsetToPDDevPAddr state).returned.isSome := by
  obtain ⟨cleanup, memory, copied, directory, item⟩ := succeed
  obtain ⟨psCleanup, cleanupEq⟩ := isSome_iff_exists.mp cleanup
  obtain ⟨pair, memoryEq⟩ := isSome_iff_exists.mp memory
  obtain ⟨sPDDevPAddr, directoryEq⟩ := isSome_iff_exists.mp directory
  obtain ⟨psResItem, itemEq⟩ := isSome_iff_exists.mp item
  simp only [registerHWContext, allocDeviceMemKM, cleanupEq, memoryEq,
    directoryEq, itemEq, copied, if_neg nonempty, map_some, ne_eq,
    not_true_eq_false, if_false, Option.isSome_some]

/-- A registration is right exactly when its patch, if it gets there, is inside
the size. -/
theorem register_right_iff
    (kind : ContextKind)
    (services : RegisterServices)
    (ui32HWContextSize ui32OffsetToPDDevPAddr : BitVec 32)
    (state : ContextState) :
    let call := PatchCall.register kind services ui32HWContextSize
      ui32OffsetToPDDevPAddr
    call.StaysInside state ∧ call.AcceptsInside state ↔
      call.FieldInside state := by
  intro call
  have sizeBound := ui32HWContextSize.isLt
  have copied : ∀ pair ∈ services.deviceMem, ∀ store ∈
      copyBytes pair.1 (services.userBytes.take ui32HWContextSize.toNat),
        ∃ block ∈ call.block state, InBlock block store.address := by
    intro pair pairMem store stored
    refine ⟨(pair.1, ui32HWContextSize.toNat), ?_, ?_⟩
    · simp only [call, PatchCall.block, mem_def.mp pairMem]
      rfl
    · exact copyBytes_base_inBlock pair.1 (List.length_take_le _ _)
        (by omega) store stored
  have accepts : call.AcceptsInside state := by
    intro block blockMem offset offsetMem fits succeed
    refine registerHWContext_returned kind _ state succeed ?_
    intro empty
    obtain ⟨pair, -, rfl⟩ := Option.map_eq_some_iff.mp blockMem
    rw [empty] at fits
    exact absurd fits (by simp)
  simp only [accepts, and_true]
  rcases registerHWContext_stores kind services ui32HWContextSize
      ui32OffsetToPDDevPAddr state with
    ⟨stops, none | ⟨pair, pairMem, only⟩⟩ |
      ⟨reaches, pair, pairMem, sPDDevPAddr, both⟩
  · refine iff_of_true ?_ fun reaches => absurd reaches stops
    intro store stored
    simp only [call, PatchCall.stores, none] at stored
    exact absurd stored List.not_mem_nil
  · refine iff_of_true ?_ fun reaches => absurd reaches stops
    intro store stored
    simp only [call, PatchCall.stores, only] at stored
    exact copied pair pairMem store stored
  · have block : call.block state =
        some (pair.1, ui32HWContextSize.toNat) := by
      simp only [call, PatchCall.block, mem_def.mp pairMem]
      rfl
    have patched : (∀ store ∈ copyBytes
          (pair.1 + ui32OffsetToPDDevPAddr.setWidth 64)
          (littleEndian 4 sPDDevPAddr),
            InBlock (pair.1, ui32HWContextSize.toNat) store.address) ↔
        ui32OffsetToPDDevPAddr.toNat + 4 ≤ ui32HWContextSize.toNat :=
      patch_inBlock_iff _ _
    constructor
    · intro inside _
      apply patched.mp
      intro store stored
      have storedMem : store ∈ call.stores state := by
        simp only [call, PatchCall.stores, both]
        exact List.mem_append_right _ stored
      obtain ⟨found, foundMem, held⟩ := inside store storedMem
      rw [block, mem_some_iff] at foundMem
      rwa [foundMem]
    · intro field store stored
      simp only [call, PatchCall.stores, both, List.mem_append] at stored
      cases stored with
      | inl copy => exact copied pair pairMem store copy
      | inr patch =>
        refine ⟨(pair.1, ui32HWContextSize.toNat), block, ?_⟩
        exact patched.mpr (field reaches) store patch

/-- The test of the priority calls on numbers. -/
theorem priority_test_iff
    (uAllocSize offset : BitVec 32) :
    uAllocSize.setWidth 64 ≤ offset.setWidth 64 + (4 : BitVec 64) ↔
      uAllocSize.toNat ≤ offset.toNat + 4 := by
  have sizeBound := uAllocSize.isLt
  have offsetBound := offset.isLt
  have four : (4 : BitVec 64).toNat = 4 := rfl
  rw [BitVec.le_def, BitVec.toNat_add, BitVec.toNat_setWidth,
    BitVec.toNat_setWidth, four]
  omega

section

variable (lookupError : PvrsrvError) (ui32Priority : BitVec 32)
  (found : lookupContext kind handle state = some cleanup)
include lookupError ui32Priority found

/-- A priority call whose field ends at the end of the context or behind it is
refused. -/
theorem setContextPriorityBW_refused
    (refused : cleanup.psHWContextMemInfo.uAllocSize.toNat ≤
      ui32OffsetOfPriorityField.toNat + 4) :
    setContextPriorityBW kind lookupError handle ui32Priority
        ui32OffsetOfPriorityField state =
      ⟨pvrsrvErrorInvalidParams, [], state⟩ := by
  rw [setContextPriorityBW, found]
  exact if_pos ((priority_test_iff _ _).mpr refused)

/-- Any other priority is stored. -/
theorem setContextPriorityBW_stored
    (inside : ui32OffsetOfPriorityField.toNat + 4 <
      cleanup.psHWContextMemInfo.uAllocSize.toNat) :
    let stores := copyBytes
      (cleanup.psHWContextMemInfo.pvLinAddrKM +
        ui32OffsetOfPriorityField.setWidth 64)
      (littleEndian 4 (ui32Priority.setWidth 64))
    setContextPriorityBW kind lookupError handle ui32Priority
        ui32OffsetOfPriorityField state =
      ⟨pvrsrvOk, stores, state.store stores⟩ := by
  intro stores
  rw [setContextPriorityBW, found]
  exact if_neg fun le =>
    absurd ((priority_test_iff _ _).mp le) (Nat.not_le.mpr inside)

end

/-- A priority call is right exactly when its field is not the last of the
context. -/
theorem setPriority_right_iff
    (wellFormed : state.WellFormed)
    (kind : ContextKind)
    {lookupError : PvrsrvError}
    (handle : Nat)
    (ui32Priority ui32OffsetOfPriorityField : BitVec 32) :
    let call := PatchCall.setPriority kind lookupError handle ui32Priority
      ui32OffsetOfPriorityField
    call.StaysInside state ∧ call.AcceptsInside state ↔
      call.FieldInside state := by
  intro call
  cases found : lookupContext kind handle state with
  | none =>
    have noBlock : call.block state = none := by
      simp only [call, PatchCall.block, found]
      rfl
    refine iff_of_true ⟨?_, ?_⟩ ?_
    · intro store stored
      simp only [call, PatchCall.stores, setContextPriorityBW, found]
        at stored
      exact absurd stored List.not_mem_nil
    · intro block blockMem
      rw [noBlock] at blockMem
      exact absurd blockMem (not_mem_none _)
    · intro block blockMem
      rw [show PatchCall.block state _ = none from noBlock] at blockMem
      exact absurd blockMem (not_mem_none _)
  | some cleanup =>
    have registered : cleanup ∈ state.contexts handle :=
      (Option.filter_eq_some_iff.mp found).1
    have allocated := wellFormed.allocated handle cleanup registered
    have block : call.block state =
        some (cleanup.psHWContextMemInfo.pvLinAddrKM,
          cleanup.psHWContextMemInfo.uAllocSize.toNat) := by
      simp only [call, PatchCall.block, found]
      change (state.blocks cleanup.psHWContextMemInfo.pvLinAddrKM).bind
        _ = _
      rw [allocated]
      rfl
    have right : call.FieldInside state ↔
        ui32OffsetOfPriorityField.toNat + 4 ≠
          cleanup.psHWContextMemInfo.uAllocSize.toNat := by
      change (∀ place ∈ call.block state, _) ↔ _
      simp only [block, mem_some_iff, forall_eq']
    rw [right]
    rcases Nat.lt_or_ge (ui32OffsetOfPriorityField.toNat + 4)
        cleanup.psHWContextMemInfo.uAllocSize.toNat with inside | refused
    · have outcome := setContextPriorityBW_stored lookupError ui32Priority
        found inside
      refine iff_of_true ⟨?_, ?_⟩ (Nat.ne_of_lt inside)
      · intro store stored
        simp only [call, PatchCall.stores, outcome] at stored
        refine ⟨_, block, ?_⟩
        exact (patch_inBlock_iff _ _).mpr (Nat.le_of_lt inside) store stored
      · intro place _ offset _ _
        simp only [call, PatchCall.Accepted, outcome]
    · have outcome := setContextPriorityBW_refused lookupError ui32Priority
        found refused
      constructor
      · rintro ⟨-, accepts⟩ last
        have accepted := accepts _ block _ rfl (Nat.le_of_eq last)
        simp only [call, PatchCall.Accepted, outcome] at accepted
        exact absurd accepted (by decide)
      · intro notLast
        constructor
        · intro store stored
          simp only [call, PatchCall.stores, outcome] at stored
          exact absurd stored List.not_mem_nil
        · intro place placeMem offset offsetMem fits
          rw [block, mem_some_iff] at placeMem
          simp only [call, PatchCall.offset, mem_some_iff]
            at offsetMem
          subst placeMem offsetMem
          exact absurd (Nat.le_antisymm fits refused) notLast

/-- In every reachable state a call stores inside its context and accepts the
fields inside it exactly when a registration's field is inside the size and a
priority field is not the last one. -/
theorem contextPatch_right_iff
    {state : ContextState}
    (reachable : Reachable state)
    (call : PatchCall) :
    call.StaysInside state ∧ call.AcceptsInside state ↔
      call.FieldInside state := by
  cases call with
  | register kind services ui32HWContextSize ui32OffsetToPDDevPAddr =>
    exact register_right_iff kind services ui32HWContextSize
      ui32OffsetToPDDevPAddr state
  | unregister psCleanup =>
    refine iff_of_true ⟨?_, ?_⟩ trivial
    · intro store stored
      exact absurd stored List.not_mem_nil
    · intro block blockMem
      exact absurd blockMem (not_mem_none _)
  | setPriority kind lookupError handle ui32Priority
        ui32OffsetOfPriorityField =>
    exact setPriority_right_iff reachable.wellFormed kind handle
      ui32Priority ui32OffsetOfPriorityField

/-- Services that all succeed. -/
def allSucceed : RegisterServices where
  psCleanup := some 1
  deviceMem := some (0x1000, 0x2000)
  userBytes := List.replicate 8 0
  copyFromUser := pvrsrvOk
  sPDDevPAddr := some 0x4000
  psResItem := some 2

/-- The state after a context of eight bytes with its page directory at
offset 0. -/
theorem registered_reachable :
    Reachable ((PatchCall.register .render allSucceed 8 0).after
      (ContextState.initial fun _ => 0)) :=
  .call _ (.initial _) ⟨fun _ _ => rfl, fun _ _ => rfl⟩

/-- The priority field at offset 0 of a context of eight bytes. -/
theorem contextPatch_right_iff_registered :
    let state := (PatchCall.register .render allSucceed 8 0).after
      (ContextState.initial fun _ => 0)
    let call := PatchCall.setPriority .render 1 1 3 0
    call.FieldInside state ∧ call.StaysInside state ∧
      call.AcceptsInside state := by
  intro state call
  have field : call.FieldInside state := by
    intro place placeMem
    have block : call.block state = some (0x1000, 8) := rfl
    rw [show PatchCall.block state _ = some (0x1000, 8) from block,
      mem_some_iff] at placeMem
    rw [← placeMem]
    decide
  exact ⟨field, (contextPatch_right_iff registered_reachable call).mpr field⟩

/-- A registration of eight bytes stores the page directory's address behind
the context, and the priority field at the end of a context is refused. -/
theorem contextPatch_wrong :
    let before := ContextState.initial fun _ => 0
    let outside := PatchCall.register .render allSucceed 8 8
    let after := (PatchCall.register .render allSucceed 8 0).after before
    let last := PatchCall.setPriority .render 1 1 3 4
    (Reachable before ∧ outside.Fresh before ∧
        ¬ outside.StaysInside before) ∧
      Reachable after ∧ ¬ last.AcceptsInside after := by
  intro before outside after last
  refine ⟨⟨.initial _, ⟨fun _ _ => rfl, fun _ _ => rfl⟩, ?_⟩,
    registered_reachable, ?_⟩
  · intro inside
    have stored : (⟨0x1008, 0⟩ : Store) ∈ outside.stores before := by
      decide
    obtain ⟨block, blockMem, held⟩ := inside _ stored
    have found : outside.block before = some (0x1000, 8) := rfl
    rw [found, mem_some_iff] at blockMem
    subst blockMem
    exact absurd held (by decide)
  · intro accepts
    have accepted : pvrsrvErrorInvalidParams = pvrsrvOk :=
      accepts (0x1000, 8) rfl 4 rfl (by decide)
    exact absurd accepted (by decide)

end PvrServices.SgxContext
