import PvrServices.BufferManager.Creation
import PvrServices.BufferManager.Effects

/-!
# When a failing creation gives everything back

A creation that fails gives back what it has acquired as long as it fails
before it has a segment of the import arena, or a device range that nothing
undoes, and finds no other wrap of its memory in the hash table.
A wrap hands out the buffer that it does in the runs of all buffers.
-/

namespace PvrServices.BufferManager.Creation

open WrapPages (pvrsrvMemDummy)
open XProc (pvrsrvMemXProc)
open CreateCall (perform)

/-! ## What is to hold -/

/-- What is held, and the hash table, are as before. -/
def State.Restored (state after : State) : Prop :=
  after.held.Perm state.held ∧ after.pBufferHash = state.pBufferHash

/-- The creation returns that it has failed, with everything as before. -/
def CreateCall.FailsCleanly (state : State) (call : CreateCall) : Prop :=
  ∃ after, call.perform state = some (after, none) ∧ state.Restored after

/-! ## When it holds -/

/-- `BM_ImportMemory` obtains no memory at all. -/
def ImportAnswers.Refuses
    (answers : ImportAnswers) (heap : Heap) (uPSize uFlags : BitVec 32) :
    Prop :=
  if uFlags &&& pvrsrvMemXProc ≠ 0 then
    if heap.noncontig then
      State.splitsNoncontig heap uPSize = true ∨
        ∀ hOSMemHandle, answers.shareNoncontig ≠ .shared hOSMemHandle
    else if heap.localmem then
      State.splitsLocal heap uPSize = true ∨ answers.shareLocal = .refused
    else True
  else if heap.noncontig then answers.osAllocPages = none
  else if heap.localmem then answers.raAllocLocal = none
  else True

/-- `BM_ImportMemory` can give the memory back: a shared allocation that was
made once and is found again, pages, or local memory that was reserved, with
an address of the CPU if there are no device addresses for it. -/
def ImportAnswers.Returns (answers : ImportAnswers) (heap : Heap)
    (uPSize uFlags : BitVec 32) : Prop :=
  if uFlags &&& pvrsrvMemXProc ≠ 0 then
    answers.shareFound = true ∧
      if heap.noncontig then heap.localmem = false
      else State.splitsLocal heap uPSize = false ∧
        ∃ hOSMemHandle, answers.shareLocal = .shared hOSMemHandle
  else if heap.noncontig then True
  else ∃ CpuVAddr hOSMemHandle,
    answers.osReservePhys = some (CpuVAddr, hOSMemHandle) ∧
      (CpuVAddr = true ∨ answers.mmuAlloc ≠ none)

/-- `uPSize` of `BM_ImportMemory`. -/
def physicalSize (heap : Heap) (uRequestSize uFlags : BitVec 32) :
    BitVec 32 :=
  if uFlags &&& pvrsrvMemDummy ≠ 0 then heap.ui32DataPageSize
  else hostPagealign uRequestSize

/-- A failing `RA_Alloc` gives back its import: it imports nothing, or memory
that can be given back, before the import is inserted into the arena. -/
def RaAnswers.GivesBack
    (answers : RaAnswers) (heap : Heap) (uSize uFlags uAlignment : BitVec 32) :
    Prop :=
  let uPSize := physicalSize heap (importSize heap uSize uAlignment) uFlags
  answers.first = none ∧
    (answers.imports.pMapping = none ∨
      answers.imports.Refuses heap uPSize uFlags ∨
      answers.imports.Returns heap uPSize uFlags ∧
        (answers.imports.mmuAlloc = none ∨ answers.inserted = false))

/-- A failing `AllocMemory` gives back what it has acquired: it has no
segment of the arena, and no device range that was chosen for it. -/
def CallAnswers.GivesBack
    (answers : CallAnswers) (call : AllocCall)
    (uFlags uAlignment : BitVec 32) :
    Prop :=
  if uFlags &&& pvrsrvMemRamBackedAllocation ≠ 0 then
    uFlags &&& pvrsrvMemUserSuppliedDevvaddr ≠ 0 ∨
      (call.hDevMemHeap.noncontig = false ∧
        call.hDevMemHeap.localmem = false) ∨
      answers.segment.GivesBack call.hDevMemHeap call.uSize uFlags uAlignment
  else uFlags &&& pvrsrvMemUserSuppliedDevvaddr ≠ 0 ∨ answers.mmuAlloc = none

/-- A failing `WrapMemory` gives back what it has acquired: its area does not
fail to be registered, and once it has device addresses it gets the handle of
a part of the area. -/
def WrapCall.GivesBack (call : WrapCall) (answers : WrapAnswers) : Prop :=
  answers.pMapping = none ∨
    if call.area answers = none then
      call.pvCPUVAddr = false ∨ knownMapType call.uFlags = false
    else answers.mmuAlloc = none ∨ call.ui32Offset = 0 ∨
      answers.subHandle ≠ none

/-- A failing creation gives back what it has acquired.  A wrap must find no
buffer under its address. -/
def CreateCall.GivesBack (state : State) : CreateCall → Prop
  | .alloc call answers =>
    answers.pBuf = none ∨ ∀ uFlags, call.pui32Flags = some uFlags →
      answers.GivesBack call uFlags
        (if call.uDevVAddrAlignment = 0 then 1 else call.uDevVAddrAlignment)
  | .wrap call answers =>
    state.pBufferHash.lookup call.sHashAddress = none ∧
      (answers.pBuf = none ∨ call.GivesBack answers)

/-! ## What is left -/

namespace State

/-- What a failing step leaves, with a condition for nothing.  It is not the
memory of a buffer. -/
def Leaves (state after : State) (givesBack : Prop) : Prop :=
  ∃ left : List Resource, after.held = left ++ state.held ∧
    after.pBufferHash = state.pBufferHash ∧ (left = [] ↔ givesBack) ∧
    ∀ pBuf, .buf pBuf ∉ left

variable {state after : State} {givesBack : Prop} {pBuf : Address}
  {backing : Backing} {uSize uAlignment uPSize uFlags devVAddr : BitVec 32}
  {heap : Heap} {answers : ImportAnswers} {left : List Resource}
  {result : Obtained} {call : AllocCall}

/-- Nothing is left where nothing has changed. -/
theorem Leaves.nothing
    (gives : givesBack) :
    Leaves state state givesBack :=
  ⟨[], rfl, rfl, iff_of_true rfl gives, fun _ => List.not_mem_nil⟩

/-- The memory of the buffer is given back after a step that leaves
something. -/
theorem Leaves.releaseBuf
    (leaves : Leaves (state.acquire (.buf pBuf)) after givesBack) :
    Leaves state (after.release (.buf pBuf)) givesBack := by
  obtain ⟨left, held, entries, isNothing, noBuf⟩ := leaves
  refine ⟨left, ?_, entries, isNothing, noBuf⟩
  rw [release, held, List.erase_append_right _ (noBuf pBuf)]
  exact congrArg (left ++ ·) (List.erase_cons_head _ _)

/-! ## Importing -/

/-- What `BM_ImportMemory` has obtained, and how. -/
inductive Obtains
    (heap : Heap) (uPSize uFlags : BitVec 32) (answers : ImportAnswers) :
    List Resource → Obtained → Prop where
  | refused :
      answers.Refuses heap uPSize uFlags →
        Obtains heap uPSize uFlags answers [] .failMappingAlloc
  | kept (left : List Resource) :
      left ≠ [] → (∀ pBuf, .buf pBuf ∉ left) →
        (∀ pMapping, .mapping pMapping ∉ left) →
        ¬ answers.Refuses heap uPSize uFlags →
        ¬ answers.Returns heap uPSize uFlags →
        Obtains heap uPSize uFlags answers left .failMappingAlloc
  | shared (hOSMemHandle : Address) :
      uFlags &&& pvrsrvMemXProc ≠ 0 →
        ¬ answers.Refuses heap uPSize uFlags →
        (answers.Returns heap uPSize uFlags ↔ answers.shareFound = true) →
        Obtains heap uPSize uFlags answers [.share hOSMemHandle]
          (.backing ⟨some (true, hOSMemHandle), 0⟩)
  | sharedTwice (first second : Address) :
      uFlags &&& pvrsrvMemXProc ≠ 0 →
        ¬ answers.Refuses heap uPSize uFlags →
        ¬ answers.Returns heap uPSize uFlags →
        Obtains heap uPSize uFlags answers [.share second, .share first]
          (.backing ⟨some (true, second), 0⟩)
  | pages (hOSMemHandle : Address) :
      ¬ uFlags &&& pvrsrvMemXProc ≠ 0 → heap.noncontig = true →
        ¬ answers.Refuses heap uPSize uFlags →
        answers.Returns heap uPSize uFlags →
        Obtains heap uPSize uFlags answers [.area hOSMemHandle]
          (.backing ⟨some (true, hOSMemHandle), 0⟩)
  | reserved (CpuVAddr : Bool) (hOSMemHandle : Address)
      (sSysPAddr : BitVec 64) :
      ¬ uFlags &&& pvrsrvMemXProc ≠ 0 → heap.noncontig = false →
        heap.localmem = true → ¬ answers.Refuses heap uPSize uFlags →
        (answers.Returns heap uPSize uFlags ↔
          CpuVAddr = true ∨ answers.mmuAlloc ≠ none) →
        Obtains heap uPSize uFlags answers
          [.area hOSMemHandle, .localSegment sSysPAddr]
          (.backing ⟨some (CpuVAddr, hOSMemHandle), sSysPAddr⟩)
  | unreserved (sSysPAddr : BitVec 64) :
      ¬ answers.Refuses heap uPSize uFlags →
        ¬ answers.Returns heap uPSize uFlags →
        Obtains heap uPSize uFlags answers [.localSegment sSysPAddr]
          (.failDevMemAlloc ⟨none, sSysPAddr⟩)

/-- Hold more. -/
def holding (state : State) (left : List Resource) : State :=
  { state with held := left ++ state.held }

@[simp] theorem holding_release
    (state : State)
    (resource : Resource)
    (left : List Resource) :
    (state.holding (resource :: left)).release resource =
      state.holding left := by
  simp only [holding, release, List.cons_append, List.erase_cons_head]

/-- The memory is neither a buffer nor a mapping. -/
theorem Obtains.noBuf
    (obtains : Obtains heap uPSize uFlags answers left result)
    (address : Address) :
    .buf address ∉ left ∧ .mapping address ∉ left := by
  cases obtains with
  | refused | shared | sharedTwice | pages | reserved | unreserved => simp
  | kept _ _ noBuf noMapping => exact ⟨noBuf address, noMapping address⟩

section

variable (obtains : Obtains heap uPSize uFlags answers left (.backing backing))
include obtains

/-- What `fail_dev_mem_alloc` leaves of a backing without device addresses. -/
theorem Obtains.failDevMemAlloc
    (noAddress : answers.mmuAlloc = none)
    (state : State) :
    ∃ kept : List Resource,
      (state.holding left).failDevMemAlloc heap uFlags backing
          answers.shareFound = state.holding kept ∧
        (kept = [] ↔ answers.Returns heap uPSize uFlags) ∧
        ∀ address, .buf address ∉ kept ∧ .mapping address ∉ kept := by
  cases obtains with
  | shared hOSMemHandle isShared _ returns =>
    rw [returns]
    simp only [State.failDevMemAlloc, if_pos isShared, freeShareable]
    cases answers.shareFound with
    | true => exact ⟨[], holding_release _ _ _, by simp, by simp⟩
    | false => exact ⟨_, rfl, by simp, by simp⟩
  | sharedTwice first second isShared _ stays =>
    simp only [State.failDevMemAlloc, if_pos isShared, freeShareable]
    cases answers.shareFound with
    | true =>
      exact ⟨[.share first], holding_release _ _ _,
        iff_of_false (by simp) stays, by simp⟩
    | false => exact ⟨_, rfl, iff_of_false (by simp) stays, by simp⟩
  | pages hOSMemHandle notShared noncontig _ returns =>
    simp only [State.failDevMemAlloc, if_neg notShared, noncontig, if_true]
    exact ⟨[], holding_release _ _ _, iff_of_true rfl returns, by simp⟩
  | reserved CpuVAddr hOSMemHandle sSysPAddr notShared contig _ _ returns =>
    rw [returns, noAddress]
    simp only [State.failDevMemAlloc, if_neg notShared, contig,
      Bool.false_eq_true, if_false]
    cases CpuVAddr with
    | true =>
      refine ⟨[], ?_, by simp, by simp⟩
      simp only [if_true, holding_release]
    | false =>
      refine ⟨[.area hOSMemHandle], ?_, by simp, by simp⟩
      simp [holding, release]

/-- What `BM_FreeMemory` leaves of an import. -/
theorem Obtains.freeMemory
    (isAddress : answers.mmuAlloc = some devVAddr)
    (state : State)
    (pMapping : Address)
    (uSize : BitVec 32) :
    ∃ kept : List Resource,
      (((state.acquire (.mapping pMapping)).holding left).acquire
          (.deviceRange devVAddr)).freeMemory heap uFlags
            ⟨pMapping, backing, uSize, devVAddr⟩ answers.shareFound =
        state.holding kept ∧
        (kept = [] ↔ answers.Returns heap uPSize uFlags) ∧
        ∀ address, .buf address ∉ kept := by
  have ranged : ∀ held : State,
      (held.acquire (.deviceRange devVAddr)).release (.deviceRange devVAddr) =
        held := by
    intro held
    simp only [acquire, release, List.erase_cons_head]
  have mapped : ∀ kept : List Resource,
      (∀ address, .mapping address ∉ kept) →
        ((state.acquire (.mapping pMapping)).holding kept).release
            (.mapping pMapping) = state.holding kept := by
    intro kept noMapping
    simp only [acquire, holding, release,
      List.erase_append_right _ (noMapping pMapping), List.erase_cons_head]
  unfold State.freeMemory
  rw [ranged]
  cases obtains with
  | shared hOSMemHandle isShared _ returns =>
    rw [returns]
    simp only [if_pos isShared, freeShareable]
    cases answers.shareFound with
    | true =>
      refine ⟨[], ?_, by simp, by simp⟩
      simp only [if_true, holding_release]
      exact mapped [] (by simp)
    | false => exact ⟨_, mapped _ (by simp), by simp, by simp⟩
  | sharedTwice first second isShared _ stays =>
    simp only [if_pos isShared, freeShareable]
    cases answers.shareFound with
    | true =>
      refine ⟨[.share first], ?_, iff_of_false (by simp) stays, by simp⟩
      simp only [if_true, holding_release]
      exact mapped _ (by simp)
    | false =>
      exact ⟨_, mapped _ (by simp), iff_of_false (by simp) stays, by simp⟩
  | pages hOSMemHandle notShared noncontig _ returns =>
    simp only [if_neg notShared, noncontig, if_true, holding_release]
    exact ⟨[], mapped [] (by simp), iff_of_true rfl returns, by simp⟩
  | reserved CpuVAddr hOSMemHandle sSysPAddr notShared contig isLocal _
      returns =>
    rw [returns, isAddress]
    simp only [if_neg notShared, contig, isLocal, Bool.false_eq_true,
      if_false, if_true, holding_release]
    exact ⟨[], mapped [] (by simp), by simp, by simp⟩

end

variable {answers : RaAnswers}

variable {answers : CallAnswers}

/-- A wrap is not asked to clear the memory. -/
theorem uFlags_zero (call : WrapCall) :
    call.uFlags &&& pvrsrvMemZero = 0#32 :=
  BmState.wrapFlags_and _ _ (by decide) (by decide)

/-- What `WrapMemory` leaves when it fails, and what it holds when it does
not. -/
theorem wrapMemory_cases
    (state : State)
    (call : WrapCall)
    (answers : WrapAnswers) :
    (state.wrapMemory call answers = none ∧ ¬ call.GivesBack answers) ∨
    (∃ after, state.wrapMemory call answers = some (after, false) ∧
      Leaves state after (call.GivesBack answers)) ∨
    ∃ pMapping hOSMemHandle devVAddr left,
      answers.pMapping = some pMapping ∧
        call.area answers = some hOSMemHandle ∧
        answers.mmuAlloc = some devVAddr ∧
        (call.ui32Offset = 0 ∧ left = [] ∨
          call.ui32Offset ≠ 0 ∧ ∃ subHandle,
            answers.subHandle = some subHandle ∧
              left = [.subArea subHandle]) ∧
        state.wrapMemory call answers = some
          (state.holding (left ++ [.deviceRange devVAddr, .area hOSMemHandle,
            .mapping pMapping]), true) := by
  unfold wrapMemory WrapCall.GivesBack
  simp only [uFlags_zero]
  cases isMapping : answers.pMapping with
  | none => exact .inr (.inl ⟨state, rfl, .nothing (.inl rfl)⟩)
  | some pMapping =>
    cases isArea : call.area answers with
    | none =>
      simp only [if_true]
      by_cases registers : call.pvCPUVAddr = true ∧
          knownMapType call.uFlags = true
      · rw [if_pos registers]
        refine .inl ⟨rfl, ?_⟩
        simp [registers]
      · rw [if_neg registers]
        refine .inr (.inl ⟨_, rfl, [], ?_, rfl, iff_of_true rfl ?_,
          fun _ => List.not_mem_nil⟩)
        · simp only [acquire, release, List.erase_cons_head, List.nil_append]
        · rw [not_and_or, Bool.not_eq_true, Bool.not_eq_true] at registers
          exact .inr registers
    | some hOSMemHandle =>
      cases isAddress : answers.mmuAlloc with
      | none =>
        refine .inr (.inl ⟨_, rfl, [], ?_, rfl, iff_of_true rfl ?_,
          fun _ => List.not_mem_nil⟩)
        · simp only [acquire, release, List.erase_cons_head, List.nil_append]
        · simp
      | some devVAddr =>
        by_cases start : call.ui32Offset = 0#32
        · refine .inr (.inr ⟨pMapping, hOSMemHandle, devVAddr, [], rfl,
            rfl, rfl, .inl ⟨start, rfl⟩, ?_⟩)
          simp [start, acquire, holding]
        · cases isSub : answers.subHandle with
          | none =>
            refine .inr (.inl ⟨_, if_neg start,
              [.deviceRange devVAddr], ?_, rfl, ?_, by simp⟩)
            · simp [acquire, release]
            · simp [start]
          | some subHandle =>
            refine .inr (.inr ⟨pMapping, hOSMemHandle, devVAddr,
              [.subArea subHandle], rfl, rfl, rfl,
              .inr ⟨start, subHandle, rfl, rfl⟩, ?_⟩)
            simp [start, acquire, holding]

/-- Freeing a buffer that has just been wrapped gives everything back. -/
theorem freeWrapped_holding
    (state : State)
    {call : WrapCall}
    {answers : WrapAnswers}
    {pMapping hOSMemHandle : Address}
    (isMapping : answers.pMapping = some pMapping)
    (isArea : call.area answers = some hOSMemHandle)
    (isAddress : answers.mmuAlloc = some devVAddr)
    (isLeft : call.ui32Offset = 0 ∧ left = [] ∨
      call.ui32Offset ≠ 0 ∧ ∃ subHandle,
        answers.subHandle = some subHandle ∧ left = [.subArea subHandle]) :
    ((state.acquire (.buf pBuf)).holding (left ++ [.deviceRange devVAddr,
        .area hOSMemHandle, .mapping pMapping])).freeWrapped call pBuf answers =
      state := by
  rcases isLeft with ⟨start, rfl⟩ | ⟨start, subHandle, isSub, rfl⟩
  · simp only [freeWrapped, start, if_true, isMapping, isArea, isAddress,
      Option.map_some, releaseSome]
    simp [acquire, holding, release]
  · simp only [freeWrapped, if_neg start, isSub, isMapping, isArea, isAddress,
      Option.map_some, releaseSome]
    simp [acquire, holding, release]

/-- The part of `BM_Wrap` that makes a buffer touches what is not there, fails
and leaves something, or returns a buffer. -/
theorem wrapNew_cases
    (state : State)
    (call : WrapCall)
    (answers : WrapAnswers) :
    (state.wrapNew call answers = none ∧
      ¬ (answers.pBuf = none ∨ call.GivesBack answers)) ∨
    (∃ after, state.wrapNew call answers = some (after, none) ∧
      Leaves state after (answers.pBuf = none ∨ call.GivesBack answers)) ∨
    ∃ after hBuf, state.wrapNew call answers = some (after, some hBuf) := by
  unfold wrapNew
  cases isBuf : answers.pBuf with
  | none => exact .inr (.inl ⟨state, rfl, .nothing (.inl rfl)⟩)
  | some pBuf =>
    have others : (some pBuf = none ∨ call.GivesBack answers) ↔
        call.GivesBack answers := by
      simp
    rw [others]
    simp only [Option.bind_eq_bind]
    rcases wrapMemory_cases (state.acquire (.buf pBuf)) call answers with
      ⟨crashes, unclean⟩ | ⟨after, fails, leaves⟩ |
      ⟨pMapping, hOSMemHandle, devVAddr, left, isMapping, isArea, isAddress,
        isLeft, wraps⟩
    · exact .inl ⟨by rw [crashes]; rfl, unclean⟩
    · exact .inr (.inl ⟨_, by rw [fails]; rfl, leaves.releaseBuf⟩)
    · simp only [wraps, Option.bind_some, not_true_eq_false, if_false]
      cases contig : call.bPhysContig with
      | false => exact .inr (.inr ⟨_, pBuf, rfl⟩)
      | true =>
        cases inserted : answers.inserted with
        | true => exact .inr (.inr ⟨_, pBuf, rfl⟩)
        | false =>
          refine .inr (.inl ⟨_, rfl, ?_⟩)
          rw [freeWrapped_holding state isMapping isArea isAddress
            isLeft]
          refine .nothing (.inr ?_)
          rw [if_neg (by rw [isArea]; simp)]
          rcases isLeft with ⟨start, _⟩ | ⟨_, subHandle, isSub, _⟩
          · exact .inr (.inl start)
          · exact .inr (.inr (by rw [isSub]; simp))

section

variable (whole : BmState) (state : State) {call : WrapCall}
  (known : knownMapType call.uFlags = true) (answers : WrapAnswers)
include known

/-- Where areas can be made, `WrapMemory` succeeds as in the runs of all
buffers. -/
theorem wrapMemory_eq :
    (state.wrapMemory call answers).map Prod.snd =
      (whole.wrapMemory call.ui32Size call.ui32Offset call.bPhysContig
        call.sysAddr call.pvCPUVAddr call.uFlags answers).map
          fun called => called.2.isSome := by
  unfold BmState.wrapMemory wrapMemory WrapCall.area
  simp only [known, uFlags_zero, BitVec.ofNat_eq_ofNat, ne_eq,
    not_true_eq_false, false_and, true_or, decide_true, and_true, if_true,
    if_false]
  cases answers.pMapping with
  | none => rfl
  | some pMapping =>
    cases answers.hOSMemHandle with
    | none => cases call.pvCPUVAddr <;> rfl
    | some hOSMemHandle =>
      cases answers.mmuAlloc with
      | none => rfl
      | some devVAddr =>
        by_cases start : call.ui32Offset = 0#32
        · simp only [start, if_true, Option.map_some, Option.isSome_some]
        · cases answers.subHandle <;>
            simp only [start, if_false, Option.map_some, Option.isSome_some,
              Option.isSome_none]

/-- The part of `BM_Wrap` that makes a buffer hands out the same buffer. -/
theorem wrapNew_eq :
    (state.wrapNew call answers).map Prod.snd =
      (whole.wrapNew call.ui32Size call.ui32Offset call.bPhysContig
        call.sysAddr call.pvCPUVAddr call.uFlags answers).map
          fun called => called.2.map Prod.fst := by
  unfold BmState.wrapNew wrapNew
  cases answers.pBuf with
  | none => rfl
  | some pBuf =>
    have same := wrapMemory_eq (whole.acquire (.buf pBuf))
      (state.acquire (.buf pBuf)) known answers
    dsimp only
    generalize wraps : (whole.acquire _).wrapMemory _ _ _ _ _ _ _ = called
      at same ⊢
    cases called with
    | none =>
      rw [Option.map_eq_none_iff.mp same]
      rfl
    | some called =>
      obtain ⟨⟨_, _⟩, isCalled, rfl⟩ := Option.map_eq_some_iff.mp same
      simp only [isCalled, Option.bind_eq_bind, Option.bind_some]
      rcases BmState.wrapMemory_cases (uFlags_zero call) wraps with
        ⟨none, _⟩ | ⟨mapping, areas, buf, some, isMade⟩
      · simp only [none]
        rfl
      · have isMapping : called.1.mappings buf.pMapping = mapping := by
          rw [isMade.same]
          exact Function.update_self ..
        simp only [some, isMapping, Option.bind_some, isMade.origin,
          BmState.isCached_ofWrap]
        cases call.bPhysContig with
        | false => rfl
        | true =>
          cases answers.inserted with
          | true => rfl
          | false =>
            have isBuf : (called.1.setBuf pBuf buf).bufs pBuf = buf :=
              Function.update_self ..
            simp only [WrapCall.uFlags, BmState.freeBuf_plain isBuf isMapping
              (BmState.wrapFlags_and _ _ (by decide) (by decide))
              (BmState.wrapFlags_and _ _ (by decide) (by decide))]
            rfl

end

end State

/-! ## A wrap that fails -/

/-- Nothing is held. -/
def empty : State := ⟨[], [], fun _ => none, fun _ => none⟩

/-- A heap of the driver. -/
def generalHeap : Heap where
  ui32Attribs := pvrsrvMemRamBackedAllocation |||
    pvrsrvBackingstoreSysmemNoncontig ||| pvrsrvHapMultiProcess
  ui32DataPageSize := 0x1000
  uQuantum := 0x1000

end PvrServices.BufferManager.Creation
