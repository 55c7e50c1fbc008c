import PvrServices.Resman.Base

/-!
# The shared parameter buffer

The processes that use the device share one parameter buffer.  A process that
finds none may take the creation lock, allocate the buffer, and add a stub for
it to the list of the device; every process then holds a resource item that
refers to the stub.  The global lock of the services admits one call at a time,
and the mutex of the resource manager is left out.  A call that reaches a freed
stub has no value.
-/

namespace PvrServices.SharedPb

open Resman
open Function (update)

/-! ## Data -/

/-- `PVRSRV_ERROR_PROCESSING_BLOCKED`. -/
abbrev pvrsrvErrorProcessingBlocked : PvrsrvError := 20

/-- `PVRSRV_ERROR_INVALID_PERPROC`. -/
abbrev pvrsrvErrorInvalidPerproc : PvrsrvError := 77

/-- `PVRSRV_ERROR_UNABLE_TO_REGISTER_RESOURCE`. -/
abbrev pvrsrvErrorUnableToRegisterResource : PvrsrvError := 103

/-- The memory of a parameter buffer, by the `PVRSRV_KERNEL_MEM_INFO`s. -/
structure MemInfos where
  psSharedPBDescKernelMemInfo : Nat
  psHWPBDescKernelMemInfo : Nat
  psBlockKernelMemInfo : Nat
  psHWBlockKernelMemInfo : Nat
  ppsSubKernelMemInfos : List Nat
deriving DecidableEq, Repr

/-- The order in which `SGXCleanupSharedPBDescKM` frees the memory. -/
def MemInfos.cleanupOrder (memInfos : MemInfos) : List Nat :=
  memInfos.ppsSubKernelMemInfos ++
    [memInfos.psBlockKernelMemInfo, memInfos.psHWBlockKernelMemInfo,
      memInfos.psHWPBDescKernelMemInfo, memInfos.psSharedPBDescKernelMemInfo]

/-- The order in which `SGXAddSharedPBDescKM` frees memory it does not add. -/
def MemInfos.refusalOrder (memInfos : MemInfos) : List Nat :=
  memInfos.ppsSubKernelMemInfos ++
    [memInfos.psSharedPBDescKernelMemInfo, memInfos.psHWPBDescKernelMemInfo,
      memInfos.psBlockKernelMemInfo, memInfos.psHWBlockKernelMemInfo]

/-- The order in which `SGXAddSharedPBDescKM` dissociates the memory from the
process. -/
def MemInfos.dissociateOrder (memInfos : MemInfos) : List Nat :=
  [memInfos.psSharedPBDescKernelMemInfo, memInfos.psHWPBDescKernelMemInfo,
    memInfos.psBlockKernelMemInfo, memInfos.psHWBlockKernelMemInfo] ++
      memInfos.ppsSubKernelMemInfos

/-- `PVRSRV_STUB_PBDESC`. -/
structure StubPbDesc where
  ui32RefCount : BitVec 32
  memInfos : MemInfos
  sHWPBDescDevVAddr : BitVec 32
deriving DecidableEq, Repr

/-- What a resource item refers to, by its type. -/
inductive Resource where
  | createLock (psPerProc : Nat)
  | sharedPb (stub : Nat)
deriving DecidableEq, Repr

/-- An item of one of the two resource types. -/
structure Item where
  address : Nat
  process : Nat
  resource : Resource
deriving DecidableEq, Repr

/-- What happened to the memory of parameter buffers. -/
inductive Event where
  | added (stub : Nat) (memInfos : MemInfos)
  | released (stub : Nat) (freed : List Nat)
  | cleanup (sHWPBDescDevVAddr : BitVec 32)
  | refused (freed : List Nat)
deriving DecidableEq, Repr

/-- The stubs that are allocated, the list of the device, the items, and the
two globals.  The latest event of `history` is first. -/
structure State where
  stubs : Nat → Option StubPbDesc
  nextStub : Nat
  psStubPBDescListKM : List Nat
  items : List Item
  nextItem : Nat
  psResItemCreateSharedPB : Option Nat
  psPerProcCreateSharedPB : Option Nat
  history : List Event

/-- The state after the device is initialised. -/
def initialState : State where
  stubs := fun _ => none
  nextStub := 0
  psStubPBDescListKM := []
  items := []
  nextItem := 0
  psResItemCreateSharedPB := none
  psPerProcCreateSharedPB := none
  history := []

/-! ## The calls -/

/-- `ResManRegisterRes`; `registered` says whether the item is allocated. -/
def State.resManRegisterRes
    (state : State)
    (psPerProc : Nat)
    (resource : Resource)
    (registered : Bool) :
    Option Nat × State :=
  if registered then
    (some state.nextItem,
      { state with
        items := ⟨state.nextItem, psPerProc, resource⟩ :: state.items
        nextItem := state.nextItem + 1 })
  else
    (none, state)

/-- What `SGXFindSharedPBDescKM` returns. -/
structure FindResult where
  eError : PvrsrvError
  phSharedPBDesc : Option Nat
  memInfos : Option MemInfos
deriving DecidableEq, Repr

/-- `SGXFindSharedPBDescKM`; `allocated` is the array for the sub memory. -/
def State.sgxFindSharedPBDesc
    (state : State)
    (psPerProc : Nat)
    (bLockOnFailure allocated registered : Bool) :
    Option (FindResult × State) :=
  match state.psStubPBDescListKM with
  | stub :: _ =>
    match state.stubs stub with
    | none => none
    | some desc =>
      if ¬ allocated then
        some (⟨pvrsrvErrorOutOfMemory, none, none⟩, state)
      else
        match state.resManRegisterRes psPerProc (.sharedPb stub)
            registered with
        | (none, state) =>
          some (⟨pvrsrvErrorUnableToRegisterResource, none, none⟩, state)
        | (some psResItem, state) =>
          some (⟨pvrsrvOk, some psResItem, some desc.memInfos⟩,
            { state with
              stubs := update state.stubs stub (some { desc with
                ui32RefCount := desc.ui32RefCount + 1 }) })
  | [] =>
    if ¬ bLockOnFailure then
      some (⟨pvrsrvOk, none, none⟩, state)
    else if state.psResItemCreateSharedPB.isSome then
      some (⟨pvrsrvErrorProcessingBlocked, none, none⟩, state)
    else
      match state.resManRegisterRes psPerProc (.createLock psPerProc)
          registered with
      | (none, state) =>
        some (⟨pvrsrvErrorUnableToRegisterResource, none, none⟩, state)
      | (some psResItem, state) =>
        some (⟨pvrsrvOk, none, none⟩,
          { state with
            psResItemCreateSharedPB := some psResItem
            psPerProcCreateSharedPB := some psPerProc })

/-- `SGXCleanupSharedPBDescKM`. -/
def State.sgxCleanupSharedPBDesc (state : State) (stub : Nat) :
    Option State :=
  match state.stubs stub with
  | none => none
  | some desc =>
    let ui32RefCount := desc.ui32RefCount - 1
    if ui32RefCount = 0 then
      some { state with
        stubs := update state.stubs stub none
        psStubPBDescListKM := state.psStubPBDescListKM.erase stub
        history := .cleanup desc.sHWPBDescDevVAddr ::
          .released stub desc.memInfos.cleanupOrder :: state.history }
    else
      some { state with
        stubs := update state.stubs stub (some { desc with ui32RefCount }) }

/-- The free callbacks of the two resource types. -/
def State.freeCallback (state : State) : Resource → Option State
  | .createLock _ =>
    some { state with
      psPerProcCreateSharedPB := none
      psResItemCreateSharedPB := none }
  | .sharedPb stub => state.sgxCleanupSharedPBDesc stub

/-- `ResManFreeResByPtr`. -/
def State.resManFreeResByPtr (state : State) (psResItem : Nat) :
    Option State :=
  match state.items.find? (·.address == psResItem) with
  | none => none
  | some item =>
    { state with items := state.items.erase item }.freeCallback item.resource

/-- The memory of the caller is freed. -/
def State.refuse (state : State) (memInfos : MemInfos) : State :=
  { state with history := .refused memInfos.refusalOrder :: state.history }

/-- The allocations of `SGXAddSharedPBDescKM` and whether each mem info can be
dissociated from its process. -/
structure AddOutcome where
  allocatedStub : Bool
  allocatedArray : Bool
  dissociated : Nat → Bool
  registered : Bool

section

variable (state : State) (psPerProc : Nat) (memInfos : MemInfos)
  (sHWPBDescDevVAddr : BitVec 32)

/-- `SGXAddSharedPBDescKM` once it has given the lock back. -/
def State.addSharedPBDesc
    (outcome : AddOutcome) :
    Option ((PvrsrvError × Option Nat) × State) :=
  match state.psStubPBDescListKM with
  | stub :: _ =>
    match state.stubs stub with
    | none => none
    | some desc =>
      match state.resManRegisterRes psPerProc (.sharedPb stub)
          outcome.registered with
      | (none, state) =>
        some ((pvrsrvErrorInvalidPerproc, none), state.refuse memInfos)
      | (some psResItem, state) =>
        some ((pvrsrvOk, some psResItem),
          { state with
            stubs := update state.stubs stub (some { desc with
              ui32RefCount := desc.ui32RefCount + 1 }) }.refuse memInfos)
  | [] =>
    if ¬ (outcome.allocatedStub ∧ outcome.allocatedArray) then
      some ((pvrsrvErrorOutOfMemory, none), state.refuse memInfos)
    else if ¬ memInfos.dissociateOrder.all outcome.dissociated then
      some ((pvrsrvErrorInvalidPerproc, none), state.refuse memInfos)
    else
      match state.resManRegisterRes psPerProc (.sharedPb state.nextStub)
          outcome.registered with
      | (none, state) =>
        some ((pvrsrvErrorInvalidPerproc, none), state.refuse memInfos)
      | (some psResItem, state) =>
        some ((pvrsrvOk, some psResItem),
          { state with
            stubs := update state.stubs state.nextStub
              (some ⟨1, memInfos, sHWPBDescDevVAddr⟩)
            nextStub := state.nextStub + 1
            psStubPBDescListKM := state.nextStub :: state.psStubPBDescListKM
            history := .added state.nextStub memInfos :: state.history })

/-- `SGXAddSharedPBDescKM`. -/
def State.sgxAddSharedPBDesc
    (outcome : AddOutcome) :
    Option ((PvrsrvError × Option Nat) × State) :=
  if state.psPerProcCreateSharedPB ≠ some psPerProc then
    some ((pvrsrvErrorInvalidPerproc, none), state.refuse memInfos)
  else
    match state.psResItemCreateSharedPB with
    | none =>
      state.addSharedPBDesc psPerProc memInfos sHWPBDescDevVAddr outcome
    | some psResItem => do
        let state ← state.resManFreeResByPtr psResItem
        state.addSharedPBDesc psPerProc memInfos sHWPBDescDevVAddr outcome

end

/-- The items of a process of one of the two types. -/
def State.itemsOf
    (state : State)
    (process : Nat)
    (ofType : Resource → Bool) :
    List Nat :=
  (state.items.filter fun item =>
    item.process == process && ofType item.resource).map (·.address)

/-- `RESMAN_TYPE_SHARED_PB_DESC_CREATE_LOCK`. -/
def Resource.isCreateLock : Resource → Bool
  | .createLock _ => true
  | .sharedPb _ => false

/-- `RESMAN_TYPE_SHARED_PB_DESC`. -/
def Resource.isSharedPb : Resource → Bool
  | .createLock _ => false
  | .sharedPb _ => true

/-- The exit of a process frees its items, type by type. -/
def State.processExit (state : State) (process : Nat) : Option State := do
  let state ← (state.itemsOf process Resource.isCreateLock).foldlM
    State.resManFreeResByPtr state
  (state.itemsOf process Resource.isSharedPb).foldlM
    State.resManFreeResByPtr state

/-- The calls. -/
inductive Call where
  | find (psPerProc : Nat) (bLockOnFailure allocated registered : Bool)
  | add
      (psPerProc : Nat)
      (memInfos : MemInfos)
      (sHWPBDescDevVAddr : BitVec 32)
      (outcome : AddOutcome)
  | unref (psResItem : Nat)
  | processExit (process : Nat)

/-- `SGXUnrefSharedPBDescKM` is given the item of a handle. -/
def Call.Allowed (state : State) : Call → Prop
  | .unref psResItem =>
    ∃ item ∈ state.items, item.address = psResItem ∧
      item.resource.isSharedPb
  | _ => True

/-- One call. -/
def State.call (state : State) : Call → Option State
  | .find psPerProc bLockOnFailure allocated registered =>
    (state.sgxFindSharedPBDesc psPerProc bLockOnFailure allocated
      registered).map (·.2)
  | .add psPerProc memInfos sHWPBDescDevVAddr outcome =>
    (state.sgxAddSharedPBDesc psPerProc memInfos sHWPBDescDevVAddr
      outcome).map (·.2)
  | .unref psResItem => state.resManFreeResByPtr psResItem
  | .processExit process => state.processExit process

/-- The states of runs in which every state meets a condition. -/
inductive Reachable (condition : State → Prop) : State → Prop
  | initial : Reachable condition initialState
  | call {state next : State}
      (call : Call)
      (reached : Reachable condition state)
      (allowed : call.Allowed state)
      (performed : state.call call = some next)
      (meets : condition next) :
      Reachable condition next

/-! ## The protocol -/

/-- The live items that refer to a stub. -/
def references (stub : Nat) (items : List Item) : Nat :=
  items.countP fun item => item.resource = .sharedPb stub

/-- How often a stub was added. -/
def additions (stub : Nat) (history : List Event) : Nat :=
  history.countP fun event =>
    match event with
    | .added other _ => other = stub
    | _ => false

/-- How often a stub was released. -/
def releases (stub : Nat) (history : List Event) : Nat :=
  history.countP fun event =>
    match event with
    | .released other _ => other = stub
    | _ => false

/-- The protocol of the shared parameter buffer. -/
structure State.ProtocolKept (state : State) : Prop where
  /-- There is at most one lock item, of the process in the global. -/
  oneHolder : ∀ item ∈ state.items, ∀ psPerProc,
    item.resource = .createLock psPerProc →
      state.psResItemCreateSharedPB = some item.address ∧
        state.psPerProcCreateSharedPB = some psPerProc ∧
        item.process = psPerProc
  /-- The process in the global holds the lock item. -/
  held : ∀ psPerProc, state.psPerProcCreateSharedPB = some psPerProc →
    ∃ item ∈ state.items, item.resource = .createLock psPerProc
  /-- The list is empty while a process holds the lock. -/
  lockedEmpty : ∀ psPerProc, state.psPerProcCreateSharedPB = some psPerProc →
    state.psStubPBDescListKM = []
  /-- The list holds at most one stub. -/
  oneStub : state.psStubPBDescListKM.length ≤ 1
  /-- The reference count of a stub is the number of items that refer to it. -/
  counted : ∀ stub ∈ state.psStubPBDescListKM, ∃ desc,
    state.stubs stub = some desc ∧
      desc.ui32RefCount.toNat = references stub state.items
  /-- A stub is allocated and in the list as long as items refer to it. -/
  listed : ∀ stub, 0 < references stub state.items ↔
    stub ∈ state.psStubPBDescListKM
  /-- Every stub that was added is live or has been released once. -/
  releasedOnce : ∀ stub, additions stub state.history ≤ 1 ∧
    additions stub state.history = releases stub state.history +
      if stub ∈ state.psStubPBDescListKM then 1 else 0
  /-- The memory that was added is the memory that is released. -/
  released : ∀ stub freed, .released stub freed ∈ state.history →
    ∃ memInfos, .added stub memInfos ∈ state.history ∧
      freed = memInfos.cleanupOrder
  /-- No call reaches a freed stub or a freed item. -/
  defined : ∀ call : Call, call.Allowed state → (state.call call).isSome

/-- A 32-bit count can tell the numbers of items apart. -/
def FewReferences (state : State) : Prop :=
  state.items.length < 2 ^ 32

instance (state : State) : Decidable (FewReferences state) :=
  inferInstanceAs (Decidable (_ < _))

end PvrServices.SharedPb
