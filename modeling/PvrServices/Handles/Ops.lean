import PvrServices.Handles.Base

/-!
# Calls on a handle base

The exported functions on handles and handle batches, and runs of them.  A
call that would not return has no result.
-/

namespace PvrServices.Handles

namespace HandleBase

/-! ## Lookup -/

/-- `PVRSRVLookupHandle`. -/
def pvrsrvLookupHandle (base : HandleBase) (hHandle eType : Nat) :
    Except HandleError Nat :=
  match base.getHandleStructure hHandle eType with
  | .error error => .error error
  | .ok index => .ok (base.handles index).pvData

/-- The loop of `PVRSRVLookupSubHandle` over the parents. -/
def findAncestor : Nat → HandleBase → Nat → Nat → Option Bool
  | 0, _, _, _ => none
  | fuel + 1, base, index, hAncestor =>
    if base.parentHandle index = hAncestor then some true
    else
      match base.getHandleStructure (base.parentHandle index)
        handleTypeNone with
      | .error _ => some false
      | .ok parent => findAncestor fuel base parent hAncestor

/-- `PVRSRVLookupSubHandle`. -/
def pvrsrvLookupSubHandle (base : HandleBase) (hHandle eType hAncestor : Nat) :
    Option (Except HandleError Nat) :=
  match base.getHandleStructure hHandle eType with
  | .error error => some (.error error)
  | .ok index =>
    match findAncestor (base.ui32TotalHandCount + 1) base index
      hAncestor with
    | none => none
    | some false => some (.error .invalidSubhandle)
    | some true => some (.ok (base.handles index).pvData)

/-- `PVRSRVGetParentHandle`. -/
def pvrsrvGetParentHandle (base : HandleBase) (hHandle eType : Nat) :
    Except HandleError Nat :=
  match base.getHandleStructure hHandle eType with
  | .error error => .error error
  | .ok index => .ok (base.parentHandle index)

/-- `PVRSRVFindHandle`. -/
def pvrsrvFindHandle (base : HandleBase) (pvData eType : Nat) :
    Except HandleError Nat :=
  match base.hashTab { data := pvData, type := eType, parent := 0 } with
  | none => .error .handleNotFound
  | some hHandle => .ok hHandle

/-! ## Release -/

/-- `PVRSRVReleaseHandle`. -/
def pvrsrvReleaseHandle (base : HandleBase) (hHandle eType : Nat) :
    Option (HandleBase × Except HandleError Unit) :=
  match base.getHandleStructure hHandle eType with
  | .error error => some (base, .error error)
  | .ok index =>
    match base.freeHandle index with
    | none => none
    | some base => some (base, .ok ())

/-- `PVRSRVLookupAndReleaseHandle`. -/
def pvrsrvLookupAndReleaseHandle (base : HandleBase) (hHandle eType : Nat) :
    Option (HandleBase × Except HandleError Nat) :=
  match base.getHandleStructure hHandle eType with
  | .error error => some (base, .error error)
  | .ok index =>
    let pvData := (base.handles index).pvData
    match base.freeHandle index with
    | none => none
    | some base => some (base, .ok pvData)

/-! ## Batches -/

/-- `PVRSRVNewHandleBatch`. -/
def pvrsrvNewHandleBatch
    (base : HandleBase) (ui32BatchSize : Nat) (outcome : AllocOutcome) :
    HandleBase × Except HandleError Unit :=
  if base.handlesBatched then
    (base, .error .handleBatchInUse)
  else if ui32BatchSize = 0 then
    (base, .error .invalidParams)
  else
    match base.ensureFreeHandles ui32BatchSize outcome.osAllocMem with
    | .error error => (base, .error error)
    | .ok base => ({ base with ui32HandBatchSize := ui32BatchSize }, .ok ())

/-- The loop of `PVRSRVHandleBatchCommitOrRelease` over the batch, with a
bound on its length. -/
def commitOrReleaseLoop :
    Nat → HandleBase → Bool → Nat → Option HandleBase
  | _, base, _, 0 => some base
  | 0, _, _, _ + 1 => none
  | fuel + 1, base, bCommitBatch, index + 1 =>
    let ui32NextIndexPlusOne := (base.handles index).ui32NextIndexPlusOne
    let base := base.modify index fun handle =>
      { handle with ui32NextIndexPlusOne := 0 }
    if !bCommitBatch || (base.handles index).partiallyFree then
      let base :=
        if (base.handles index).partiallyFree then base
        else base.modify index fun handle => { handle with batched := false }
      match base.freeHandle index with
      | none => none
      | some base =>
        commitOrReleaseLoop fuel base bCommitBatch ui32NextIndexPlusOne
    else
      commitOrReleaseLoop fuel
        (base.modify index fun handle => { handle with batched := false })
        bCommitBatch ui32NextIndexPlusOne

/-- `PVRSRVHandleBatchCommitOrRelease`.  The failure count is cleared before
it is tested for the result, so that the commit of a batch with failures also
returns success. -/
def handleBatchCommitOrRelease (base : HandleBase) (bCommit : Bool) :
    Option (HandleBase × Except HandleError Unit) :=
  if !base.handlesBatched then
    some (base, .error .invalidParams)
  else
    let bCommitBatch := bCommit && base.ui32BatchHandAllocFailures = 0
    match commitOrReleaseLoop (base.ui32TotalHandCount + 1) base bCommitBatch
      base.ui32FirstBatchIndexPlusOne with
    | none => none
    | some base =>
      some ({ base with
        ui32HandBatchSize := 0
        ui32FirstBatchIndexPlusOne := 0
        ui32BatchHandAllocFailures := 0 }, .ok ())

/-! ## Creation -/

/-- `PVRSRVAllocHandleBase`.  The handle structures are not allocated yet;
`memory` is what their memory will contain. -/
def pvrsrvAllocHandleBase (memory : Nat → Handle) : HandleBase where
  handles := memory
  hashTab := fun _ => none
  ui32FreeHandCount := 0
  ui32FirstFreeIndex := 0
  ui32MaxIndexPlusOne := roundDownToBlockSize defaultMaxHandle
  ui32TotalHandCount := 0
  ui32LastFreeIndexPlusOne := 0
  ui32HandBatchSize := 0
  ui32FirstBatchIndexPlusOne := 0
  ui32BatchHandAllocFailures := 0

/-- `PVRSRVSetMaxHandle`. -/
def pvrsrvSetMaxHandle (base : HandleBase) (ui32MaxHandle : Nat) :
    HandleBase × Except HandleError Unit :=
  if base.handlesBatched then
    (base, .error .invalidParams)
  else if ui32MaxHandle = 0 ∨ ui32MaxHandle > defaultMaxHandle then
    (base, .error .invalidParams)
  else if base.ui32TotalHandCount ≠ 0 then
    (base, .error .invalidParams)
  else
    let ui32MaxHandleRounded := roundDownToBlockSize ui32MaxHandle
    if ui32MaxHandleRounded ≠ 0 ∧
        ui32MaxHandleRounded < base.ui32MaxIndexPlusOne then
      ({ base with ui32MaxIndexPlusOne := ui32MaxHandleRounded }, .ok ())
    else
      (base, .ok ())

end HandleBase

open HandleBase

/-! ## Runs -/

/-- Calls on a handle base. -/
inductive HandleOp where
  | alloc
      (pvData : Nat) (eType : HandleType) (eFlag : AllocFlag)
      (outcome : AllocOutcome)
  | allocSub
      (pvData : Nat) (eType : HandleType) (eFlag : AllocFlag)
      (hParent : Nat) (outcome : AllocOutcome)
  | lookup (hHandle eType : Nat)
  | lookupSub (hHandle eType hAncestor : Nat)
  | find (pvData eType : Nat)
  | getParent (hHandle eType : Nat)
  | lookupAndRelease (hHandle eType : Nat)
  | release (hHandle eType : Nat)
  | newBatch (ui32BatchSize : Nat) (outcome : AllocOutcome)
  | commitBatch
  | releaseBatch

/-- What a call hands back: a handle, the data of a handle, or nothing. -/
inductive HandleValue where
  | handle (hHandle : Nat)
  | data (pvData : Nat)
  | nothing
deriving DecidableEq, Repr

/-- The result of a call. -/
abbrev HandleResult : Type := Except HandleError HandleValue

namespace HandleBase

/-- Perform one call. -/
def step (base : HandleBase) : HandleOp → Option (HandleBase × HandleResult)
  | .alloc pvData eType eFlag outcome =>
    let (base, result) := base.pvrsrvAllocHandle pvData eType eFlag outcome
    some (base, result.map .handle)
  | .allocSub pvData eType eFlag hParent outcome =>
    let (base, result) :=
      base.pvrsrvAllocSubHandle pvData eType eFlag hParent outcome
    some (base, result.map .handle)
  | .lookup hHandle eType =>
    some (base, (base.pvrsrvLookupHandle hHandle eType).map .data)
  | .lookupSub hHandle eType hAncestor =>
    (base.pvrsrvLookupSubHandle hHandle eType hAncestor).map
      fun result => (base, result.map .data)
  | .find pvData eType =>
    some (base, (base.pvrsrvFindHandle pvData eType).map .handle)
  | .getParent hHandle eType =>
    some (base, (base.pvrsrvGetParentHandle hHandle eType).map .handle)
  | .lookupAndRelease hHandle eType =>
    (base.pvrsrvLookupAndReleaseHandle hHandle eType).map
      fun (base, result) => (base, result.map .data)
  | .release hHandle eType =>
    (base.pvrsrvReleaseHandle hHandle eType).map
      fun (base, result) => (base, result.map fun _ => .nothing)
  | .newBatch ui32BatchSize outcome =>
    let (base, result) := base.pvrsrvNewHandleBatch ui32BatchSize outcome
    some (base, result.map fun _ => .nothing)
  | .commitBatch =>
    (base.handleBatchCommitOrRelease true).map
      fun (base, result) => (base, result.map fun _ => .nothing)
  | .releaseBatch =>
    (base.handleBatchCommitOrRelease false).map
      fun (base, _) => (base, .ok .nothing)

/-- Perform a sequence of calls. -/
def run : HandleBase → List HandleOp → Option HandleBase
  | base, [] => some base
  | base, op :: ops =>
    match base.step op with
    | none => none
    | some (base, _) => base.run ops

/-- A new handle base, with its limit set to `ui32MaxHandle` if that is a
valid limit. -/
def create (memory : Nat → Handle) (ui32MaxHandle : Nat) : HandleBase :=
  ((pvrsrvAllocHandleBase memory).pvrsrvSetMaxHandle ui32MaxHandle).1

end HandleBase

end PvrServices.Handles
