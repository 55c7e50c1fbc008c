import PvrServices.Handles.Ops
import PvrServices.Lib.TreeRelease

/-!
# Handle bases with purging

With purging enabled there is no chain of free structures.  The array is kept
in blocks with the number of free structures in each, an allocation searches
the blocks for a free structure, and `PVRSRVPurgeHandles` gives back the free
blocks at the end of the array.
-/

namespace PvrServices.Handles

open HandleBase

/-! ## Data -/

/-- `PVRSRV_HANDLE_BASE` with `bPurgingEnabled`, and the free counts of its
blocks. -/
structure PurgingBase where
  base : HandleBase
  ui32FreeHandBlockCount : Nat → Nat

/-- `INDEX_TO_BLOCK_INDEX`. -/
abbrev indexToBlockIndex (index : Nat) : Nat :=
  index / handleBlockSize

/-- `HANDLE_STRUCT_IS_FREE`. -/
def Handle.isFree (handle : Handle) : Bool :=
  handle.eType = handleTypeNone && (!handle.batched && !handle.partiallyFree)

namespace PurgingBase

/-! ## The array -/

/-- `ReallocHandleArray` with purging enabled.  An array of no structures
needs no memory. -/
def reallocHandleArray
    (purging : PurgingBase) (ui32NewCount : Nat) (osAllocMem : Bool) :
    Except HandleError PurgingBase :=
  let base := purging.base
  let ui32OldCount := base.ui32TotalHandCount
  if ui32NewCount = ui32OldCount then
    .ok purging
  else if ui32OldCount % handleBlockSize ≠ 0 ∨
      ui32NewCount % handleBlockSize ≠ 0 then
    .error .invalidParams
  else if ui32NewCount ≠ 0 && !osAllocMem then
    .error .outOfMemory
  else if ui32NewCount > ui32OldCount then
    .ok {
      base := { base with
        handles := fun index =>
          if ui32OldCount ≤ index ∧ index < ui32NewCount then
            { base.handles index with
              eType := handleTypeNone
              batched := false
              partiallyFree := false
              ui32NextIndexPlusOne := 0 }
          else base.handles index
        ui32TotalHandCount := ui32NewCount
        ui32FreeHandCount :=
          base.ui32FreeHandCount + (ui32NewCount - ui32OldCount)
        ui32FirstFreeIndex :=
          if base.ui32FirstFreeIndex = 0 then ui32OldCount
          else base.ui32FirstFreeIndex }
      ui32FreeHandBlockCount := fun block =>
        if indexToBlockIndex ui32OldCount ≤ block ∧
            block < indexToBlockIndex ui32NewCount then handleBlockSize
        else purging.ui32FreeHandBlockCount block }
  else
    .ok { purging with
      base := { base with
        ui32TotalHandCount := ui32NewCount
        ui32FreeHandCount :=
          base.ui32FreeHandCount - (ui32OldCount - ui32NewCount)
        ui32FirstFreeIndex :=
          if ui32NewCount = 0 then 0 else base.ui32FirstFreeIndex
        ui32LastFreeIndexPlusOne :=
          if ui32NewCount = 0 then 0
          else base.ui32LastFreeIndexPlusOne } }

/-- `IncreaseHandleArraySize`. -/
def increaseHandleArraySize
    (purging : PurgingBase) (ui32Delta : Nat) (osAllocMem : Bool) :
    Except HandleError PurgingBase :=
  match purging.base.increasedCount ui32Delta with
  | none => .error .outOfMemory
  | some ui32NewTotalHandCount =>
    purging.reallocHandleArray ui32NewTotalHandCount osAllocMem

/-- `EnsureFreeHandles`. -/
def ensureFreeHandles
    (purging : PurgingBase) (ui32Free : Nat) (osAllocMem : Bool) :
    Except HandleError PurgingBase :=
  if ui32Free > purging.base.ui32FreeHandCount then
    purging.increaseHandleArraySize
      (ui32Free - purging.base.ui32FreeHandCount) osAllocMem
  else
    .ok purging

/-! ## Allocating -/

/-- What the search for a free structure leaves in `ui32NewIndex` and in
`psNewHandle`, which is the index of a structure or null. -/
structure Found where
  ui32NewIndex : Nat
  psNewHandle : Option Nat

/-- The inner loop of the search, over the rest of a block. -/
def scanBlock (base : HandleBase) : Nat → Nat → Option Nat → Found
  | 0, index, psNewHandle => { ui32NewIndex := index, psNewHandle }
  | left + 1, index, _ =>
    if (base.handles index).isFree then
      { ui32NewIndex := index, psNewHandle := some index }
    else
      scanBlock base left (index + 1) (some index)

/-- The outer loop of the search, over the blocks from `ui32BlockedIndex` on,
with a bound on their number.  It goes on where a structure is found. -/
def scanBlocks (purging : PurgingBase) : Nat → Nat → Found → Found
  | 0, _, found => found
  | blocks + 1, ui32BlockedIndex, found =>
    if ui32BlockedIndex < purging.base.ui32TotalHandCount then
      let found :=
        if purging.ui32FreeHandBlockCount
            (indexToBlockIndex ui32BlockedIndex) = 0 then found
        else
          scanBlock purging.base handleBlockSize ui32BlockedIndex
            found.psNewHandle
      purging.scanBlocks blocks (ui32BlockedIndex + handleBlockSize) found
    else found

/-- The search of `AllocHandle` for a free structure. -/
def scan (purging : PurgingBase) : Found :=
  purging.scanBlocks purging.base.ui32TotalHandCount
    (roundDownToBlockSize purging.base.ui32FirstFreeIndex)
    { ui32NewIndex := roundDownToBlockSize defaultMaxHandle
      psNewHandle := none }

/-- Count the structure `ui32NewIndex` as used, and fill in the one that
`pointed` points to. -/
def placeHandle
    (purging : PurgingBase) (ui32NewIndex pointed pvData : Nat)
    (eType : HandleType) (eFlag : AllocFlag) :
    PurgingBase :=
  let base := { purging.base with
    ui32FreeHandCount := oneLess purging.base.ui32FreeHandCount }
  { base := { base.initHandle pointed pvData eType eFlag with
      ui32FirstBatchIndexPlusOne :=
        if base.handlesBatched then ui32NewIndex + 1
        else base.ui32FirstBatchIndexPlusOne }
    ui32FreeHandBlockCount := Function.update
      purging.ui32FreeHandBlockCount (indexToBlockIndex ui32NewIndex)
      (oneLess (purging.ui32FreeHandBlockCount
        (indexToBlockIndex ui32NewIndex))) }

section

variable (purging : PurgingBase) (pvData : Nat) (eType : HandleType)

/-- `AllocHandle` with purging enabled.  It has no result where it writes
through a null pointer. -/
def allocHandle
    (eFlag : AllocFlag) (hParent : Nat) (outcome : AllocOutcome) :
    Option (PurgingBase × Except HandleError Nat) :=
  match purging.ensureFreeHandles 1 outcome.osAllocMem with
  | .error error => some (purging, .error error)
  | .ok purging =>
    let found := purging.scan
    let base := { purging.base with ui32FirstFreeIndex := 0 }
    let hHandle := indexToHandle found.ui32NewIndex
    if !eFlag.multi && !outcome.hashInsert then
      some ({ purging with base }, .error .unableToAddHandle)
    else
      let base :=
        if eFlag.multi then base
        else
          { base with
            hashTab := Function.update base.hashTab
              { data := pvData, type := eType.value, parent := hParent }
              (some hHandle) }
      match found.psNewHandle with
      | none => none
      | some pointed =>
        some ((PurgingBase.mk base
          purging.ui32FreeHandBlockCount).placeHandle
            found.ui32NewIndex pointed pvData eType eFlag, .ok hHandle)

/-- `PVRSRVAllocHandle`. -/
def pvrsrvAllocHandle
    (eFlag : AllocFlag) (outcome : AllocOutcome) :
    Option (PurgingBase × Except HandleError Nat) :=
  let purging := { purging with base := purging.base.beginBatchAlloc }
  let existing :=
    if eFlag.multi then none
    else purging.base.hashTab
      { data := pvData, type := eType.value, parent := 0 }
  match existing with
  | some hHandle =>
    match purging.base.getHandleStructure hHandle eType.value with
    | .error error => some (purging, .error error)
    | .ok index =>
      if (purging.base.handles index).eFlag.shared && eFlag.shared then
        some ({ purging with base := purging.base.endBatchAlloc }, .ok hHandle)
      else
        some (purging, .error .handleNotShareable)
  | none =>
    match purging.allocHandle pvData eType eFlag 0 outcome with
    | none => none
    | some (purging, .error error) => some (purging, .error error)
    | some (purging, .ok hHandle) =>
      some ({ purging with base := purging.base.endBatchAlloc }, .ok hHandle)

/-- `PVRSRVAllocSubHandle`. -/
def pvrsrvAllocSubHandle
    (eFlag : AllocFlag) (hParent : Nat) (outcome : AllocOutcome) :
    Option (PurgingBase × Except HandleError Nat) :=
  let purging := { purging with base := purging.base.beginBatchAlloc }
  let hParentKey := if eFlag.priv then hParent else 0
  match purging.base.getHandleStructure hParent handleTypeNone with
  | .error error => some (purging, .error error)
  | .ok parent =>
    let existing :=
      if eFlag.multi then none
      else purging.base.hashTab
        { data := pvData, type := eType.value, parent := hParentKey }
    match existing with
    | some hHandle =>
      match purging.base.getHandleStructure hHandle eType.value with
      | .error error => some (purging, .error error)
      | .ok index =>
        if ((purging.base.handles index).eFlag.shared &&
            eFlag.shared) &&
            purging.base.parentHandle index = hParent then
          some ({ purging with base := purging.base.endBatchAlloc },
            .ok hHandle)
        else
          some (purging, .error .handleNotShareable)
    | none =>
      match purging.allocHandle pvData eType eFlag hParentKey
        outcome with
      | none => none
      | some (purging, .error error) => some (purging, .error error)
      | some (purging, .ok hHandle) =>
        some ({ purging with
          base := (purging.base.adoptChild parent
            (handleToIndex hHandle)).endBatchAlloc }, .ok hHandle)

end

/-! ## Freeing -/

/-- The part of `FreeHandle` after the children are freed, with purging
enabled. -/
def retireHandle (purging : PurgingBase) (index : Nat) : PurgingBase :=
  let base := purging.base.modify index fun handle =>
    { handle with eType := handleTypeNone }
  if (base.handles index).batched && !(base.handles index).partiallyFree then
    { purging with
      base := base.modify index fun handle =>
        { handle with partiallyFree := true } }
  else
    { base := { base with ui32FreeHandCount := base.ui32FreeHandCount + 1 }
      ui32FreeHandBlockCount := Function.update
        purging.ui32FreeHandBlockCount (indexToBlockIndex index)
        (purging.ui32FreeHandBlockCount (indexToBlockIndex index) + 1) }

/-- `FreeHandle` as the release of a node: it removes the handle from the hash
table and from its parent, iterates over the children, and retires the
handle. -/
def freeSteps : TreeRelease.Steps PurgingBase Nat where
  detach := fun purging index =>
    { purging with
      base := (purging.base.removeFromHash index).unlinkFromParent index }
  stop := fun purging index =>
    handleToIndex (purging.base.handles index).sChildren.hParent
  first := fun purging index => (purging.base.handles index).sChildren.ui32Next
  next := fun purging parent index => (purging.base.list parent index).ui32Next
  retire := retireHandle

/-- `FreeHandle`. -/
def freeHandle (purging : PurgingBase) (index : Nat) : Option PurgingBase :=
  TreeRelease.release freeSteps (2 * purging.base.ui32TotalHandCount + 2)
    purging index

/-- `PVRSRVReleaseHandle`. -/
def pvrsrvReleaseHandle (purging : PurgingBase) (hHandle eType : Nat) :
    Option (PurgingBase × Except HandleError Unit) :=
  match purging.base.getHandleStructure hHandle eType with
  | .error error => some (purging, .error error)
  | .ok index =>
    match purging.freeHandle index with
    | none => none
    | some purging => some (purging, .ok ())

/-- `PVRSRVLookupAndReleaseHandle`. -/
def pvrsrvLookupAndReleaseHandle
    (purging : PurgingBase) (hHandle eType : Nat) :
    Option (PurgingBase × Except HandleError Nat) :=
  match purging.base.getHandleStructure hHandle eType with
  | .error error => some (purging, .error error)
  | .ok index =>
    let pvData := (purging.base.handles index).pvData
    match purging.freeHandle index with
    | none => none
    | some purging => some (purging, .ok pvData)

/-! ## Batches -/

/-- `PVRSRVNewHandleBatch`. -/
def pvrsrvNewHandleBatch
    (purging : PurgingBase) (ui32BatchSize : Nat) (outcome : AllocOutcome) :
    PurgingBase × Except HandleError Unit :=
  if purging.base.handlesBatched then
    (purging, .error .handleBatchInUse)
  else if ui32BatchSize = 0 then
    (purging, .error .invalidParams)
  else
    match purging.ensureFreeHandles ui32BatchSize outcome.osAllocMem with
    | .error error => (purging, .error error)
    | .ok purging =>
      ({ purging with
          base := { purging.base with
            ui32HandBatchSize := ui32BatchSize } }, .ok ())

/-- The loop of `PVRSRVHandleBatchCommitOrRelease` over the batch, with a
bound on its length. -/
def commitOrReleaseLoop :
    Nat → PurgingBase → Bool → Nat → Option PurgingBase
  | _, purging, _, 0 => some purging
  | 0, _, _, _ + 1 => none
  | fuel + 1, purging, bCommitBatch, index + 1 =>
    let ui32NextIndexPlusOne :=
      (purging.base.handles index).ui32NextIndexPlusOne
    let base := purging.base.modify index fun handle =>
      { handle with ui32NextIndexPlusOne := 0 }
    if !bCommitBatch || (base.handles index).partiallyFree then
      let base :=
        if (base.handles index).partiallyFree then base
        else base.modify index fun handle => { handle with batched := false }
      match ({ purging with base } : PurgingBase).freeHandle index with
      | none => none
      | some purging =>
        commitOrReleaseLoop fuel purging bCommitBatch ui32NextIndexPlusOne
    else
      commitOrReleaseLoop fuel
        { purging with
          base := base.modify index fun handle =>
            { handle with batched := false } }
        bCommitBatch ui32NextIndexPlusOne

/-- `PVRSRVHandleBatchCommitOrRelease`. -/
def handleBatchCommitOrRelease (purging : PurgingBase) (bCommit : Bool) :
    Option (PurgingBase × Except HandleError Unit) :=
  if !purging.base.handlesBatched then
    some (purging, .error .invalidParams)
  else
    let bCommitBatch := bCommit && purging.base.ui32BatchHandAllocFailures = 0
    match commitOrReleaseLoop (purging.base.ui32TotalHandCount + 1) purging
      bCommitBatch purging.base.ui32FirstBatchIndexPlusOne with
    | none => none
    | some purging =>
      some ({ purging with
        base := { purging.base with
          ui32HandBatchSize := 0
          ui32FirstBatchIndexPlusOne := 0
          ui32BatchHandAllocFailures := 0 } }, .ok ())

/-! ## Purging -/

/-- The loop of `PVRSRVPurgeHandles` down to the last block with a structure
in use. -/
def usedBlocks (purging : PurgingBase) : Nat → Nat
  | 0 => 0
  | block + 1 =>
    if purging.ui32FreeHandBlockCount block ≠ handleBlockSize then block + 1
    else purging.usedBlocks block

/-- `PVRSRVPurgeHandles`. -/
def pvrsrvPurgeHandles (purging : PurgingBase) (osAllocMem : Bool) :
    PurgingBase × Except HandleError Unit :=
  if purging.base.handlesBatched then
    (purging, .error .invalidParams)
  else
    let ui32NewHandCount :=
      purging.usedBlocks
        (indexToBlockIndex purging.base.ui32TotalHandCount) * handleBlockSize
    if ui32NewHandCount ≤ purging.base.ui32TotalHandCount / 2 then
      match purging.reallocHandleArray ui32NewHandCount osAllocMem with
      | .error error => (purging, .error error)
      | .ok purging => (purging, .ok ())
    else
      (purging, .ok ())

/-- A new handle base with `PVRSRVEnableHandlePurging`, which needs an array
without structures, and with its limit set. -/
def create (memory : Nat → Handle) (ui32MaxHandle : Nat) : PurgingBase where
  base := HandleBase.create memory ui32MaxHandle
  ui32FreeHandBlockCount := fun _ => 0

end PurgingBase

/-! ## Runs -/

/-- Calls on a handle base with purging. -/
inductive PurgingOp where
  | call (op : HandleOp)
  | purge (osAllocMem : Bool)

namespace PurgingBase

/-- Perform one call. -/
def step (purging : PurgingBase) :
    PurgingOp → Option (PurgingBase × HandleResult)
  | .call (.alloc pvData eType eFlag outcome) =>
    (purging.pvrsrvAllocHandle pvData eType eFlag outcome).map
      fun (purging, result) => (purging, result.map .handle)
  | .call (.allocSub pvData eType eFlag hParent outcome) =>
    (purging.pvrsrvAllocSubHandle pvData eType eFlag hParent outcome).map
      fun (purging, result) => (purging, result.map .handle)
  | .call (.lookup hHandle eType) =>
    some (purging, (purging.base.pvrsrvLookupHandle hHandle eType).map .data)
  | .call (.lookupSub hHandle eType hAncestor) =>
    (purging.base.pvrsrvLookupSubHandle hHandle eType hAncestor).map
      fun result => (purging, result.map .data)
  | .call (.find pvData eType) =>
    some (purging, (purging.base.pvrsrvFindHandle pvData eType).map .handle)
  | .call (.getParent hHandle eType) =>
    some (purging,
      (purging.base.pvrsrvGetParentHandle hHandle eType).map .handle)
  | .call (.lookupAndRelease hHandle eType) =>
    (purging.pvrsrvLookupAndReleaseHandle hHandle eType).map
      fun (purging, result) => (purging, result.map .data)
  | .call (.release hHandle eType) =>
    (purging.pvrsrvReleaseHandle hHandle eType).map
      fun (purging, result) => (purging, result.map fun _ => .nothing)
  | .call (.newBatch ui32BatchSize outcome) =>
    let (purging, result) := purging.pvrsrvNewHandleBatch ui32BatchSize outcome
    some (purging, result.map fun _ => .nothing)
  | .call .commitBatch =>
    (purging.handleBatchCommitOrRelease true).map
      fun (purging, result) => (purging, result.map fun _ => .nothing)
  | .call .releaseBatch =>
    (purging.handleBatchCommitOrRelease false).map
      fun (purging, _) => (purging, .ok .nothing)
  | .purge osAllocMem =>
    let (purging, result) := purging.pvrsrvPurgeHandles osAllocMem
    some (purging, result.map fun _ => .nothing)

/-- Perform a sequence of calls. -/
def run : PurgingBase → List PurgingOp → Option PurgingBase
  | purging, [] => some purging
  | purging, op :: ops =>
    match purging.step op with
    | none => none
    | some (purging, _) => purging.run ops

end PurgingBase

/-! ## All bases -/

/-- `PVRSRV_HANDLE_BASE`, by `bPurgingEnabled`. -/
inductive AnyBase where
  | plain (base : HandleBase)
  | purging (base : PurgingBase)

namespace AnyBase

/-- The fields that every base has. -/
def base : AnyBase → HandleBase
  | plain base => base
  | purging base => base.base

/-- `FreeHandle`. -/
def freeHandle (any : AnyBase) (index : Nat) : Option AnyBase :=
  match any with
  | plain base => (base.freeHandle index).map plain
  | purging base => (base.freeHandle index).map purging

/-- Perform one call.  `PVRSRVPurgeHandles` refuses a base without purging. -/
def step (any : AnyBase) (op : PurgingOp) : Option (AnyBase × HandleResult) :=
  match any, op with
  | plain base, .call op =>
    (base.step op).map fun (base, result) => (plain base, result)
  | plain base, .purge _ => some (plain base, .error .notSupported)
  | purging base, op =>
    (base.step op).map fun (base, result) => (purging base, result)

/-- Perform a sequence of calls. -/
def run : AnyBase → List PurgingOp → Option AnyBase
  | any, [] => some any
  | any, op :: ops =>
    match any.step op with
    | none => none
    | some (any, _) => any.run ops

/-- A new handle base, with `PVRSRVEnableHandlePurging` or without. -/
def create
    (bPurgingEnabled : Bool) (memory : Nat → Handle) (ui32MaxHandle : Nat) :
    AnyBase :=
  if bPurgingEnabled then purging (PurgingBase.create memory ui32MaxHandle)
  else plain (HandleBase.create memory ui32MaxHandle)

end AnyBase

end PvrServices.Handles
