import Mathlib.Algebra.Group.Nat.Defs
import Mathlib.Logic.Function.Basic

/-!
# Handle bases

A handle base is an array of handle structures.  Free structures form a chain
through their index links, batched ones another chain through the same links,
and live ones trees through circular sibling lists.  A hash table maps the key
of a handle to the handle.  Bases here have no purging, so the counts of free
structures per block are not kept.
-/

namespace PvrServices.Handles

/-! ## Data -/

/-- `struct sHandleList`.  The parent is a handle, 0 for none. -/
structure HandleList where
  ui32Prev : Nat
  ui32Next : Nat
  hParent : Nat
deriving DecidableEq, Repr

/-- The bits of `PVRSRV_HANDLE_ALLOC_FLAG`. -/
structure AllocFlag where
  shared : Bool
  multi : Bool
  priv : Bool
deriving DecidableEq, Repr

/-- `PVRSRV_HANDLE_TYPE_NONE`. -/
abbrev handleTypeNone : Nat := 0

/-- A handle type other than `PVRSRV_HANDLE_TYPE_NONE`, as the allocation
functions are given. -/
structure HandleType where
  value : Nat
  isType : value ≠ handleTypeNone

/-- `struct sHandle`.  The two flags are the bits of `eInternalFlag`; the index
of a structure is its place in the array. -/
structure Handle where
  eType : Nat
  pvData : Nat
  ui32NextIndexPlusOne : Nat
  batched : Bool
  partiallyFree : Bool
  eFlag : AllocFlag
  sChildren : HandleList
  sSiblings : HandleList
deriving DecidableEq, Repr

/-- `HAND_KEY`. -/
structure HandKey where
  data : Nat
  type : Nat
  parent : Nat
deriving DecidableEq, Repr

/-- `PVRSRV_HANDLE_BASE`, with the handle structures by index. -/
structure HandleBase where
  handles : Nat → Handle
  hashTab : HandKey → Option Nat
  ui32FreeHandCount : Nat
  ui32FirstFreeIndex : Nat
  ui32MaxIndexPlusOne : Nat
  ui32TotalHandCount : Nat
  ui32LastFreeIndexPlusOne : Nat
  ui32HandBatchSize : Nat
  ui32FirstBatchIndexPlusOne : Nat
  ui32BatchHandAllocFailures : Nat

/-- Errors of the handle functions. -/
inductive HandleError where
  | handleIndexOutOfRange
  | handleNotAllocated
  | handleTypeMismatch
  | handleNotShareable
  | handleNotFound
  | invalidSubhandle
  | unableToAddHandle
  | handleBatchInUse
  | invalidParams
  | outOfMemory
  | notSupported
deriving DecidableEq, Repr

/-- What the allocators answer during one call: whether all the allocations of
a new handle array succeed, and whether the hash insertion does. -/
structure AllocOutcome where
  osAllocMem : Bool
  hashInsert : Bool
deriving DecidableEq, Repr

/-- `HANDLE_BLOCK_SIZE`. -/
abbrev handleBlockSize : Nat := 256

/-- `DEFAULT_MAX_HANDLE`. -/
abbrev defaultMaxHandle : Nat := 0x7fffffff

/-- `ROUND_DOWN_TO_MULTIPLE_OF_BLOCK_SIZE`. -/
def roundDownToBlockSize (a : Nat) : Nat :=
  a / handleBlockSize * handleBlockSize

/-- `ROUND_UP_TO_MULTIPLE_OF_BLOCK_SIZE`. -/
def roundUpToBlockSize (a : Nat) : Nat :=
  roundDownToBlockSize ((a + (handleBlockSize - 1)) % 2 ^ 32)

/-- `INDEX_TO_HANDLE`. -/
abbrev indexToHandle (index : Nat) : Nat :=
  index + 1

/-- One less, in 32 bits. -/
def oneLess (word : Nat) : Nat :=
  if word = 0 then 2 ^ 32 - 1 else word - 1

/-- `HANDLE_TO_INDEX`. -/
def handleToIndex (handle : Nat) : Nat :=
  oneLess (handle % 2 ^ 32)

namespace HandleBase

/-- Change one handle structure. -/
def modify (base : HandleBase) (index : Nat) (change : Handle → Handle) :
    HandleBase :=
  { base with
    handles := Function.update base.handles index
      (change (base.handles index)) }

/-- `LIST_PTR_FROM_INDEX_AND_OFFSET`, for the children of `parent`. -/
def list (base : HandleBase) (parent index : Nat) : HandleList :=
  if index = parent then (base.handles index).sChildren
  else (base.handles index).sSiblings

/-- Change the list fields that `list` reads. -/
def modifyList
    (base : HandleBase) (parent index : Nat)
    (change : HandleList → HandleList) :
    HandleBase :=
  base.modify index fun handle =>
    if index = parent then
      { handle with sChildren := change handle.sChildren }
    else
      { handle with sSiblings := change handle.sSiblings }

/-- Change the sibling field of a handle structure. -/
def modifySiblings
    (base : HandleBase) (index : Nat) (change : HandleList → HandleList) :
    HandleBase :=
  base.modify index fun handle =>
    { handle with sSiblings := change handle.sSiblings }

/-- `ParentHandle`. -/
def parentHandle (base : HandleBase) (index : Nat) : Nat :=
  (base.handles index).sSiblings.hParent

/-- `HANDLES_BATCHED`. -/
def handlesBatched (base : HandleBase) : Bool :=
  base.ui32HandBatchSize ≠ 0

/-! ## Sibling lists -/

/-- `AdoptChild`, with `HandleListInsertBefore`. -/
def adoptChild (base : HandleBase) (parent child : Nat) : HandleBase :=
  let last := (base.handles parent).sChildren.ui32Prev
  let base := base.modifySiblings child
    fun list => { list with ui32Prev := last }
  let base := base.modifyList parent parent
    fun list => { list with ui32Prev := child }
  let base := base.modifySiblings child
    fun list => { list with ui32Next := parent }
  let base := base.modifyList parent last
    fun list => { list with ui32Next := child }
  base.modifySiblings child
    fun list => { list with hParent := indexToHandle parent }

/-- `UnlinkFromParent`, with `HandleListRemove`. -/
def unlinkFromParent (base : HandleBase) (index : Nat) : HandleBase :=
  let entry := (base.handles index).sSiblings
  if entry.ui32Next = index then base
  else
    let parent := handleToIndex entry.hParent
    let base := base.modifyList parent entry.ui32Prev
      fun list => { list with ui32Next := entry.ui32Next }
    let base := base.modifyList parent entry.ui32Next
      fun list => { list with ui32Prev := entry.ui32Prev }
    base.modifySiblings index
      fun _ => { ui32Prev := index, ui32Next := index, hParent := 0 }

/-! ## Looking up -/

/-- `GetHandleStructure`, with the index of the structure. -/
def getHandleStructure (base : HandleBase) (hHandle eType : Nat) :
    Except HandleError Nat :=
  let index := handleToIndex hHandle
  if ¬ index < base.ui32TotalHandCount then
    .error .handleIndexOutOfRange
  else if (base.handles index).eType = handleTypeNone then
    .error .handleNotAllocated
  else if eType ≠ handleTypeNone ∧ eType ≠ (base.handles index).eType then
    .error .handleTypeMismatch
  else
    .ok index

/-- `ParentIfPrivate`. -/
def parentIfPrivate (base : HandleBase) (index : Nat) : Nat :=
  if (base.handles index).eFlag.priv then base.parentHandle index else 0

/-- The key `InitKey` builds for a handle that is freed. -/
def keyOf (base : HandleBase) (index : Nat) : HandKey where
  data := (base.handles index).pvData
  type := (base.handles index).eType
  parent := base.parentIfPrivate index

/-! ## Growing the array -/

/-- `ReallocHandleArray` for a count that is not zero. -/
def reallocHandleArray
    (base : HandleBase) (ui32NewCount : Nat) (osAllocMem : Bool) :
    Except HandleError HandleBase :=
  let ui32OldCount := base.ui32TotalHandCount
  if ui32NewCount = ui32OldCount then
    .ok base
  else if ui32NewCount < ui32OldCount then
    .error .invalidParams
  else if ui32OldCount % handleBlockSize ≠ 0 ∨
      ui32NewCount % handleBlockSize ≠ 0 then
    .error .invalidParams
  else if !osAllocMem then
    .error .outOfMemory
  else
    let base := { base with
      handles := fun index =>
        if ui32OldCount ≤ index ∧ index < ui32NewCount then
          { base.handles index with
            eType := handleTypeNone
            batched := false
            partiallyFree := false
            ui32NextIndexPlusOne := 0 }
        else base.handles index
      ui32TotalHandCount := ui32NewCount
      ui32FreeHandCount :=
        base.ui32FreeHandCount + (ui32NewCount - ui32OldCount) }
    let base :=
      if base.ui32FirstFreeIndex = 0 then
        { base with ui32FirstFreeIndex := ui32OldCount }
      else
        base.modify (base.ui32LastFreeIndexPlusOne - 1) fun handle =>
          { handle with ui32NextIndexPlusOne := ui32OldCount + 1 }
    .ok { base with ui32LastFreeIndexPlusOne := ui32NewCount }

/-- The count `IncreaseHandleArraySize` asks for, unless the limit is
reached. -/
def increasedCount (base : HandleBase) (ui32Delta : Nat) : Option Nat :=
  let ui32NewTotalHandCount :=
    (base.ui32TotalHandCount + roundUpToBlockSize ui32Delta) % 2 ^ 32
  if ui32NewTotalHandCount > base.ui32MaxIndexPlusOne ∨
      ui32NewTotalHandCount ≤ base.ui32TotalHandCount then
    if base.ui32MaxIndexPlusOne - base.ui32TotalHandCount < ui32Delta then
      none
    else
      some base.ui32MaxIndexPlusOne
  else
    some ui32NewTotalHandCount

/-- `IncreaseHandleArraySize`. -/
def increaseHandleArraySize
    (base : HandleBase) (ui32Delta : Nat) (osAllocMem : Bool) :
    Except HandleError HandleBase :=
  match base.increasedCount ui32Delta with
  | none => .error .outOfMemory
  | some ui32NewTotalHandCount =>
    base.reallocHandleArray ui32NewTotalHandCount osAllocMem

/-- `EnsureFreeHandles`. -/
def ensureFreeHandles
    (base : HandleBase) (ui32Free : Nat) (osAllocMem : Bool) :
    Except HandleError HandleBase :=
  if ui32Free > base.ui32FreeHandCount then
    base.increaseHandleArraySize (ui32Free - base.ui32FreeHandCount) osAllocMem
  else
    .ok base

/-! ## Allocating -/

/-- The free structure after `index`. -/
def nextFree (base : HandleBase) (index : Nat) : Nat :=
  if (base.handles index).ui32NextIndexPlusOne = 0 then index + 1
  else (base.handles index).ui32NextIndexPlusOne - 1

/-- Take the first free structure out of the chain. -/
def takeFirstFree (base : HandleBase) : HandleBase :=
  let ui32FreeHandCount := base.ui32FreeHandCount - 1
  if ui32FreeHandCount = 0 then
    { base with
      ui32FreeHandCount
      ui32LastFreeIndexPlusOne := 0
      ui32FirstFreeIndex := 0 }
  else
    { base with
      ui32FreeHandCount
      ui32FirstFreeIndex := base.nextFree base.ui32FirstFreeIndex }

/-- Fill in a new handle structure, and put it in front of the batch if there
is one. -/
def initHandle
    (base : HandleBase) (index pvData : Nat) (eType : HandleType)
    (eFlag : AllocFlag) :
    HandleBase :=
  let batched := base.handlesBatched
  let base :=
    { base with
      handles := Function.update base.handles index
        { eType := eType.value
          pvData
          ui32NextIndexPlusOne :=
            if batched then base.ui32FirstBatchIndexPlusOne else 0
          batched
          partiallyFree := false
          eFlag
          sChildren :=
            { ui32Prev := index
              ui32Next := index
              hParent := indexToHandle index }
          sSiblings :=
            { ui32Prev := index, ui32Next := index, hParent := 0 } } }
  if batched then
    { base with ui32FirstBatchIndexPlusOne := index + 1 }
  else base

/-- `AllocHandle`. -/
def allocHandle
    (base : HandleBase) (pvData : Nat) (eType : HandleType)
    (eFlag : AllocFlag) (hParent : Nat) (outcome : AllocOutcome) :
    HandleBase × Except HandleError Nat :=
  match base.ensureFreeHandles 1 outcome.osAllocMem with
  | .error error => (base, .error error)
  | .ok base =>
    let ui32NewIndex := base.ui32FirstFreeIndex
    let hHandle := indexToHandle ui32NewIndex
    if !eFlag.multi && !outcome.hashInsert then
      (base, .error .unableToAddHandle)
    else
      let base :=
        if eFlag.multi then base
        else
          { base with
            hashTab := Function.update base.hashTab
              { data := pvData, type := eType.value, parent := hParent }
              (some hHandle) }
      (base.takeFirstFree.initHandle ui32NewIndex pvData eType eFlag,
        .ok hHandle)

/-- Count an allocation that is under way in a batch as failed. -/
def beginBatchAlloc (base : HandleBase) : HandleBase :=
  if base.handlesBatched then
    { base with
      ui32BatchHandAllocFailures :=
        (base.ui32BatchHandAllocFailures + 1) % 2 ^ 32 }
  else base

/-- Take back the failure counted by `beginBatchAlloc`. -/
def endBatchAlloc (base : HandleBase) : HandleBase :=
  if base.handlesBatched then
    { base with
      ui32BatchHandAllocFailures := oneLess base.ui32BatchHandAllocFailures }
  else base

/-- `PVRSRVAllocHandle`. -/
def pvrsrvAllocHandle
    (base : HandleBase) (pvData : Nat) (eType : HandleType)
    (eFlag : AllocFlag) (outcome : AllocOutcome) :
    HandleBase × Except HandleError Nat :=
  let base := base.beginBatchAlloc
  let existing :=
    if eFlag.multi then none
    else base.hashTab { data := pvData, type := eType.value, parent := 0 }
  match existing with
  | some hHandle =>
    match base.getHandleStructure hHandle eType.value with
    | .error error => (base, .error error)
    | .ok index =>
      if (base.handles index).eFlag.shared && eFlag.shared then
        (base.endBatchAlloc, .ok hHandle)
      else
        (base, .error .handleNotShareable)
  | none =>
    match base.allocHandle pvData eType eFlag 0 outcome with
    | (base, .error error) => (base, .error error)
    | (base, .ok hHandle) => (base.endBatchAlloc, .ok hHandle)

/-- `PVRSRVAllocSubHandle`. -/
def pvrsrvAllocSubHandle
    (base : HandleBase) (pvData : Nat) (eType : HandleType)
    (eFlag : AllocFlag) (hParent : Nat) (outcome : AllocOutcome) :
    HandleBase × Except HandleError Nat :=
  let base := base.beginBatchAlloc
  let hParentKey := if eFlag.priv then hParent else 0
  match base.getHandleStructure hParent handleTypeNone with
  | .error error => (base, .error error)
  | .ok parent =>
    let existing :=
      if eFlag.multi then none
      else base.hashTab
        { data := pvData, type := eType.value, parent := hParentKey }
    match existing with
    | some hHandle =>
      match base.getHandleStructure hHandle eType.value with
      | .error error => (base, .error error)
      | .ok index =>
        if ((base.handles index).eFlag.shared && eFlag.shared) &&
            base.parentHandle index = hParent then
          (base.endBatchAlloc, .ok hHandle)
        else
          (base, .error .handleNotShareable)
    | none =>
      match base.allocHandle pvData eType eFlag hParentKey outcome with
      | (base, .error error) => (base, .error error)
      | (base, .ok hHandle) =>
        ((base.adoptChild parent (handleToIndex hHandle)).endBatchAlloc,
          .ok hHandle)

/-! ## Freeing -/

/-- Remove a handle from the hash table, where `FreeHandle` does so. -/
def removeFromHash (base : HandleBase) (index : Nat) : HandleBase :=
  if !(base.handles index).eFlag.multi &&
      !(base.handles index).partiallyFree then
    { base with
      hashTab := Function.update base.hashTab (base.keyOf index) none }
  else base

/-- Append a structure to the chain of free ones. -/
def appendFree (base : HandleBase) (index : Nat) : HandleBase :=
  let base :=
    if base.ui32FreeHandCount = 0 then
      { base with ui32FirstFreeIndex := index }
    else
      base.modify (base.ui32LastFreeIndexPlusOne - 1) fun handle =>
        { handle with ui32NextIndexPlusOne := index + 1 }
  { base with
    ui32LastFreeIndexPlusOne := index + 1
    ui32FreeHandCount := base.ui32FreeHandCount + 1 }

/-- The part of `FreeHandle` after the children are freed. -/
def retireHandle (base : HandleBase) (index : Nat) : HandleBase :=
  let base := base.modify index fun handle =>
    { handle with eType := handleTypeNone }
  if (base.handles index).batched && !(base.handles index).partiallyFree then
    base.modify index fun handle => { handle with partiallyFree := true }
  else
    base.appendFree index

mutual

/-- `FreeHandle`, with a bound on the depth of the calls. -/
def freeHandleWithin : Nat → HandleBase → Nat → Option HandleBase
  | 0, _, _ => none
  | fuel + 1, base, index =>
    let base := (base.removeFromHash index).unlinkFromParent index
    let psHead := (base.handles index).sChildren
    match iterateOverChildren fuel base (handleToIndex psHead.hParent)
      psHead.ui32Next with
    | none => none
    | some base => some (base.retireHandle index)

/-- `IterateOverChildren` applied to `FreeHandle`, from a child on. -/
def iterateOverChildren : Nat → HandleBase → Nat → Nat → Option HandleBase
  | 0, _, _, _ => none
  | fuel + 1, base, parent, index =>
    if index = parent then some base
    else
      let next := (base.list parent index).ui32Next
      match freeHandleWithin fuel base index with
      | none => none
      | some base => iterateOverChildren fuel base parent next

end

/-- `FreeHandle`. -/
def freeHandle (base : HandleBase) (index : Nat) : Option HandleBase :=
  base.freeHandleWithin (2 * base.ui32TotalHandCount + 2) index

end HandleBase

end PvrServices.Handles
