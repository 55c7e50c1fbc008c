import PvrServices.Lib.IntrusiveList

/-!
# The resource manager

A resource manager context is the list of the resources a process holds.  Each
item of the list has a callback that frees the resource.  Contexts and items
are intrusive lists in memory; a function that touches freed memory has no
value.  Free callbacks leave the lists alone, so only their results and the
order in which they are called matter here.  The mutex is left out: a call here
has it when it asks for it.  `ResManDissociateRes` to no context ends with the
mutex taken and not released, so that a later call in the driver may wait.
-/

namespace PvrServices.Resman

open IntrusiveList

/-! ## Data -/

/-- `PVRSRV_ERROR`. -/
abbrev PvrsrvError := BitVec 32

/-- `PVRSRV_OK`. -/
abbrev pvrsrvOk : PvrsrvError := 0

/-- `PVRSRV_ERROR_OUT_OF_MEMORY`. -/
abbrev pvrsrvErrorOutOfMemory : PvrsrvError := 1

/-- `PVRSRV_ERROR_INVALID_PARAMS`. -/
abbrev pvrsrvErrorInvalidParams : PvrsrvError := 3

/-- `PVRSRV_ERROR_NOT_OWNER`. -/
abbrev pvrsrvErrorNotOwner : PvrsrvError := 7

/-- Address of an item or a context. -/
abbrev Address := Nat

/-- `RESMAN_ITEM` without its links. -/
structure ResmanItem where
  ui32Flags : BitVec 32
  ui32ResType : BitVec 32
  pvParam : BitVec 64
  ui32Param : BitVec 32
  pfnFreeResource : BitVec 64
deriving DecidableEq, Repr

/-- A call of the free callback of an item. -/
structure FreeCall where
  psItem : Address
  pfnFreeResource : BitVec 64
  pvParam : BitVec 64
  ui32Param : BitVec 32
  bForceCleanup : Bool
deriving DecidableEq, Repr

/-- The contexts in `gpsResList` with their `psPerProc`, the items, and the
links of both.  `calls` are the callbacks called so far. -/
structure ResmanState where
  contextLinks : Memory Unit Address
  itemLinks : Memory Address Address
  contexts : Address → Option Address
  items : Address → Option ResmanItem
  calls : List FreeCall

/-! ## Resource types -/

abbrev resmanTypeSharedPbDesc : BitVec 32 := 1
abbrev resmanTypeSharedPbDescCreateLock : BitVec 32 := 2
abbrev resmanTypeHwRenderContext : BitVec 32 := 3
abbrev resmanTypeHwTransferContext : BitVec 32 := 4
abbrev resmanTypeHw2dContext : BitVec 32 := 5
abbrev resmanTypeTransferContext : BitVec 32 := 6
abbrev resmanTypeDmaClientFifoData : BitVec 32 := 7
abbrev resmanTypeDisplayclassSwapchainRef : BitVec 32 := 8
abbrev resmanTypeDisplayclassDevice : BitVec 32 := 9
abbrev resmanTypeBufferclassDevice : BitVec 32 := 10
abbrev resmanTypeOsUsermodeMapping : BitVec 32 := 11
abbrev resmanTypeDevicememContext : BitVec 32 := 12
abbrev resmanTypeDeviceclassmemMapping : BitVec 32 := 13
abbrev resmanTypeDevicememMapping : BitVec 32 := 14
abbrev resmanTypeDevicememWrap : BitVec 32 := 15
abbrev resmanTypeDevicememAllocation : BitVec 32 := 16
abbrev resmanTypeEventObject : BitVec 32 := 17
abbrev resmanTypeSharedMemInfo : BitVec 32 := 18
abbrev resmanTypeModifySyncOps : BitVec 32 := 19
abbrev resmanTypeSyncInfo : BitVec 32 := 20
abbrev resmanTypeKernelDevicememAllocation : BitVec 32 := 21

/-- `RESMAN_CRITERIA_RESTYPE`. -/
abbrev resmanCriteriaRestype : BitVec 32 := 1

/-- `RESMAN_CRITERIA_PVOID_PARAM`. -/
abbrev resmanCriteriaPvoidParam : BitVec 32 := 2

/-- `RESMAN_CRITERIA_UI32_PARAM`. -/
abbrev resmanCriteriaUi32Param : BitVec 32 := 4

/-- `CLEANUP_WITH_POLL`. -/
abbrev cleanupWithPoll : Bool := false

/-! ## Contexts and items -/

/-- `ResManInit`, on whatever memory held before. -/
def resManInit (contextLinks : Memory Unit Address)
    (itemLinks : Memory Address Address) : ResmanState where
  contextLinks := { contextLinks with head := fun _ => none }
  itemLinks := itemLinks
  contexts := fun _ => none
  items := fun _ => none
  calls := []

/-- `PVRSRVResManConnect`.  The memory for the context is at `allocated`,
which is not in use. -/
def pvrsrvResManConnect (state : ResmanState) (hPerProc : Address)
    (allocated : Option Address) : Option (PvrsrvError × ResmanState) :=
  match allocated with
  | none => some (pvrsrvErrorOutOfMemory, state)
  | some psResManContext =>
    if (state.contexts psResManContext).isSome then none
    else some (pvrsrvOk,
      { state with
        contexts :=
          Function.update state.contexts psResManContext (some hPerProc)
        itemLinks := state.itemLinks.store (.head psResManContext) none
        contextLinks := state.contextLinks.insert () psResManContext })

/-- `ResManRegisterRes`.  The memory for the item is at `allocated`, which is
not in use. -/
def resManRegisterRes (state : ResmanState)
    (psResManContext : Option Address) (ui32ResType : BitVec 32)
    (pvParam : BitVec 64) (ui32Param : BitVec 32)
    (pfnFreeResource : BitVec 64) (allocated : Option Address) :
    Option (Option Address × ResmanState) :=
  match psResManContext, allocated with
  | none, _ => some (none, state)
  | some _, none => some (none, state)
  | some psResManContext, some psNewResItem => do
      let _ ← state.contexts psResManContext
      if (state.items psNewResItem).isSome then none
      else some (some psNewResItem,
        { state with
          items := Function.update state.items psNewResItem
            (some { ui32Flags := 0, ui32ResType, pvParam, ui32Param,
                    pfnFreeResource })
          itemLinks := state.itemLinks.insert psResManContext psNewResItem })

/-! ## Freeing -/

/-- `FreeResourceByPtr`, where `result` is what the callback of each item
returns. -/
def freeResourceByPtr (result : Address → PvrsrvError) (state : ResmanState)
    (psItem : Address) (bExecuteCallback bForceCleanup : Bool) :
    Option (PvrsrvError × ResmanState) := do
  let item ← state.items psItem
  let call : FreeCall :=
    { psItem, pfnFreeResource := item.pfnFreeResource,
      pvParam := item.pvParam, ui32Param := item.ui32Param, bForceCleanup }
  some (if bExecuteCallback then result psItem else pvrsrvOk,
    { state with
      itemLinks := state.itemLinks.remove psItem
      calls := if bExecuteCallback then state.calls ++ [call] else state.calls
      items := Function.update state.items psItem none })

/-- The test of `FreeResourceByCriteria_AnyVaCb`. -/
def ResmanItem.fits (item : ResmanItem)
    (ui32SearchCriteria ui32ResType : BitVec 32) (pvParam : BitVec 64)
    (ui32Param : BitVec 32) : Bool :=
  (ui32SearchCriteria &&& resmanCriteriaRestype == 0 ||
      item.ui32ResType == ui32ResType) &&
    (ui32SearchCriteria &&& resmanCriteriaPvoidParam == 0 ||
      item.pvParam == pvParam) &&
    (ui32SearchCriteria &&& resmanCriteriaUi32Param == 0 ||
      item.ui32Param == ui32Param)

/-- `FreeResourceByCriteria_AnyVaCb`. -/
def freeResourceByCriteriaAnyVaCb (state : ResmanState)
    (ui32SearchCriteria ui32ResType : BitVec 32) (pvParam : BitVec 64)
    (ui32Param : BitVec 32) (psCurItem : Address) :
    Option (Option Address) :=
  (state.items psCurItem).map fun item =>
    if item.fits ui32SearchCriteria ui32ResType pvParam ui32Param then
      some psCurItem
    else none

/-- The loop of `FreeResourceByCriteria`; each of its searches has `bound`
steps. -/
def freeResourceByCriteriaLoop (bound : Nat) (result : Address → PvrsrvError)
    (psResManContext : Address) (ui32SearchCriteria ui32ResType : BitVec 32)
    (pvParam : BitVec 64) (ui32Param : BitVec 32) (bExecuteCallback : Bool) :
    Nat → PvrsrvError → ResmanState → Option (PvrsrvError × ResmanState)
  | 0, _, _ => none
  | fuel + 1, eError, state => do
      let psCurItem ← Memory.anyVa
        (freeResourceByCriteriaAnyVaCb state ui32SearchCriteria ui32ResType
          pvParam ui32Param)
        bound state.itemLinks (state.itemLinks.head psResManContext)
      match psCurItem with
      | none => some (eError, state)
      | some psCurItem =>
        if eError = pvrsrvOk then do
          let (eError, state) ← freeResourceByPtr result state psCurItem
            bExecuteCallback cleanupWithPoll
          freeResourceByCriteriaLoop bound result psResManContext
            ui32SearchCriteria ui32ResType pvParam ui32Param
            bExecuteCallback fuel eError state
        else some (eError, state)

/-- `FreeResourceByCriteria`. -/
def freeResourceByCriteria (fuel : Nat) (result : Address → PvrsrvError)
    (state : ResmanState) (psResManContext : Address)
    (ui32SearchCriteria ui32ResType : BitVec 32) (pvParam : BitVec 64)
    (ui32Param : BitVec 32) (bExecuteCallback : Bool) :
    Option (PvrsrvError × ResmanState) := do
  let _ ← state.contexts psResManContext
  freeResourceByCriteriaLoop fuel result psResManContext ui32SearchCriteria
    ui32ResType pvParam ui32Param bExecuteCallback fuel pvrsrvOk state

/-- `ResManFreeResByPtr`. -/
def resManFreeResByPtr (result : Address → PvrsrvError) (state : ResmanState)
    (psResItem : Option Address) (bForceCleanup : Bool) :
    Option (PvrsrvError × ResmanState) :=
  match psResItem with
  | none => some (pvrsrvOk, state)
  | some psResItem => freeResourceByPtr result state psResItem true
      bForceCleanup

/-- `ResManFreeResByCriteria`. -/
def resManFreeResByCriteria (fuel : Nat) (result : Address → PvrsrvError)
    (state : ResmanState) (psResManContext : Address)
    (ui32SearchCriteria ui32ResType : BitVec 32) (pvParam : BitVec 64)
    (ui32Param : BitVec 32) : Option (PvrsrvError × ResmanState) :=
  freeResourceByCriteria fuel result state psResManContext
    ui32SearchCriteria ui32ResType pvParam ui32Param true

/-- `ResManDissociateRes`. -/
def resManDissociateRes (result : Address → PvrsrvError)
    (state : ResmanState) (psResItem psNewResManContext : Option Address) :
    Option (PvrsrvError × ResmanState) :=
  match psResItem, psNewResManContext with
  | none, _ => some (pvrsrvErrorInvalidParams, state)
  | some psResItem, none => freeResourceByPtr result state psResItem false
      cleanupWithPoll
  | some psResItem, some psNewResManContext => do
      let _ ← state.items psResItem
      let _ ← state.contexts psNewResManContext
      some (pvrsrvOk,
        { state with
          itemLinks := (state.itemLinks.remove psResItem).insert
            psNewResManContext psResItem })

/-! ## Disconnecting -/

/-- `FreeResourceByCriteria` for one resource type, as
`PVRSRVResManDisconnect` calls it. -/
def freeResourceType (fuel : Nat) (result : Address → PvrsrvError)
    (psResManContext : Address) (state : ResmanState)
    (ui32ResType : BitVec 32) : Option ResmanState :=
  (freeResourceByCriteria fuel result state psResManContext
    resmanCriteriaRestype ui32ResType 0 0 true).map Prod.snd

/-- `List_RESMAN_ITEM_Reverse` on the items of a context. -/
def reverseItems (fuel : Nat) (psResManContext : Address)
    (state : ResmanState) : Option ResmanState :=
  (state.itemLinks.reverse fuel psResManContext).map fun itemLinks =>
    { state with itemLinks }

/-- Types `PVRSRVResManDisconnect` frees before the sync modifications. -/
def typesBeforeSyncOps : List (BitVec 32) :=
  [resmanTypeOsUsermodeMapping, resmanTypeDmaClientFifoData,
   resmanTypeEventObject]

/-- Types `PVRSRVResManDisconnect` frees after the sync modifications. -/
def typesAfterSyncOps : List (BitVec 32) :=
  [resmanTypeHwRenderContext, resmanTypeHwTransferContext,
   resmanTypeHw2dContext, resmanTypeTransferContext,
   resmanTypeSharedPbDescCreateLock, resmanTypeSharedPbDesc,
   resmanTypeSyncInfo, resmanTypeDeviceclassmemMapping,
   resmanTypeDevicememWrap, resmanTypeDevicememMapping,
   resmanTypeKernelDevicememAllocation, resmanTypeDevicememAllocation,
   resmanTypeDevicememContext, resmanTypeSharedMemInfo,
   resmanTypeDisplayclassSwapchainRef, resmanTypeDisplayclassDevice,
   resmanTypeBufferclassDevice]

/-- The calls of `PVRSRVResManDisconnect` that free the items. -/
def freeAllResources (fuel : Nat) (result : Address → PvrsrvError)
    (psResManContext : Address) (state : ResmanState) :
    Option ResmanState := do
  let state ← typesBeforeSyncOps.foldlM
    (freeResourceType fuel result psResManContext) state
  let state ← reverseItems fuel psResManContext state
  let state ← freeResourceType fuel result psResManContext state
    resmanTypeModifySyncOps
  let state ← reverseItems fuel psResManContext state
  typesAfterSyncOps.foldlM (freeResourceType fuel result psResManContext) state

/-- `PVRSRVResManDisconnect`. -/
def pvrsrvResManDisconnect (fuel : Nat) (result : Address → PvrsrvError)
    (state : ResmanState) (psResManContext : Address)
    (bKernelContext : Bool) : Option ResmanState := do
  let _ ← state.contexts psResManContext
  let state ←
    if bKernelContext then some state
    else freeAllResources fuel result psResManContext state
  some { state with
    contextLinks := state.contextLinks.remove psResManContext
    contexts := Function.update state.contexts psResManContext none }

/-- The callback of `ResManFindResourceByPtr` with the search. -/
def resManFindResourceByPtr (fuel : Nat) (state : ResmanState)
    (psResManContext psItem : Option Address) : Option PvrsrvError :=
  match psResManContext, psItem with
  | some psResManContext, some psItem => do
      let _ ← state.contexts psResManContext
      let found ← Memory.anyVa
        (fun psCurItem => (state.items psCurItem).map fun _ =>
          if psCurItem = psItem then some () else none)
        fuel state.itemLinks (state.itemLinks.head psResManContext)
      some (if found.isSome then pvrsrvOk else pvrsrvErrorNotOwner)
  | _, _ => some pvrsrvErrorInvalidParams

end PvrServices.Resman
