import PvrServices.Resman.Base
import Mathlib.Algebra.Group.Pi.Basic
import Mathlib.Algebra.Ring.Int.Defs

/-!
# Creating a swap chain

A swap chain of a display device has a command queue, a sync info for each of
its buffers, and a swap chain of the display driver.  It is held by
references, which are resources of their processes.  A creation that fails
gives back at `ErrorExit` what it has acquired, in another order.
-/

namespace PvrServices.DisplayClass

open Resman (Address PvrsrvError pvrsrvErrorOutOfMemory
  pvrsrvErrorInvalidParams)

/-! ## Constants -/

/-- `PVRSRV_ERROR_TOO_FEW_BUFFERS`. -/
abbrev pvrsrvErrorTooFewBuffers : PvrsrvError := 2

/-- `PVRSRV_ERROR_FLIP_CHAIN_EXISTS`. -/
abbrev pvrsrvErrorFlipChainExists : PvrsrvError := 10

/-- `PVRSRV_ERROR_TOOMANYBUFFERS`. -/
abbrev pvrsrvErrorTooManyBuffers : PvrsrvError := 18

/-- `PVRSRV_ERROR_UNABLE_TO_LOCK_RESOURCE`. -/
abbrev pvrsrvErrorUnableToLockResource : PvrsrvError := 106

/-- `PVRSRV_MAX_DC_SWAPCHAIN_BUFFERS`. -/
abbrev pvrsrvMaxDCSwapchainBuffers : Nat := 9

/-- `PVRSRV_CREATE_SWAPCHAIN_SHARED`. -/
abbrev pvrsrvCreateSwapchainShared : BitVec 32 := 1 <<< 0

/-- `PVRSRV_CREATE_SWAPCHAIN_QUERY`. -/
abbrev pvrsrvCreateSwapchainQuery : BitVec 32 := 1 <<< 1

/-! ## What is held -/

/-- What a creation acquires. -/
inductive Resource where
  | swapChain (psSwapChain : Address)
  | queueInfo (psQueueInfo : Address)
  | queueBuffer (pvLinQueueKM : Address)
  | syncInfo (psKernelSyncInfo : Address)
  | syncData (psSyncDataMemInfoKM : Address)
  | extSwapChain (hExtSwapChain : Address)
  | swapChainRef (psSwapChainRef : Address)
  | resItem (hResItem : Address)
deriving DecidableEq

/-- A swap chain in the list of the device. -/
structure SwapChain where
  psSwapChain : Address
  ui32SwapChainID : BitVec 32
  ui32RefCount : BitVec 32

/-- How many times more each resource was acquired than released, with the
queues of the system and the shared swap chains of the device. -/
structure State where
  held : Resource → Int
  psQueueList : List Address
  psDCSwapChainShared : List SwapChain

namespace State

/-- Change what is held. -/
def hold (state : State) (change : Resource → Int) : State :=
  { state with held := state.held + change }

/-- Acquire something. -/
def acquire (state : State) (resource : Resource) : State :=
  state.hold (Pi.single resource 1)

/-- Give something back. -/
def release (state : State) (resource : Resource) : State :=
  state.hold (-Pi.single resource 1)

end State

/-! ## Queues -/

/-- What is read of a `PVRSRV_QUEUE_INFO`. -/
structure QueueInfo where
  psQueueInfo : Address
  pvLinQueueKM : Address

/-- How the calls of `PVRSRVCreateCommandQueueKM` return: two allocations and
`OSLockResource`. -/
structure QueueAnswers where
  psQueueInfo : Option Address
  pvLinQueueKM : Option Address
  locks : Bool

namespace State

/-- `PVRSRVCreateCommandQueueKM`. -/
def createCommandQueueKM (state : State) (answers : QueueAnswers) :
    State × Except PvrsrvError QueueInfo :=
  match answers.psQueueInfo with
  | none => (state, .error pvrsrvErrorOutOfMemory)
  | some psQueueInfo =>
    let state := state.acquire (.queueInfo psQueueInfo)
    match answers.pvLinQueueKM with
    | none =>
      (state.release (.queueInfo psQueueInfo), .error pvrsrvErrorOutOfMemory)
    | some pvLinQueueKM =>
      let state := state.acquire (.queueBuffer pvLinQueueKM)
      if answers.locks then
        ({ state with psQueueList := psQueueInfo :: state.psQueueList },
          .ok { psQueueInfo, pvLinQueueKM })
      else
        ((state.release (.queueBuffer pvLinQueueKM)).release
          (.queueInfo psQueueInfo), .error pvrsrvErrorUnableToLockResource)

/-- `PVRSRVDestroyCommandQueueKM` of a queue without commands, where `locks`
says whether `OSLockResource` succeeds. -/
def destroyCommandQueueKM (state : State) (queue : QueueInfo) (locks : Bool) :
    State :=
  if locks ∧ queue.psQueueInfo ∈ state.psQueueList then
    (({ state with
      psQueueList := state.psQueueList.erase queue.psQueueInfo }).release
        (.queueBuffer queue.pvLinQueueKM)).release
          (.queueInfo queue.psQueueInfo)
  else state

end State

/-! ## Sync infos -/

/-- What is read of a `PVRSRV_KERNEL_SYNC_INFO`. -/
structure KernelSyncInfo where
  psKernelSyncInfo : Address
  psSyncDataMemInfoKM : Address
  ui32RefCount : BitVec 32

/-- How the calls of `PVRSRVAllocSyncInfoKM` return: `OSAllocMem` and
`AllocDeviceMem`. -/
structure SyncAnswers where
  psKernelSyncInfo : Option Address
  psSyncDataMemInfoKM : Option Address

namespace State

/-- `PVRSRVAllocSyncInfoKM`.  It runs out of memory, or makes a sync info
without references. -/
def allocSyncInfoKM (state : State) (answers : SyncAnswers) :
    State × Option KernelSyncInfo :=
  match answers.psKernelSyncInfo with
  | none => (state, none)
  | some psKernelSyncInfo =>
    let state := state.acquire (.syncInfo psKernelSyncInfo)
    match answers.psSyncDataMemInfoKM with
    | none => (state.release (.syncInfo psKernelSyncInfo), none)
    | some psSyncDataMemInfoKM =>
      (state.acquire (.syncData psSyncDataMemInfoKM),
        some { psKernelSyncInfo, psSyncDataMemInfoKM, ui32RefCount := 0 })

/-- The loop that gives a sync info to each of the buffers left, from buffer
`i` on, and whether it ends.  The buffers behind a failure have none. -/
def allocSyncInfos (answers : Nat → SyncAnswers) :
    Nat → Nat → State → State × List KernelSyncInfo × Bool
  | 0, _, state => (state, [], true)
  | left + 1, i, state =>
    match state.allocSyncInfoKM (answers i) with
    | (state, none) => (state, [], false)
    | (state, some sync) =>
      let (state, syncs, done) := allocSyncInfos answers left (i + 1) state
      (state, { sync with ui32RefCount := sync.ui32RefCount + 1 } :: syncs,
        done)

/-- The body of the loop of `ErrorExit`, with `PVRSRVFreeSyncInfoKM`. -/
def dropSyncInfo (state : State) (sync : KernelSyncInfo) : State :=
  if sync.ui32RefCount - 1 = 0 then
    (state.release (.syncData sync.psSyncDataMemInfoKM)).release
      (.syncInfo sync.psKernelSyncInfo)
  else state

/-! ## Swap chains -/

/-- `PVRSRVCreateDCSwapChainRefKM`, but for the count of the swap chain.  The
result of `ResManRegisterRes` is not looked at. -/
def createDCSwapChainRefKM (state : State)
    (psSwapChainRef hResItem : Option Address) : State × Option Address :=
  match psSwapChainRef with
  | none => (state, none)
  | some psSwapChainRef =>
    let state := state.acquire (.swapChainRef psSwapChainRef)
    (match hResItem with
      | none => state
      | some hResItem => state.acquire (.resItem hResItem),
      some psSwapChainRef)

/-- `ErrorExit` of `PVRSRVCreateDCSwapChainKM`.  It reads the buffers of the
swap chain, also where there is none. -/
def errorExit (state : State) (psSwapChain : Option Address)
    (asBuffer : List KernelSyncInfo) (psQueue : Option QueueInfo)
    (destroyLocks : Bool) : Option State :=
  psSwapChain.map fun psSwapChain =>
    let state := asBuffer.foldl dropSyncInfo state
    let state := match psQueue with
      | none => state
      | some psQueue => state.destroyCommandQueueKM psQueue destroyLocks
    state.release (.swapChain psSwapChain)

end State

/-- The arguments of `PVRSRVCreateDCSwapChainKM` that decide what it does.  Of
its pointers it matters whether one of them is NULL. -/
structure CreateCall where
  pointers : Bool
  ui32Flags : BitVec 32
  ui32BufferCount : BitVec 32
  ui32SwapChainID : BitVec 32

/-- How the calls of `PVRSRVCreateDCSwapChainKM` return. -/
structure CreateAnswers where
  psSwapChain : Option Address
  queue : QueueAnswers
  syncs : Nat → SyncAnswers
  pfnGetDCInfo : Except PvrsrvError Unit
  pfnCreateDCSwapChain : Except PvrsrvError (Address × BitVec 32)
  psSwapChainRef : Option Address
  hResItem : Option Address
  destroyLocks : Bool

/-- What a creation gives its caller. -/
structure Created where
  psSwapChainRef : Address
  ui32SwapChainID : BitVec 32

/-- The end of a function, with what it returns. -/
abbrev Outcome := Option (State × Except PvrsrvError Created)

namespace State

/-- A creation that fails, at `ErrorExit`. -/
def failsWith (eError : PvrsrvError) (after : Option State) : Outcome :=
  after.map fun state => (state, .error eError)

/-- `PVRSRVCreateDCSwapChainKM` on `PVRSRV_CREATE_SWAPCHAIN_QUERY`. -/
def querySwapChain (state : State) (call : CreateCall)
    (answers : CreateAnswers) : Outcome :=
  match state.psDCSwapChainShared.find? fun chain =>
      chain.ui32SwapChainID = call.ui32SwapChainID with
  | none => some (state, .error pvrsrvErrorFlipChainExists)
  | some found =>
    match state.createDCSwapChainRefKM answers.psSwapChainRef
        answers.hResItem with
    | (state, none) => some (state, .error pvrsrvErrorOutOfMemory)
    | (state, some psSwapChainRef) =>
      some ({ state with
        psDCSwapChainShared := state.psDCSwapChainShared.map fun chain =>
          if chain.psSwapChain = found.psSwapChain then
            { chain with ui32RefCount := chain.ui32RefCount + 1 }
          else chain },
        .ok { psSwapChainRef, ui32SwapChainID := call.ui32SwapChainID })

/-- `PVRSRVCreateDCSwapChainKM` from the call of the driver on, which gets
what `ErrorExit` needs. -/
def createExtSwapChain (state : State) (call : CreateCall)
    (answers : CreateAnswers) (psSwapChain : Address)
    (asBuffer : List KernelSyncInfo) (psQueue : QueueInfo) : Outcome :=
  match answers.pfnCreateDCSwapChain with
  | .error eError => failsWith eError (state.errorExit (some psSwapChain)
      asBuffer (some psQueue) answers.destroyLocks)
  | .ok (hExtSwapChain, ui32SwapChainID) =>
    match (state.acquire (.extSwapChain hExtSwapChain)).createDCSwapChainRefKM
        answers.psSwapChainRef answers.hResItem with
    | (state, none) => failsWith pvrsrvErrorOutOfMemory
        (state.errorExit (some psSwapChain) asBuffer (some psQueue)
          answers.destroyLocks)
    | (state, some psSwapChainRef) =>
      some ({ state with
        psDCSwapChainShared :=
          if call.ui32Flags &&& pvrsrvCreateSwapchainShared ≠ 0 then
            { psSwapChain, ui32SwapChainID, ui32RefCount := 1 } ::
              state.psDCSwapChainShared
          else state.psDCSwapChainShared },
        .ok { psSwapChainRef, ui32SwapChainID })

/-- `PVRSRVCreateDCSwapChainKM` of a new swap chain. -/
def createSwapChain (state : State) (call : CreateCall)
    (answers : CreateAnswers) : Outcome :=
  match answers.psSwapChain with
  | none => failsWith pvrsrvErrorOutOfMemory
      (state.errorExit none [] none answers.destroyLocks)
  | some psSwapChain =>
    match (state.acquire (.swapChain psSwapChain)).createCommandQueueKM
        answers.queue with
    | (state, .error eError) => failsWith eError
        (state.errorExit (some psSwapChain) [] none answers.destroyLocks)
    | (state, .ok psQueue) =>
      match allocSyncInfos answers.syncs call.ui32BufferCount.toNat 0
          state with
      | (state, asBuffer, false) => failsWith pvrsrvErrorOutOfMemory
          (state.errorExit (some psSwapChain) asBuffer (some psQueue)
            answers.destroyLocks)
      | (state, asBuffer, true) =>
        match answers.pfnGetDCInfo with
        | .error eError => some (state, .error eError)
        | .ok _ => state.createExtSwapChain call answers psSwapChain
            asBuffer psQueue

/-- `PVRSRVCreateDCSwapChainKM`.  It has no value where it reads a NULL
pointer. -/
def createDCSwapChainKM (state : State) (call : CreateCall)
    (answers : CreateAnswers) : Outcome :=
  if ¬ call.pointers then some (state, .error pvrsrvErrorInvalidParams)
  else if pvrsrvMaxDCSwapchainBuffers < call.ui32BufferCount.toNat then
    some (state, .error pvrsrvErrorTooManyBuffers)
  else if call.ui32BufferCount.toNat < 2 then
    some (state, .error pvrsrvErrorTooFewBuffers)
  else if call.ui32Flags &&& pvrsrvCreateSwapchainQuery ≠ 0 then
    state.querySwapChain call answers
  else state.createSwapChain call answers

end State

end PvrServices.DisplayClass
