import PvrServices.BufferManager.WrapPages
import PvrServices.DeviceMem.Making

/-!
# The sizes of a wrap

The bridge copies an array of page addresses from the user.  Where the user
gives an address instead, `PVRSRVWrapExtMemoryKM` makes an array of the pages
behind it.  `BM_Wrap` and what it calls compute the number of pages from the
size and the offset, and read the array.
-/

namespace PvrServices.DeviceMem.WrapSizes

open BufferManager
  (Address hostPagealign pvrsrvHapMaptypeMask pvrsrvHapMultiProcess)
open BufferManager.WrapPages (DevHeap WrapRequest WrapState PageAnswers)
open Resman (PvrsrvError pvrsrvOk pvrsrvErrorOutOfMemory)

/-! ## What is read of the array -/

/-- There is a previous wrap with this address and this size, whose buffer
`BM_Wrap` returns. -/
def matchesPrevious
    (state : WrapState) (sHashAddress : BitVec 64)
    (ui32MappingSize : BitVec 32) :
    Bool :=
  match state.pBufferHash.lookup sHashAddress with
  | none => false
  | some pBuf =>
    match state.mappingOf pBuf with
    | none => false
    | some mapping =>
      mapping.uSize = ui32MappingSize ∧ mapping.eCpuMemoryOrigin.isCached

/-- The elements that `MMU_MapScatter` reads, one for each page. -/
def mmuMapScatterReads (uSize : BitVec 32) : List Nat :=
  List.range ((uSize.toNat + 4095) / 4096)

/-- The elements that `WrapMemory` reads, with `MMU_MapScatter`. -/
def wrapMemoryReads (request : WrapRequest) (answers : PageAnswers) :
    List Nat :=
  if answers.pMapping = none then []
  else if request.bPhysContig then [0]
  else if answers.hOSMemHandle = none ∨ answers.mmuAlloc = none then []
  else mmuMapScatterReads request.ui32MappingSize

/-- The elements that `BM_Wrap` reads, with what it calls. -/
def bmWrapReads
    (state : WrapState) (request : WrapRequest) (answers : PageAnswers) :
    List Nat :=
  0 ::
    if matchesPrevious state request.sHashAddress request.ui32MappingSize ∨
        answers.pBuf = none then []
    else wrapMemoryReads request answers

/-- The flags that `BM_Wrap` hands out. -/
def bmWrapFlags (state : WrapState) (request : WrapRequest) : BitVec 32 :=
  if matchesPrevious state request.sHashAddress request.ui32MappingSize then
    request.uFlags
  else (request.uFlags &&& ~~~pvrsrvHapMaptypeMask) ||| pvrsrvHapMultiProcess

/-! ## Arrays and arguments -/

/-- An array of page addresses: the memory from its first element on, and the
number of elements that have been copied or acquired. -/
structure PageArray where
  element : Nat → BitVec 64
  count : Nat

/-- Fill the first elements of memory. -/
def fill (memory values : Nat → BitVec 64) (count : Nat) : PageArray where
  element := fun i => if i < count then values i else memory i
  count := count

/-- What is read of `PVRSRV_BRIDGE_IN_WRAP_EXT_MEMORY`, with what the user has
in the array `psSysPAddr`. -/
structure WrapExtMemoryIn where
  pvLinAddr : BitVec 64
  ui32ByteSize : BitVec 32
  ui32PageOffset : BitVec 32
  bPhysContig : Bool
  ui32NumPageTableEntries : BitVec 32
  psSysPAddr : Nat → BitVec 64
  ui32Flags : BitVec 32

/-- How the calls of a wrap return.  Memory is answered with its contents, and
`acquired` are the addresses of the pages behind an address of the user. -/
structure WrapExtAnswers where
  newHandleBatch : PvrsrvError
  lookupDevNode : PvrsrvError
  lookupDevMemContext : PvrsrvError
  psSysPAddr : Option (Nat → BitVec 64)
  copyFromUser : Bool
  psIntSysPAddr : Option (Nat → BitVec 64)
  acquired : Option (Nat → BitVec 64)
  hDevMemHeap : Option DevHeap
  psMemInfo : Bool
  bmWrap : PageAnswers
  psKernelSyncInfo : Bool
  cleared : Nat → Bool
  commitHandleBatch : PvrsrvError

/-- Memory that has been wrapped: its buffer, and the elements that have been
read of an array of so many. -/
structure Wrapped where
  hBuffer : Address
  reads : List Nat
  entries : Nat

/-- How a wrap fails: with an error that is handed out, or with `-EFAULT`. -/
inductive WrapFailure where
  | eError (eError : PvrsrvError)
  | efault

/-- What a wrap returns.  It has no value where it reads an array that is
NULL. -/
abbrev WrapReturn := Option (WrapState × Except WrapFailure Wrapped)

/-! ## Wrapping -/

/-- `OSAcquirePhysPageAddr`, which computes the range in 32 bits. -/
def osAcquirePhysPageAddr
    (pvCPUVAddr : BitVec 64) (ui32Bytes : BitVec 32)
    (psSysPAddr : Nat → BitVec 64) (acquired : Option (Nat → BitVec 64)) :
    Option PageArray :=
  let ulStartAddrOrig : BitVec 32 := pvCPUVAddr.setWidth 32
  let ulStartAddr := ulStartAddrOrig &&& ~~~4095
  let ulBeyondEndAddr := hostPagealign (ulStartAddrOrig + ui32Bytes)
  if ulBeyondEndAddr ≤ ulStartAddr then none
  else
    acquired.map fun pages =>
      fill psSysPAddr pages ((ulBeyondEndAddr - ulStartAddr) >>> 12).toNat

/-- `uPageOffset` of `PVRSRVWrapExtMemoryKM`: where an address is in its page,
or what the user has given. -/
def WrapExtMemoryIn.uPageOffset (input : WrapExtMemoryIn) : BitVec 32 :=
  if input.pvLinAddr ≠ 0 then (input.pvLinAddr &&& 4095).setWidth 32
  else input.ui32PageOffset

/-- `uPageCount` of `PVRSRVWrapExtMemoryKM`. -/
def WrapExtMemoryIn.uPageCount (input : WrapExtMemoryIn) : BitVec 32 :=
  hostPagealign (input.ui32ByteSize + input.uPageOffset) / 4096

/-- What `PVRSRVWrapExtMemoryKM` asks of `BM_Wrap`. -/
def WrapExtMemoryIn.request
    (input : WrapExtMemoryIn) (hDevMemHeap : DevHeap) (bPhysContig : Bool)
    (psSysAddr : Nat → BitVec 64) :
    WrapRequest where
  hDevMemHeap := hDevMemHeap
  ui32Size := input.ui32ByteSize
  ui32Offset := input.uPageOffset
  bPhysContig := bPhysContig
  psSysAddr := psSysAddr
  pvCPUVAddr := false
  pui32Flags := some input.ui32Flags

/-- `PVRSRVWrapExtMemoryKM`, from the search for the heap on.  It registers
the resource whether it can or not. -/
def wrapArray
    (state : WrapState) (input : WrapExtMemoryIn) (bPhysContig : Bool)
    (psExtSysPAddr : Option PageArray) (answers : WrapExtAnswers) :
    WrapReturn :=
  match answers.hDevMemHeap with
  | none => some (state, .error (.eError pvrsrvErrorUnableToFindMappingHeap))
  | some hDevMemHeap =>
    if ¬ answers.psMemInfo then
      some (state, .error (.eError pvrsrvErrorOutOfMemory))
    else do
      let array ← psExtSysPAddr
      let request := input.request hDevMemHeap bPhysContig array.element
      let (after, wrapped) ← state.bmWrap request answers.bmWrap
      match wrapped with
      | none => some (after, .error (.eError pvrsrvErrorBadMapping))
      | some hBuffer =>
        if answers.psKernelSyncInfo then
          some (after, .ok
            { hBuffer
              reads := bmWrapReads state request answers.bmWrap
              entries := array.count })
        else do
          let freed ← after.bmFree hBuffer (bmWrapFlags state request)
            answers.cleared
          some (freed, .error (.eError pvrsrvErrorOutOfMemory))

/-- `PVRSRVWrapExtMemoryKM`. -/
def wrapExtMemoryKM
    (state : WrapState) (input : WrapExtMemoryIn)
    (psExtSysPAddr : Option PageArray) (answers : WrapExtAnswers) :
    WrapReturn :=
  if input.pvLinAddr ≠ 0 then
    match answers.psIntSysPAddr with
    | none => some (state, .error (.eError pvrsrvErrorOutOfMemory))
    | some psIntSysPAddr =>
      match osAcquirePhysPageAddr
          (input.pvLinAddr - input.uPageOffset.setWidth 64)
          (input.uPageCount * 4096) psIntSysPAddr answers.acquired with
      | none => some (state, .error (.eError pvrsrvErrorOutOfMemory))
      | some array => wrapArray state input false (some array) answers
  else wrapArray state input input.bPhysContig psExtSysPAddr answers

/-- `ui32PageTableSize` of `PVRSRVWrapExtMemoryBW`. -/
def WrapExtMemoryIn.ui32PageTableSize (input : WrapExtMemoryIn) : BitVec 32 :=
  input.ui32NumPageTableEntries * 8

/-- The rest of `PVRSRVWrapExtMemoryBW`, with the array that has been copied.
The handles come to light when the batch is committed. -/
def wrapCopied
    (state : WrapState) (input : WrapExtMemoryIn)
    (psSysPAddr : Option PageArray) (answers : WrapExtAnswers) :
    WrapReturn := do
  let (after, result) ← wrapExtMemoryKM state input psSysPAddr answers
  match result with
  | .error failure => some (after, .error failure)
  | .ok wrapped =>
    if answers.commitHandleBatch = pvrsrvOk then some (after, .ok wrapped)
    else some (after, .error (.eError answers.commitHandleBatch))

/-- `PVRSRVWrapExtMemoryBW`. -/
def wrapExtMemoryBW
    (state : WrapState) (input : WrapExtMemoryIn) (answers : WrapExtAnswers) :
    WrapReturn :=
  if answers.newHandleBatch ≠ pvrsrvOk then
    some (state, .error (.eError answers.newHandleBatch))
  else if answers.lookupDevNode ≠ pvrsrvOk then
    some (state, .error (.eError answers.lookupDevNode))
  else if answers.lookupDevMemContext ≠ pvrsrvOk then
    some (state, .error (.eError answers.lookupDevMemContext))
  else if input.ui32NumPageTableEntries = 0 then
    wrapCopied state input none answers
  else
    match answers.psSysPAddr with
    | none => some (state, .error (.eError pvrsrvErrorOutOfMemory))
    | some memory =>
      if ¬ answers.copyFromUser then some (state, .error .efault)
      else
        wrapCopied state input
          (some (fill memory input.psSysPAddr
            (input.ui32PageTableSize.toNat / 8))) answers

end PvrServices.DeviceMem.WrapSizes
