import PvrServices.Lib.RecordRing

/-!
# The command queue buffer

A queue is a power-of-two ring with two wrapping offsets.  A command is
written at the write offset, filled in by its caller, submitted by moving the
write offset over it, and processed by moving the read offset over it.
Addresses are kernel addresses; offsets are relative to `pvLinQueueKM`.
-/

namespace PvrServices.Queue

open ByteMemory RecordRing

/-! ## Commands in memory -/

/-- `PVRSRV_SYNC_OBJECT`: a sync info with the pending counts sampled when the
command was inserted. -/
structure SyncObject where
  psKernelSyncInfoKM : Nat
  ui32WriteOpsPending : BitVec 32
  ui32ReadOpsPending : BitVec 32
deriving DecidableEq, Repr

/-- `sizeof(PVRSRV_COMMAND)` in the 64-bit kernel: seven words, three pointers
and the padding before the first of them. -/
abbrev sizeofCommand : Nat := 56

/-- `sizeof(PVRSRV_SYNC_OBJECT)`: a pointer and two words. -/
abbrev sizeofSyncObject : Nat := 16

/-- `PVRSRV_MAX_CMD_SIZE`. -/
abbrev pvrsrvMaxCmdSize : Nat := 1024

/-! ## The queue -/

/-- The fields of `PVRSRV_QUEUE_INFO` that its operations use, with the
memory the buffer lies in. -/
structure CommandQueue where
  pvLinQueueKM : Nat
  ui32ReadOffset : Nat
  ui32WriteOffset : Nat
  ui32QueueSize : Nat
  memory : Memory

/-- Loop of `NearestPower2`, over the bits of `ui32Temp`. -/
def nearestPower2Loop (ui32Temp ui32Result : Nat) : Nat :=
  if ui32Temp = 0 then ui32Result
  else nearestPower2Loop (ui32Temp / 2) (ui32Result * 2 % 2 ^ 32)

/-- `NearestPower2`. -/
def nearestPower2 (ui32Value : Nat) : Nat :=
  if ui32Value = 0 then 0 else nearestPower2Loop (ui32Value - 1) 1

/-- The queue that `PVRSRVCreateCommandQueueKM` sets up over an allocation at
`pvLinQueueKM`. -/
def createCommandQueue (ui32QueueSize pvLinQueueKM : Nat) (memory : Memory) :
    CommandQueue :=
  { pvLinQueueKM
    ui32ReadOffset := 0
    ui32WriteOffset := 0
    ui32QueueSize := nearestPower2 ui32QueueSize
    memory }

/-- `GET_SPACE_IN_CMDQ`. -/
def getSpaceInCmdq (psQueue : CommandQueue) : Nat :=
  (psQueue.ui32ReadOffset + 2 ^ 32 - psQueue.ui32WriteOffset +
      (psQueue.ui32QueueSize - 1)) % 2 ^ 32 &&&
    (psQueue.ui32QueueSize - 1)

/-- `UPDATE_QUEUE_WOFF`. -/
def updateQueueWoff (psQueue : CommandQueue) (ui32Size : Nat) :
    CommandQueue :=
  { psQueue with
    ui32WriteOffset := (psQueue.ui32WriteOffset + ui32Size) % 2 ^ 32 &&&
      (psQueue.ui32QueueSize - 1) }

/-- `UPDATE_QUEUE_ROFF`. -/
def updateQueueRoff (psQueue : CommandQueue) (ui32Size : Nat) :
    CommandQueue :=
  { psQueue with
    ui32ReadOffset := (psQueue.ui32ReadOffset + ui32Size) % 2 ^ 32 &&&
      (psQueue.ui32QueueSize - 1) }

/-- Errors of the queue operations. -/
inductive QueueError where
  | cmdTooBig
  | cannotGetQueueSpace
deriving DecidableEq, Repr

/-- `PVRSRVGetQueueSpaceKM`.  The loop only polls; what other threads do while
it sleeps are steps of the run, so one look at the space decides. -/
def getQueueSpace (psQueue : CommandQueue) (ui32ParamSize : Nat) :
    Except QueueError Nat :=
  let rounded := (ui32ParamSize + 3) % 2 ^ 32 / 4 * 4
  if rounded > pvrsrvMaxCmdSize then
    .error .cmdTooBig
  else if getSpaceInCmdq psQueue > rounded then
    .ok (psQueue.pvLinQueueKM + psQueue.ui32WriteOffset)
  else
    .error .cannotGetQueueSpace

/-! ## Inserting and submitting -/

/-- Arguments of `PVRSRVInsertCommandKM`, the sync objects with the pending
counts it samples.  The callers keep the command size below the range of its
32-bit type. -/
structure InsertArgs where
  ui32ProcessID : Nat
  ui32DevIndex : Nat
  commandType : Nat
  dstSync : List SyncObject
  srcSync : List SyncObject
  ui32DataByteSize : Nat
  sizeBound : sizeofCommand +
    (dstSync.length + srcSync.length) * sizeofSyncObject +
    (ui32DataByteSize + 3) < 2 ^ 32

/-- `ui32DataByteSize` rounded up to whole words. -/
def InsertArgs.dataSize (args : InsertArgs) : Nat :=
  (args.ui32DataByteSize + 3) / 4 * 4 % 2 ^ 32

/-- `ui32CommandSize`. -/
def InsertArgs.commandSize (args : InsertArgs) : Nat :=
  (sizeofCommand +
      (args.dstSync.length + args.srcSync.length) % 2 ^ 32 * sizeofSyncObject +
      args.dataSize) % 2 ^ 32

/-- The loop that fills an array of sync objects. -/
def writeSyncObjects (memory : Memory) (address : Nat) :
    List SyncObject → Memory
  | [] => memory
  | object :: rest =>
    let memory := writeLE memory 8 address object.psKernelSyncInfoKM
    let memory := writeLE memory 4 (address + 8)
      object.ui32WriteOpsPending.toNat
    let memory := writeLE memory 4 (address + 12)
      object.ui32ReadOpsPending.toNat
    writeSyncObjects memory (address + sizeofSyncObject) rest

/-- Address of the source sync objects of a command. -/
def InsertArgs.srcSyncAddress (args : InsertArgs) (psCommand : Nat) : Nat :=
  psCommand + sizeofCommand + args.dstSync.length * sizeofSyncObject

/-- Address of the private data of a command. -/
def InsertArgs.dataAddress (args : InsertArgs) (psCommand : Nat) : Nat :=
  args.srcSyncAddress psCommand + args.srcSync.length * sizeofSyncObject

/-- The header stores of `PVRSRVInsertCommandKM`. -/
def writeHeader (memory : Memory) (psCommand : Nat) (args : InsertArgs) :
    Memory :=
  let memory := writeLE memory 4 (psCommand + 44) args.ui32ProcessID
  let memory := writeLE memory 4 psCommand args.commandSize
  let memory := writeLE memory 4 (psCommand + 4) args.ui32DevIndex
  let memory := writeLE memory 4 (psCommand + 8) args.commandType
  let memory := writeLE memory 4 (psCommand + 12) args.dstSync.length
  let memory := writeLE memory 4 (psCommand + 16) args.srcSync.length
  let memory := writeLE memory 8 (psCommand + 24) (psCommand + sizeofCommand)
  let memory := writeLE memory 8 (psCommand + 32)
    (args.srcSyncAddress psCommand)
  let memory := writeLE memory 8 (psCommand + 48)
    (args.dataAddress psCommand)
  writeLE memory 4 (psCommand + 40) args.dataSize

/-- `PVRSRVInsertCommandKM`: the queue and the command pointer. -/
def insertCommand (psQueue : CommandQueue) (args : InsertArgs) :
    Except QueueError (CommandQueue × Nat) :=
  match getQueueSpace psQueue args.commandSize with
  | .error error => .error error
  | .ok psCommand =>
    let memory := writeHeader psQueue.memory psCommand args
    let memory := writeSyncObjects memory (psCommand + sizeofCommand)
      args.dstSync
    let memory := writeSyncObjects memory (args.srcSyncAddress psCommand)
      args.srcSync
    .ok ({ psQueue with memory }, psCommand)

/-- `PVRSRVSubmitCommandKM`. -/
def submitCommand (psQueue : CommandQueue) (psCommand : Nat) : CommandQueue :=
  let command := psQueue.pvLinQueueKM + psQueue.ui32WriteOffset
  let ui32DstSyncCount := readLE psQueue.memory 4 (psCommand + 12)
  let ui32SrcSyncCount := readLE psQueue.memory 4 (psCommand + 16)
  let memory :=
    if ui32DstSyncCount > 0 then
      writeLE psQueue.memory 8 (psCommand + 24) (command + sizeofCommand)
    else psQueue.memory
  let memory :=
    if ui32SrcSyncCount > 0 then
      writeLE memory 8 (psCommand + 32)
        (command + sizeofCommand + ui32DstSyncCount * sizeofSyncObject)
    else memory
  let memory := writeLE memory 8 (psCommand + 48)
    (command + sizeofCommand + ui32DstSyncCount * sizeofSyncObject +
      ui32SrcSyncCount * sizeofSyncObject)
  updateQueueWoff { psQueue with memory } (readLE memory 4 psCommand)

/-- The loop of `PVRSRVProcessQueues` over one queue.  The verdicts are the
outcomes of `PVRSRVProcessCommand` on the successive heads, `true` where the
command processor accepted the command; the loop ends at the first that does
not.  The accepted commands are returned as the bytes found at the read
offset. -/
def processQueue (psQueue : CommandQueue) :
    List Bool → CommandQueue × List (List UInt8)
  | [] => (psQueue, [])
  | accepted :: verdicts =>
    if psQueue.ui32ReadOffset = psQueue.ui32WriteOffset then
      (psQueue, [])
    else if accepted then
      let psCommand := psQueue.pvLinQueueKM + psQueue.ui32ReadOffset
      let uCmdSize := readLE psQueue.memory 4 psCommand
      let command := bytesAt psQueue.memory psCommand uCmdSize
      let (queue, commands) :=
        processQueue (updateQueueRoff psQueue uCmdSize) verdicts
      (queue, command :: commands)
    else
      (psQueue, [])

/-! ## Runs -/

/-- A queue with the history of what was submitted and accepted.  `inserted`
is the pointer to a command that is inserted and not yet submitted. -/
structure RingSystem where
  queue : CommandQueue
  inserted : Option Nat
  submitted : List (List UInt8)
  accepted : List (List UInt8)

/-- Calls on one queue.  `fill` is a byte the caller stores into the private
data of the command it has inserted. -/
inductive RingOp where
  | insert (args : InsertArgs)
  | fill (index : Nat) (byte : UInt8)
  | submit
  | process (verdicts : List Bool)

/-- Perform one call. -/
def RingSystem.step (system : RingSystem) : RingOp → RingSystem
  | .insert args =>
    match insertCommand system.queue args with
    | .error _ => system
    | .ok (queue, psCommand) =>
      { system with queue, inserted := some psCommand }
  | .fill index byte =>
    match system.inserted with
    | none => system
    | some psCommand =>
      if index < readLE system.queue.memory 4 (psCommand + 40) then
        let pvData := readLE system.queue.memory 8 (psCommand + 48)
        { system with
          queue := { system.queue with
            memory := writeLE system.queue.memory 1 (pvData + index)
              byte.toNat } }
      else system
  | .submit =>
    match system.inserted with
    | none => system
    | some psCommand =>
      let queue := submitCommand system.queue psCommand
      let command := bytesAt queue.memory psCommand
        (readLE queue.memory 4 psCommand)
      { system with
        queue
        inserted := none
        submitted := system.submitted ++ [command] }
  | .process verdicts =>
    let (queue, commands) := processQueue system.queue verdicts
    { system with
      queue
      accepted := system.accepted ++ commands }

/-- Perform a sequence of calls. -/
def RingSystem.run (system : RingSystem) (ops : List RingOp) : RingSystem :=
  ops.foldl RingSystem.step system

/-- A queue just created. -/
def RingSystem.create
    (ui32QueueSize pvLinQueueKM : Nat) (memory : Memory) : RingSystem :=
  { queue := createCommandQueue ui32QueueSize pvLinQueueKM memory
    inserted := none
    submitted := []
    accepted := [] }

end PvrServices.Queue
