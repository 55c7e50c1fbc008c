import PvrServices.Lib.Tickets
import PvrServices.Queue.Ring

/-!
# Synchronisation of the command queues

Commands of several queues share sync objects.  Inserting a command samples
the pending counts of its sync objects and bumps them; a command is given to
its command processor once the complete counts equal its samples; completing
it bumps the complete counts.  The buffer of a queue is the subject of
`PvrServices.Queue.Ring`; here a queue is the list of its commands.
-/

namespace PvrServices.SyncQueue

open Queue Tickets
open Function (update)

/-! ## Sync data -/

/-- The counters of `PVRSRV_SYNC_DATA`. -/
structure SyncData where
  ui32WriteOpsPending : BitVec 32
  ui32WriteOpsComplete : BitVec 32
  ui32ReadOpsPending : BitVec 32
  ui32ReadOpsComplete : BitVec 32
deriving DecidableEq, Repr

/-- `PVRSRVGetWriteOpsPending`. -/
def getWriteOpsPending (data : SyncData) (bIsReadOp : Bool) :
    SyncData × BitVec 32 :=
  if bIsReadOp then
    (data, data.ui32WriteOpsPending)
  else
    ({ data with ui32WriteOpsPending := data.ui32WriteOpsPending + 1 },
      data.ui32WriteOpsPending)

/-- `PVRSRVGetReadOpsPending`. -/
def getReadOpsPending (data : SyncData) (bIsReadOp : Bool) :
    SyncData × BitVec 32 :=
  if bIsReadOp then
    ({ data with ui32ReadOpsPending := data.ui32ReadOpsPending + 1 },
      data.ui32ReadOpsPending)
  else
    (data, data.ui32ReadOpsPending)

/-- The sync data behind each `PVRSRV_KERNEL_SYNC_INFO`. -/
abbrev SyncTable := Nat → SyncData

/-- The loops of `PVRSRVInsertCommandKM` that fill the sync objects. -/
def sampleSyncs (bIsReadOp : Bool) (table : SyncTable) :
    List Nat → SyncTable × List SyncObject
  | [] => (table, [])
  | sync :: rest =>
    let (data, ui32WriteOpsPending) :=
      getWriteOpsPending (table sync) bIsReadOp
    let (data, ui32ReadOpsPending) := getReadOpsPending data bIsReadOp
    let (table, objects) := sampleSyncs bIsReadOp (update table sync data) rest
    (table,
      { psKernelSyncInfoKM := sync
        ui32WriteOpsPending
        ui32ReadOpsPending } :: objects)

/-! ## The state -/

/-- The fields of `PVRSRV_COMMAND` that decide when it is processed.  `serial`
counts the insertions; it tells commands apart and is not read by the code. -/
structure Command where
  serial : Nat
  ui32DevIndex : Nat
  commandType : Nat
  psDstSync : List SyncObject
  psSrcSync : List SyncObject
deriving DecidableEq, Repr

/-- A queue: the command inserted and not yet submitted, and the commands
between the two offsets. -/
structure CommandList where
  inserted : Option Command
  submitted : List Command

/-- What happened to a command.  A dispatch is a call of its command
processor, with the result of that call. -/
inductive Event where
  | inserted (command : Command)
  | dispatched (command : Command) (processed : Bool)
  | completed (command : Command)
deriving DecidableEq, Repr

/-- `SYS_DEVICE_COUNT`. -/
abbrev sysDeviceCount : Nat := 3

/-- `DC_NUM_COMMANDS_PER_TYPE`. -/
abbrev dcNumCommandsPerType : Nat := 1

/-- The queues, the sync data and the command completion slots.  A slot that
is in use holds the command whose sync objects it copied. -/
structure System where
  table : SyncTable
  queues : Nat → CommandList
  ui32CCBOffset : Nat → Nat → Nat
  apsCmdCompleteData : Nat → Nat → Nat → Option Command
  nextSerial : Nat
  history : List Event

/-! ## Operations -/

/-- `SYNCOPS_STALE`. -/
def syncOpsStale (ui32OpsComplete ui32OpsPending : BitVec 32) : Bool :=
  ui32OpsPending.toNat ≤ ui32OpsComplete.toNat

/-- The test of one sync object in `PVRSRVProcessCommand`. -/
def dependencyMet (bFlush : Bool) (table : SyncTable) (object : SyncObject) :
    Bool :=
  let data := table object.psKernelSyncInfoKM
  if data.ui32WriteOpsComplete ≠ object.ui32WriteOpsPending ∨
      data.ui32ReadOpsComplete ≠ object.ui32ReadOpsPending then
    !(!bFlush ||
      !syncOpsStale data.ui32WriteOpsComplete object.ui32WriteOpsPending ||
      !syncOpsStale data.ui32ReadOpsComplete object.ui32ReadOpsPending)
  else true

/-- The sync dependency test of `PVRSRVProcessCommand`. -/
def dependenciesMet (bFlush : Bool) (table : SyncTable) (command : Command) :
    Bool :=
  command.psDstSync.all (dependencyMet bFlush table) &&
    command.psSrcSync.all (dependencyMet bFlush table)

/-- Errors of `PVRSRVProcessCommand`. -/
inductive ProcessError where
  | failedDependencies
  | invalidParams
  | cmdNotProcessed
deriving DecidableEq, Repr

/-- Set a completion slot. -/
def System.setSlot
    (system : System) (device type offset : Nat) (slot : Option Command) :
    System :=
  { system with
    apsCmdCompleteData :=
      update system.apsCmdCompleteData device
        (update (system.apsCmdCompleteData device) type
          (update (system.apsCmdCompleteData device type) offset slot)) }

theorem System.setSlot_apply
    (system : System)
    (device type offset : Nat)
    (slot : Option Command)
    (otherDevice otherType otherOffset : Nat) :
    (system.setSlot device type offset slot).apsCmdCompleteData
        otherDevice otherType otherOffset =
      if otherDevice = device ∧ otherType = type ∧ otherOffset = offset then
        slot
      else
        system.apsCmdCompleteData otherDevice otherType otherOffset := by
  by_cases sameDevice : otherDevice = device
  · by_cases sameType : otherType = type
    · simp [System.setSlot, sameDevice, sameType, Function.update_apply]
    · simp [System.setSlot, sameDevice, sameType]
  · simp [System.setSlot, sameDevice]

/-- Set the index of the next completion slot of a command type. -/
def System.setCCBOffset (system : System) (device type offset : Nat) :
    System :=
  { system with
    ui32CCBOffset :=
      update system.ui32CCBOffset device
        (update (system.ui32CCBOffset device) type offset) }

/-- Append to the history. -/
def System.log (system : System) (event : Event) : System :=
  { system with history := system.history ++ [event] }

/-- Set a queue. -/
def System.setQueue (system : System) (queue : Nat) (list : CommandList) :
    System :=
  { system with queues := update system.queues queue list }

/-- `PVRSRVProcessCommand`.  `pfnCmdProc` is what the command processor
returns if it is called. -/
def processCommand
    (system : System) (command : Command) (bFlush pfnCmdProc : Bool) :
    System × Except ProcessError Unit :=
  if !dependenciesMet bFlush system.table command then
    (system, .error .failedDependencies)
  else if command.ui32DevIndex ≥ sysDeviceCount then
    (system, .error .invalidParams)
  else
    let device := command.ui32DevIndex
    let type := command.commandType
    let offset := system.ui32CCBOffset device type
    if (system.apsCmdCompleteData device type offset).isSome then
      (system, .error .failedDependencies)
    else
      let system := system.setSlot device type offset (some command)
      let system := system.log (.dispatched command pfnCmdProc)
      let next := (offset + 1) % dcNumCommandsPerType
      if pfnCmdProc then
        (system.setCCBOffset device type next, .ok ())
      else
        ((system.setSlot device type offset none).setCCBOffset device type
          next, .error .cmdNotProcessed)

/-- One turn of the inner loop of `PVRSRVProcessQueues`: process the head of a
queue and move the read offset over it if it was accepted. -/
def processHead (system : System) (queue : Nat) (pfnCmdProc : Bool) :
    System × Bool :=
  match (system.queues queue).submitted with
  | [] => (system, false)
  | command :: rest =>
    match processCommand system command false pfnCmdProc with
    | (system, .ok ()) =>
      (system.setQueue queue
        { system.queues queue with submitted := rest }, true)
    | (system, .error _) => (system, false)

/-- The loops of `PVRSRVCommandCompleteKM` over the sync objects. -/
def completeSyncs (bump : SyncData → SyncData) (table : SyncTable) :
    List SyncObject → SyncTable
  | [] => table
  | object :: rest =>
    let sync := object.psKernelSyncInfoKM
    completeSyncs bump (update table sync (bump (table sync))) rest

/-- `ui32WriteOpsComplete++`. -/
def SyncData.completeWrite (data : SyncData) : SyncData :=
  { data with ui32WriteOpsComplete := data.ui32WriteOpsComplete + 1 }

/-- `ui32ReadOpsComplete++`. -/
def SyncData.completeRead (data : SyncData) : SyncData :=
  { data with ui32ReadOpsComplete := data.ui32ReadOpsComplete + 1 }

/-- `PVRSRVCommandCompleteKM` on a completion slot.  Drivers complete the
commands they have accepted. -/
def commandComplete (system : System) (device type offset : Nat) : System :=
  match system.apsCmdCompleteData device type offset with
  | none => system
  | some command =>
    let table := completeSyncs SyncData.completeWrite system.table
      command.psDstSync
    let table := completeSyncs SyncData.completeRead table
      command.psSrcSync
    ({ system with table }.setSlot device type offset none).log
      (.completed command)

/-- `PVRSRVInsertCommandKM` on a queue.  `space` tells whether
`PVRSRVGetQueueSpaceKM` found room for the command. -/
def insertCommand
    (system : System)
    (queue ui32DevIndex commandType : Nat)
    (apsDstSync apsSrcSync : List Nat)
    (space : Bool) :
    System :=
  if space then
    let (table, psDstSync) := sampleSyncs false system.table apsDstSync
    let (table, psSrcSync) := sampleSyncs true table apsSrcSync
    let command : Command :=
      { serial := system.nextSerial
        ui32DevIndex
        commandType
        psDstSync
        psSrcSync }
    ({ system with table, nextSerial := system.nextSerial + 1 }.setQueue queue
      { system.queues queue with inserted := some command }).log
        (.inserted command)
  else system

/-- `PVRSRVSubmitCommandKM` on a queue. -/
def submitCommand (system : System) (queue : Nat) : System :=
  match (system.queues queue).inserted with
  | none => system
  | some command =>
    system.setQueue queue
      { inserted := none
        submitted := (system.queues queue).submitted ++ [command] }

/-! ## Runs -/

/-- Calls on the queues.  A pass of `PVRSRVProcessQueues` is a sequence of
`process` steps, between which other calls may happen. -/
inductive Op where
  | insert
      (queue ui32DevIndex commandType : Nat)
      (apsDstSync apsSrcSync : List Nat)
      (space : Bool)
  | submit (queue : Nat)
  | process (queue : Nat) (pfnCmdProc : Bool)
  | complete (device type offset : Nat)

/-- Perform one call. -/
def System.step (system : System) : Op → System
  | .insert queue ui32DevIndex commandType apsDstSync apsSrcSync space =>
    insertCommand system queue ui32DevIndex commandType apsDstSync
      apsSrcSync space
  | .submit queue => submitCommand system queue
  | .process queue pfnCmdProc => (processHead system queue pfnCmdProc).1
  | .complete device type offset => commandComplete system device type offset

/-- Perform a sequence of calls. -/
def System.run (system : System) (ops : List Op) : System :=
  ops.foldl System.step system

/-! ## Counters -/

/-- The two kinds of operations a sync object counts. -/
inductive OpKind where
  | write
  | read
deriving DecidableEq, Repr

/-- A counter: a sync object and a kind of operation. -/
abbrev Counter := Nat × OpKind

/-- The complete counts. -/
def completeCounts (table : SyncTable) : Counter → BitVec 32
  | (sync, .write) => (table sync).ui32WriteOpsComplete
  | (sync, .read) => (table sync).ui32ReadOpsComplete

/-- The pending counts. -/
def pendingCounts (table : SyncTable) : Counter → BitVec 32
  | (sync, .write) => (table sync).ui32WriteOpsPending
  | (sync, .read) => (table sync).ui32ReadOpsPending

/-- Sync objects of a command. -/
def Command.objects (command : Command) : List SyncObject :=
  command.psDstSync ++ command.psSrcSync

/-- The sync infos a command uses. -/
def Command.syncs (command : Command) : List Nat :=
  command.objects.map SyncObject.psKernelSyncInfoKM

/-- The counters a list of accesses operates on. -/
def accesses (dst src : List Nat) : List Counter :=
  dst.map (·, OpKind.write) ++ src.map (·, OpKind.read)

/-- The samples a sync object holds. -/
def samples (object : SyncObject) : List (Counter × BitVec 32) :=
  [((object.psKernelSyncInfoKM, .write), object.ui32WriteOpsPending),
    ((object.psKernelSyncInfoKM, .read), object.ui32ReadOpsPending)]

/-- A command takes a ticket of both counts of each of its sync objects, and
bumps the write count of a destination and the read count of a source. -/
def commandScheme : Scheme Command Counter 32 where
  bumps command :=
    accesses (command.psDstSync.map SyncObject.psKernelSyncInfoKM)
      (command.psSrcSync.map SyncObject.psKernelSyncInfoKM)
  waits command := command.objects.flatMap samples

/-- Commands that use a common sync info. -/
def SharesSync (first second : Command) : Prop :=
  ∃ sync, sync ∈ first.syncs ∧ sync ∈ second.syncs

/-! ## Reachable states -/

/-- The command an event inserts. -/
def Event.insertedCommand : Event → Option Command
  | .inserted command => some command
  | _ => none

/-- The command an event completes. -/
def Event.completedCommand : Event → Option Command
  | .completed command => some command
  | _ => none

/-- The commands inserted in a history, oldest first. -/
def insertedCommands (history : List Event) : List Command :=
  history.filterMap Event.insertedCommand

/-- The commands completed in a history. -/
def completedCommands (history : List Event) : List Command :=
  history.filterMap Event.completedCommand

/-- Number of operations on a counter that were inserted. -/
def issued (history : List Event) (counter : Counter) : Nat :=
  (commandScheme.allBumps (insertedCommands history)).count counter

/-- Number of operations on a counter that were completed. -/
def finished (history : List Event) (counter : Counter) : Nat :=
  (commandScheme.allBumps (completedCommands history)).count counter

/-- When a call may be made: an insertion follows the submission of the
previous one into the queue, its sync objects are distinct, and it leaves
fewer than `2 ^ 32` operations outstanding on each counter. -/
def Op.Allowed (system : System) : Op → Prop
  | .insert queue _ _ apsDstSync apsSrcSync _ =>
    (system.queues queue).inserted = none ∧
      (apsDstSync ++ apsSrcSync).Nodup ∧
      ∀ counter ∈ accesses apsDstSync apsSrcSync,
        issued system.history counter + 1 <
          finished system.history counter + 2 ^ 32
  | _ => True

/-- States reached by allowed calls. -/
inductive Reachable (initial : System) : System → Prop
  | start : Reachable initial initial
  | step
      {system : System}
      (reachable : Reachable initial system)
      {op : Op}
      (allowed : op.Allowed system) :
      Reachable initial (system.step op)

/-- Empty queues, and sync objects with no operation outstanding. -/
structure System.Fresh (initial : System) : Prop where
  settled : pendingCounts initial.table = completeCounts initial.table
  queues : initial.queues = fun _ => { inserted := none, submitted := [] }
  slots : initial.apsCmdCompleteData = fun _ _ _ => none
  history : initial.history = []

end PvrServices.SyncQueue
