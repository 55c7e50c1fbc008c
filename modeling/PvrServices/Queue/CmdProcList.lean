import PvrServices.Resman.Base
import Mathlib.Data.List.Perm.Basic

/-!
# Command processor lists

A device registers a table with an entry for each type of command, and each
entry has pointers to the blocks that track its commands in flight.  The table
is not cleared when it is allocated, and the one function that takes it down
walks all of it.
-/

namespace PvrServices.CmdProcList

open Resman
open Function (update)

/-- A kernel address.  `0` is the null pointer. -/
abbrev Address := BitVec 64

/-- `SYS_DEVICE_COUNT`. -/
def sysDeviceCount : Nat := 3

/-- `DC_NUM_COMMANDS_PER_TYPE`. -/
def dcNumCommandsPerType : Nat := 1

/-- `sizeof(DEVICE_COMMAND_DATA)`. -/
def sizeofDeviceCommandData : Nat := 24

/-- `sizeof(COMMAND_COMPLETE_DATA)`. -/
def sizeofCommandCompleteData : Nat := 40

/-- `sizeof(PVRSRV_SYNC_OBJECT)`. -/
def sizeofSyncObject : Nat := 16

/-! ## Memory -/

/-- `COMMAND_COMPLETE_DATA`. -/
structure CommandCompleteData where
  bInUse : Bool
  ui32DstSyncCount : BitVec 32
  ui32SrcSyncCount : BitVec 32
  psDstSync : Address
  psSrcSync : Address
  ui32AllocSize : BitVec 32
deriving DecidableEq, Repr

/-- A live block with a `COMMAND_COMPLETE_DATA` at its start. -/
structure CompleteBlock where
  size : BitVec 32
  data : CommandCompleteData
deriving DecidableEq, Repr

/-- A live array of `DEVICE_COMMAND_DATA`.  A field that has not been written
is `none`, and `garbage` is what such a pointer reads as. -/
structure CommandArray where
  size : BitVec 32
  pfnCmdProc : Nat → Option Address
  ui32CCBOffset : Nat → Option (BitVec 32)
  apsCmdCompleteData : Nat × Nat → Option Address
  garbage : Nat × Nat → Address

/-- The tables of the devices and the blocks behind them. -/
structure CmdSystem where
  apsDeviceCommandData : Nat → Address
  arrays : Address → Option CommandArray
  completes : Address → Option CompleteBlock

/-- A block by its address and the size given to `OSAllocMem` or
`OSFreeMem`. -/
abbrev Block := Address × BitVec 32

/-- The state of a call: the system, what the call has allocated and freed, and
the pointers it has read before anything was written to them. -/
structure CmdRun where
  system : CmdSystem
  allocated : List Block
  freed : List Block
  uninitialisedReads : List (Nat × Nat)

/-- A call before its first step. -/
def CmdRun.start (system : CmdSystem) : CmdRun :=
  ⟨system, [], [], []⟩

/-- Change entry `type` of an array, where the array is live and holds it. -/
def CmdSystem.writeEntry
    (system : CmdSystem)
    (psDeviceCommandData : Address)
    (type : Nat)
    (change : CommandArray → CommandArray) :
    Option CmdSystem :=
  match system.arrays psDeviceCommandData with
  | none => none
  | some array =>
    if sizeofDeviceCommandData * (type + 1) ≤ array.size.toNat then
      some { system with
        arrays := update system.arrays psDeviceCommandData
          (some (change array)) }
    else
      none

/-! ## Removing -/

/-- The counters of the two nested loops over a table, in their order. -/
def tablePositions (ui32CmdCount : BitVec 32) : List (Nat × Nat) :=
  (List.range ui32CmdCount.toNat).flatMap fun type =>
    (List.range dcNumCommandsPerType).map fun command => (type, command)

/-- `ui32CmdCount * sizeof(*psDeviceCommandData)` in an `IMG_SIZE_T`. -/
def arrayAllocSize (ui32CmdCount : BitVec 32) : BitVec 32 :=
  BitVec.ofNat 32 (ui32CmdCount.toNat * sizeofDeviceCommandData)

/-- One step of the loops of `PVRSRVRemoveCmdProcListKM`.  It is `none` when
the step reads outside of every live block. -/
def removeCommand
    (psDeviceCommandData : Address) (position : Nat × Nat) (run : CmdRun) :
    Option CmdRun := do
  let array ← run.system.arrays psDeviceCommandData
  if sizeofDeviceCommandData * (position.1 + 1) ≤ array.size.toNat then
    let written := array.apsCmdCompleteData position
    let psCmdCompleteData := written.getD (array.garbage position)
    let run := if written.isSome then run else
      { run with
        uninitialisedReads := run.uninitialisedReads ++ [position] }
    if psCmdCompleteData ≠ 0 then
      let complete ← run.system.completes psCmdCompleteData
      if sizeofCommandCompleteData ≤ complete.size.toNat then
        some { run with
          freed := run.freed ++
            [(psCmdCompleteData, complete.data.ui32AllocSize)]
          system := { run.system with
            arrays := update run.system.arrays psDeviceCommandData
              (some { array with
                apsCmdCompleteData := update
                  array.apsCmdCompleteData position (some 0) })
            completes := update run.system.completes psCmdCompleteData none } }
      else
        none
    else
      some run
  else
    none

/-- The loops of `PVRSRVRemoveCmdProcListKM` from some counters on. -/
def removeCommands (psDeviceCommandData : Address) :
    List (Nat × Nat) → CmdRun → Option CmdRun
  | [], run => some run
  | position :: positions, run =>
    (removeCommand psDeviceCommandData position run).bind
      (removeCommands psDeviceCommandData positions)

/-- `PVRSRVRemoveCmdProcListKM`. -/
def pvrsrvRemoveCmdProcListKM
    (ui32DevIndex ui32CmdCount : BitVec 32) (run : CmdRun) :
    Option (PvrsrvError × CmdRun) :=
  if sysDeviceCount ≤ ui32DevIndex.toNat then
    some (pvrsrvErrorInvalidParams, run)
  else
    let psDeviceCommandData :=
      run.system.apsDeviceCommandData ui32DevIndex.toNat
    if psDeviceCommandData ≠ 0 then do
      let run ← removeCommands psDeviceCommandData
        (tablePositions ui32CmdCount) run
      let _ ← run.system.arrays psDeviceCommandData
      some (pvrsrvOk,
        { run with
          freed := run.freed ++
            [(psDeviceCommandData, arrayAllocSize ui32CmdCount)]
          system := { run.system with
            apsDeviceCommandData := update
              run.system.apsDeviceCommandData ui32DevIndex.toNat 0
            arrays := update run.system.arrays psDeviceCommandData none } })
    else
      some (pvrsrvOk, run)

/-! ## Registering -/

/-- What `OSAllocMem` answers: for the array, with the pointers that are in its
memory before, and for the block of each command.  A block that it hands out is
not null and is handed out once. -/
structure CmdAllocator where
  array : Option Address
  garbage : Nat × Nat → Address
  complete : Nat × Nat → Option Address
  array_ne_null : array ≠ some 0
  complete_ne_null : ∀ position, complete position ≠ some 0
  complete_once : ∀ {first second : Nat × Nat} {block : Address},
    complete first = some block → complete second = some block →
      first = second

/-- What a device registers: for each type of command its processor and its
numbers of destination and source syncs. -/
structure CmdTypes where
  ppfnCmdProcList : Nat → Address
  ui32MaxSyncsPerCmd : Nat → BitVec 32 × BitVec 32

/-- The size of the block of a command, in an `IMG_SIZE_T`.  The sum of the
two limits is a 32-bit one. -/
def completeAllocSize (types : CmdTypes) (type : Nat) : BitVec 32 :=
  let limits := types.ui32MaxSyncsPerCmd type
  BitVec.ofNat 32 (sizeofCommandCompleteData +
    (limits.1 + limits.2).toNat * sizeofSyncObject)

/-- A block that has been cleared and given its pointers and its size. -/
def newCompleteBlock
    (types : CmdTypes) (type : Nat) (psCmdCompleteData : Address) :
    CompleteBlock :=
  let psDstSync :=
    psCmdCompleteData + BitVec.ofNat 64 sizeofCommandCompleteData
  let psSrcSync := psDstSync + BitVec.ofNat 64
    (sizeofSyncObject * (types.ui32MaxSyncsPerCmd type).1.toNat)
  { size := completeAllocSize types type
    data :=
      { bInUse := false
        ui32DstSyncCount := 0
        ui32SrcSyncCount := 0
        psDstSync := psDstSync
        psSrcSync := psSrcSync
        ui32AllocSize := completeAllocSize types type } }

/-- One step of the inner loop of `PVRSRVRegisterCmdProcListKM`. -/
def registerCommand
    (types : CmdTypes)
    (allocator : CmdAllocator)
    (psDeviceCommandData : Address)
    (position : Nat × Nat)
    (run : CmdRun) :
    Option (PvrsrvError × CmdRun) :=
  match allocator.complete position with
  | none => some (pvrsrvErrorOutOfMemory, run)
  | some psCmdCompleteData => do
      let system ← run.system.writeEntry psDeviceCommandData position.1
        fun array => { array with
          apsCmdCompleteData := update array.apsCmdCompleteData
            position (some psCmdCompleteData) }
      let complete := newCompleteBlock types position.1 psCmdCompleteData
      if sizeofCommandCompleteData ≤ complete.size.toNat then
        some (pvrsrvOk,
          { run with
            allocated := run.allocated ++ [(psCmdCompleteData, complete.size)]
            system := { system with
              completes := update system.completes psCmdCompleteData
                (some complete) } })
      else
        none

/-- The inner loop from some counters on. -/
def registerCommands
    (types : CmdTypes)
    (allocator : CmdAllocator)
    (psDeviceCommandData : Address)
    (type : Nat) :
    List Nat → CmdRun → Option (PvrsrvError × CmdRun)
  | [], run => some (pvrsrvOk, run)
  | command :: commands, run => do
      let (eError, run) ← registerCommand types allocator psDeviceCommandData
        (type, command) run
      if eError ≠ pvrsrvOk then
        some (eError, run)
      else
        registerCommands types allocator psDeviceCommandData type commands run

/-- The outer loop from some counters on. -/
def registerTypes
    (types : CmdTypes)
    (allocator : CmdAllocator)
    (psDeviceCommandData : Address) :
    List Nat → CmdRun → Option (PvrsrvError × CmdRun)
  | [], run => some (pvrsrvOk, run)
  | type :: rest, run => do
      let system ← run.system.writeEntry psDeviceCommandData type
        fun array => { array with
          pfnCmdProc := update array.pfnCmdProc type
            (some (types.ppfnCmdProcList type))
          ui32CCBOffset := update array.ui32CCBOffset type (some 0) }
      let (eError, run) ← registerCommands types allocator
        psDeviceCommandData type (List.range dcNumCommandsPerType)
        { run with system := system }
      if eError ≠ pvrsrvOk then
        some (eError, run)
      else
        registerTypes types allocator psDeviceCommandData rest run

/-- The array as it comes from `OSAllocMem`, put in the table of its
device. -/
def installArray
    (allocator : CmdAllocator)
    (psDeviceCommandData : Address)
    (ui32DevIndex ui32CmdCount : BitVec 32)
    (run : CmdRun) :
    CmdRun :=
  { run with
    allocated :=
      run.allocated ++ [(psDeviceCommandData, arrayAllocSize ui32CmdCount)]
    system := { run.system with
      apsDeviceCommandData := update
        run.system.apsDeviceCommandData ui32DevIndex.toNat
        psDeviceCommandData
      arrays := update run.system.arrays psDeviceCommandData
        (some
          { size := arrayAllocSize ui32CmdCount
            pfnCmdProc := fun _ => none
            ui32CCBOffset := fun _ => none
            apsCmdCompleteData := fun _ => none
            garbage := allocator.garbage }) } }

/-- The label `ErrorExit`: the error is returned whatever the removal says. -/
def registerErrorExit
    (eError : PvrsrvError)
    (ui32DevIndex ui32CmdCount : BitVec 32)
    (run : CmdRun) :
    Option (PvrsrvError × CmdRun) :=
  (pvrsrvRemoveCmdProcListKM ui32DevIndex ui32CmdCount run).map
    fun removed => (eError, removed.2)

/-- `PVRSRVRegisterCmdProcListKM`. -/
def pvrsrvRegisterCmdProcListKM
    (types : CmdTypes)
    (allocator : CmdAllocator)
    (ui32DevIndex ui32CmdCount : BitVec 32)
    (run : CmdRun) :
    Option (PvrsrvError × CmdRun) :=
  if sysDeviceCount ≤ ui32DevIndex.toNat then
    some (pvrsrvErrorInvalidParams, run)
  else
    match allocator.array with
    | none =>
      registerErrorExit pvrsrvErrorOutOfMemory ui32DevIndex ui32CmdCount run
    | some psDeviceCommandData => do
        let (eError, run) ← registerTypes types allocator psDeviceCommandData
          (List.range ui32CmdCount.toNat)
          (installArray allocator psDeviceCommandData ui32DevIndex
            ui32CmdCount run)
        if eError ≠ pvrsrvOk then
          registerErrorExit eError ui32DevIndex ui32CmdCount run
        else
          some (pvrsrvOk, run)

end PvrServices.CmdProcList
