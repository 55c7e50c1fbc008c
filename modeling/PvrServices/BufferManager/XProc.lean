import PvrServices.Resman.Base
import Mathlib.Data.List.Count

/-!
# Memory shared between processes

Allocations for several processes share their backing memory through a table
of slots.  A slot counts its allocations, gets its memory with the first of
them and gives it back with the last, from the heap's arena or in pages of the
operating system.
-/

namespace PvrServices.XProc

open Resman

/-- A kernel address, an arena or a handle.  `0` is null. -/
abbrev Address := BitVec 64

/-- `PVRSRV_MEM_XPROC`. -/
def pvrsrvMemXProc : BitVec 32 := 0x10000000

/-- `PVRSRV_HAP_MAPTYPE_MASK`. -/
def pvrsrvHapMapTypeMask : BitVec 32 := 0xF8000

/-- `PVRSRV_HAP_SINGLE_PROCESS`. -/
def pvrsrvHapSingleProcess : BitVec 32 := 0x10000

/-- `XPROC_WORKAROUND_NUM_SHAREABLES`. -/
def xprocWorkaroundNumShareables : Nat := 4096

/-- `XPROC_WORKAROUND_BAD_SHAREINDEX`, an octal constant in the source. -/
def xprocWorkaroundBadShareIndex : BitVec 32 := 133042140

/-- `sizeof(struct BM_XProcWorkaround)`. -/
def sizeofXProcWorkaround : Nat := 48

/-! ## The table -/

/-- `struct BM_XProcWorkaround`. -/
structure ShareSlot where
  ui32RefCount : BitVec 32
  ui32AllocFlags : BitVec 32
  ui32Size : BitVec 32
  ui32PageSize : BitVec 32
  psArena : Address
  sSysPAddr : Address
  pvCpuVAddr : Address
  hOSMemHandle : Address
deriving DecidableEq, Repr

/-- A slot in cleared memory. -/
def ShareSlot.zero : ShareSlot := ⟨0, 0, 0, 0, 0, 0, 0, 0⟩

/-- Memory that has been obtained for a slot, as it was asked for. -/
inductive Backing
  /-- `OSAllocPages`. -/
  | pages (ui32AllocFlags ui32Size : BitVec 32)
      (pvCpuVAddr hOSMemHandle : Address)
  /-- `RA_Alloc`. -/
  | segment (psArena : Address) (ui32Size : BitVec 32) (sSysPAddr : Address)
  /-- `OSReservePhys`. -/
  | mapping (ui32AllocFlags ui32Size : BitVec 32)
      (pvCpuVAddr hOSMemHandle : Address)
deriving DecidableEq, Repr

/-- An allocation a process holds: the index it was made at, and what it got
for the memory. -/
structure Allocation where
  index : Nat
  pvCpuVAddr : Address
  hOSMemHandle : Address
deriving DecidableEq, Repr

/-- The variables of the workaround, with the memory obtained for each slot and
not given back, and the allocations that are live. -/
structure ShareTable where
  shareIndex : BitVec 32
  slots : Nat → ShareSlot
  shareSize : Nat
  shareCount : Nat
  backing : Nat → List Backing
  live : List Allocation

namespace ShareTable

/-- Store a slot. -/
def setSlot (table : ShareTable) (index : Nat) (slot : ShareSlot) :
    ShareTable :=
  { table with slots := Function.update table.slots index slot }

/-- Note that memory has been obtained. -/
def obtain (table : ShareTable) (index : Nat) (memory : List Backing) :
    ShareTable :=
  { table with
    backing := Function.update table.backing index
      (table.backing index ++ memory) }

/-- `BM_XProcWorkaroundShareInit`, on memory with some contents. -/
def init (contents : Nat → ShareSlot) : ShareTable where
  shareIndex := xprocWorkaroundBadShareIndex
  slots := fun index =>
    if index < xprocWorkaroundNumShareables then contents index
    else ShareSlot.zero
  shareSize := xprocWorkaroundNumShareables
  shareCount := 0
  backing := fun _ => []
  live := []

end ShareTable

/-! ## The share index -/

/-- `BM_XProcWorkaroundSetShareIndex`. -/
def setShareIndex (ui32Index : BitVec 32) (table : ShareTable) :
    PvrsrvError × ShareTable :=
  if table.shareIndex ≠ xprocWorkaroundBadShareIndex then
    (pvrsrvErrorInvalidParams, table)
  else
    (pvrsrvOk, { table with shareIndex := ui32Index })

/-- `BM_XProcWorkaroundUnsetShareIndex`. -/
def unsetShareIndex (ui32Index : BitVec 32) (table : ShareTable) :
    PvrsrvError × ShareTable :=
  if table.shareIndex = xprocWorkaroundBadShareIndex then
    (pvrsrvErrorInvalidParams, table)
  else if table.shareIndex ≠ ui32Index then
    (pvrsrvErrorInvalidParams, table)
  else
    (pvrsrvOk, { table with shareIndex := xprocWorkaroundBadShareIndex })

/-- `BM_XProcWorkaroundFindNewBufferAndSetShareIndex`. -/
def findNewBufferAndSetShareIndex (table : ShareTable) :
    Except PvrsrvError (Nat × ShareTable) :=
  if table.shareIndex ≠ xprocWorkaroundBadShareIndex then
    .error pvrsrvErrorInvalidParams
  else
    match (List.range table.shareSize).find? fun index =>
        (table.slots index).ui32RefCount = 0 with
    | none => .error pvrsrvErrorOutOfMemory
    | some index =>
      .ok (index, { table with shareIndex := BitVec.ofNat 32 index })

/-! ## Allocating -/

/-- The arguments of `XProcWorkaroundAllocShareable`. -/
structure Request where
  psArena : Address
  ui32AllocFlags : BitVec 32
  ui32Size : BitVec 32
  ui32PageSize : BitVec 32
deriving DecidableEq, Repr

/-- What `OSReservePhys` and `OSAllocPages` do: they map the memory, fail, or
fail with their results cleared. -/
inductive OSResult
  | mapped (pvCpuVAddr hOSMemHandle : Address)
  | failed
  | cleared
deriving DecidableEq, Repr

/-- What the functions below an allocation answer. -/
structure AllocServices where
  raAlloc : Option Address
  osReservePhys : OSResult
  osAllocPages : OSResult
  /-- `OSAllocMem` of a longer table. -/
  growTable : Bool
deriving DecidableEq, Repr

/-- `ui32AllocFlags &= ~PVRSRV_HAP_MAPTYPE_MASK` and
`ui32AllocFlags |= PVRSRV_HAP_SINGLE_PROCESS`. -/
def singleProcess (ui32AllocFlags : BitVec 32) : BitVec 32 :=
  ui32AllocFlags &&& ~~~ pvrsrvHapMapTypeMask ||| pvrsrvHapSingleProcess

/-- A slot whose results have been written by one of the two functions. -/
def OSResult.store (result : OSResult) (slot : ShareSlot) : ShareSlot :=
  match result with
  | mapped pvCpuVAddr hOSMemHandle =>
    { slot with pvCpuVAddr := pvCpuVAddr, hOSMemHandle := hOSMemHandle }
  | failed => slot
  | cleared => { slot with pvCpuVAddr := 0, hOSMemHandle := 0 }

/-- `XProcWorkaroundShareCheck`.  It is `none` when the size of the longer
table wraps, so that clearing it runs past its end. -/
def shareCheck (growTable : Bool) (table : ShareTable) : Option ShareTable :=
  if table.shareCount = table.shareSize then
    let newSize := table.shareSize + table.shareSize / 2
    if !growTable then
      some table
    else if newSize * sizeofXProcWorkaround < 2 ^ 32 then
      some { table with
        slots := fun index =>
          if index < table.shareSize then table.slots index
          else ShareSlot.zero
        shareSize := newSize }
    else
      none
  else
    some table

/-- What an allocation returns: an error, or the address and the handle. -/
abbrev AllocResult := Except PvrsrvError (Address × Address)

/-- A slot that is used already takes another allocation if it is the same. -/
def reuseSlot (index : Nat) (request : Request) (table : ShareTable) :
    AllocResult × ShareTable :=
  let slot := table.slots index
  if singleProcess request.ui32AllocFlags ≠ slot.ui32AllocFlags then
    (.error pvrsrvErrorInvalidParams, table)
  else if request.ui32Size ≠ slot.ui32Size then
    (.error pvrsrvErrorInvalidParams, table)
  else if request.ui32PageSize ≠ slot.ui32PageSize then
    (.error pvrsrvErrorInvalidParams, table)
  else
    (.ok (slot.pvCpuVAddr, slot.hOSMemHandle),
      table.setSlot index { slot with ui32RefCount := slot.ui32RefCount + 1 })

section

variable (index : Nat) (request : Request)

/-- The end of a first allocation, once the memory is there. -/
def useSlot
    (ui32AllocFlags : BitVec 32)
    (services : AllocServices)
    (table : ShareTable) :
    Option (AllocResult × ShareTable) :=
  let slot := { table.slots index with
    psArena := request.psArena
    ui32AllocFlags := ui32AllocFlags
    ui32Size := request.ui32Size
    ui32PageSize := request.ui32PageSize }
  let used := table.setSlot index
    { slot with ui32RefCount := slot.ui32RefCount + 1 }
  (shareCheck services.growTable
    { used with shareCount := used.shareCount + 1 }).map fun checked =>
      (.ok (slot.pvCpuVAddr, slot.hOSMemHandle), checked)

/-- A first allocation from the heap's arena. -/
def allocLocal
    (services : AllocServices)
    (table : ShareTable) :
    Option (AllocResult × ShareTable) :=
  match services.raAlloc with
  | none => some (.error pvrsrvErrorOutOfMemory, table)
  | some sSysPAddr =>
    let segment := Backing.segment request.psArena request.ui32Size sSysPAddr
    let stored := table.setSlot index
      (services.osReservePhys.store (table.slots index))
    match services.osReservePhys with
    | .mapped pvCpuVAddr hOSMemHandle =>
      let mapping := Backing.mapping request.ui32AllocFlags
        request.ui32Size pvCpuVAddr hOSMemHandle
      let placed := stored.setSlot index
        { stored.slots index with sSysPAddr := sSysPAddr }
      useSlot index request request.ui32AllocFlags services
        (placed.obtain index [segment, mapping])
    | .failed | .cleared =>
      -- the segment is not given back here
      some (.error pvrsrvErrorOutOfMemory, stored.obtain index [segment])

/-- A first allocation in pages of the operating system. -/
def allocPages
    (services : AllocServices)
    (table : ShareTable) :
    Option (AllocResult × ShareTable) :=
  let ui32AllocFlags := singleProcess request.ui32AllocFlags
  let stored := table.setSlot index
    (services.osAllocPages.store (table.slots index))
  match services.osAllocPages with
  | .mapped pvCpuVAddr hOSMemHandle =>
    let pages := Backing.pages ui32AllocFlags request.ui32Size pvCpuVAddr
      hOSMemHandle
    useSlot index request ui32AllocFlags services
      (stored.obtain index [pages])
  | .failed | .cleared => some (.error pvrsrvErrorOutOfMemory, stored)

end

/-- `XProcWorkaroundAllocShareable`.  It is `none` when the share index is not
one of the table. -/
def allocShareable
    (request : Request) (services : AllocServices) (table : ShareTable) :
    Option (AllocResult × ShareTable) :=
  if request.ui32AllocFlags &&& pvrsrvMemXProc = 0 then
    some (.error pvrsrvErrorInvalidParams, table)
  else
    let index := table.shareIndex.toNat
    if index < table.shareSize then
      if 0 < (table.slots index).ui32RefCount then
        some (reuseSlot index request table)
      else if request.psArena ≠ 0 then
        allocLocal index request services table
      else
        allocPages index request services table
    else
      none

/-! ## Freeing -/

/-- `XProcWorkaroundHandleToSI`: the one used slot with the handle. -/
def handleToSI (hOSMemHandle : Address) (table : ShareTable) : Option Nat :=
  match (List.range table.shareSize).filter fun index =>
      0 < (table.slots index).ui32RefCount ∧
        (table.slots index).hOSMemHandle = hOSMemHandle with
  | [index] => some index
  | _ => none

/-- `RA_Free` finds the segment by its arena and its base. -/
def Backing.isSegmentAt (psArena sSysPAddr : Address) : Backing → Bool
  | segment arena _ base => decide (arena = psArena ∧ base = sSysPAddr)
  | pages .. => false
  | mapping .. => false

/-- `OSFreePages` and `OSUnReservePhys` find the area by its handle. -/
def Backing.isAreaOf (hOSMemHandle : Address) : Backing → Bool
  | segment .. => false
  | pages _ _ _ handle => decide (handle = hOSMemHandle)
  | mapping _ _ _ handle => decide (handle = hOSMemHandle)

/-- `OSFreePages` and `OSUnReservePhys`, which give back a whole area and read
neither the size nor the address they are called with.  `removed` says whether
`PVRMMapRemoveRegisteredArea` lets the area go, or finds it still mapped. -/
def releaseArea
    (hOSMemHandle : Address) (removed : Bool) (memory : List Backing) :
    List Backing :=
  if removed then memory.eraseP (Backing.isAreaOf hOSMemHandle) else memory

/-- What the release of a slot leaves of the memory obtained for it. -/
def releaseSlot
    (slot : ShareSlot) (removed : Bool) (memory : List Backing) :
    List Backing :=
  if slot.psArena ≠ 0 then
    let unmapped :=
      if slot.pvCpuVAddr ≠ 0 then
        releaseArea slot.hOSMemHandle removed memory
      else
        memory
    unmapped.eraseP (Backing.isSegmentAt slot.psArena slot.sSysPAddr)
  else
    releaseArea slot.hOSMemHandle removed memory

/-- `XProcWorkaroundFreeShareable`.  The result of the release is not read. -/
def freeShareable
    (hOSMemHandle : Address) (removed : Bool) (table : ShareTable) :
    ShareTable :=
  match handleToSI hOSMemHandle table with
  | none => table
  | some index =>
    let slot := table.slots index
    let dropped := table.setSlot index
      { slot with ui32RefCount := slot.ui32RefCount - 1 }
    if slot.ui32RefCount - 1 = 0 then
      { dropped with
        backing := Function.update table.backing index
          (releaseSlot slot removed (table.backing index))
        shareCount := table.shareCount - 1 }
    else
      dropped

/-! ## Calls and runs -/

/-- What the processes do. -/
inductive ShareCall
  /-- An allocation in a new slot. -/
  | allocNew (request : Request) (services : AllocServices)
  /-- An allocation at the index of a live one. -/
  | allocShared (source : Allocation) (request : Request)
      (services : AllocServices)
  /-- A free, of memory that is still mapped or not. -/
  | free (allocation : Allocation) (removed : Bool)

/-- An allocation that succeeds is live from then on. -/
def ShareTable.adopt
    (index : Nat) (result : AllocResult) (table : ShareTable) : ShareTable :=
  match result with
  | .error _ => table
  | .ok (pvCpuVAddr, hOSMemHandle) =>
    { table with
      live := table.live ++ [⟨index, pvCpuVAddr, hOSMemHandle⟩] }

/-- An allocation with the share index set, and the share index unset after
it. -/
def allocAt
    (index : Nat)
    (request : Request)
    (services : AllocServices)
    (table : ShareTable) :
    Option ShareTable :=
  (allocShareable request services table).map fun (result, after) =>
    ((unsetShareIndex (BitVec.ofNat 32 index) after).2).adopt index result

/-- One call of a process, as the bridge makes it. -/
def ShareCall.run (table : ShareTable) : ShareCall → Option ShareTable
  | allocNew request services =>
    match findNewBufferAndSetShareIndex table with
    | .error _ => some table
    | .ok (index, set) => allocAt index request services set
  | allocShared source request services =>
    let set := setShareIndex (BitVec.ofNat 32 source.index) table
    if set.1 ≠ pvrsrvOk then
      some table
    else
      allocAt source.index request services set.2
  | free allocation removed =>
    let freed := freeShareable allocation.hOSMemHandle removed table
    some { freed with live := freed.live.erase allocation }

/-- What a call may assume: an allocation is shared or freed while it is live,
and a handle of the operating system is not that of memory in use. -/
def ShareCall.Valid (table : ShareTable) : ShareCall → Prop
  | allocNew _ services =>
    ∀ pvCpuVAddr hOSMemHandle,
      services.osReservePhys = .mapped pvCpuVAddr hOSMemHandle ∨
          services.osAllocPages = .mapped pvCpuVAddr hOSMemHandle →
        ∀ index, (table.slots index).ui32RefCount ≠ 0 →
          (table.slots index).hOSMemHandle ≠ hOSMemHandle
  | allocShared source _ _ => source ∈ table.live
  | free allocation _ => allocation ∈ table.live

/-- The tables reached by calls that a condition admits, from memory with
contents that a condition admits. -/
inductive Reached
    (starts : (Nat → ShareSlot) → Prop)
    (admits : ShareTable → ShareCall → Prop) :
    ShareTable → Prop
  | init
      {contents : Nat → ShareSlot}
      (start : starts contents) :
      Reached starts admits (ShareTable.init contents)
  | call
      {table after : ShareTable}
      {call : ShareCall}
      (before : Reached starts admits table)
      (valid : call.Valid table)
      (admitted : admits table call)
      (runs : call.run table = some after) :
      Reached starts admits after

end PvrServices.XProc
