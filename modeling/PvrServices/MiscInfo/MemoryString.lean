import PvrServices.Lib.BoundedPrint

/-!
# The memory string of the misc info

A process asks for the statistics of all arenas as a text and says how long a
buffer it has for it.  Callbacks over arenas, devices, contexts and heaps
print into the buffer through a shared pointer and a shared remaining length.
-/

namespace PvrServices.MiscInfo

open BoundedPrint

/-! ## Arenas, heaps and devices -/

/-- A text without its terminator.  The length of a text fits the `int` in
which it is returned. -/
abbrev Text : Type := List Char

/-- `RA_STATISTICS`, as far as it is printed. -/
structure RaStatistics where
  uSpanCount : Nat
  uLiveSegmentCount : Nat
  uFreeSegmentCount : Nat
  uFreeResourceCount : Nat
  uCumulativeAllocs : Nat
  uCumulativeFrees : Nat
  uImportCount : Nat
  uExportCount : Nat

/-- `BT`, as far as it is printed. -/
structure BT where
  type : Nat
  base : Nat
  uSize : Nat
  psMapping : Nat

/-- `RA_ARENA`, as far as it is printed.  The head may have a previous segment
and the tail a next one. -/
structure RaArena where
  name : Text
  pImportAlloc : Nat
  pImportFree : Nat
  pImportHandle : Nat
  uQuantum : Nat
  sStatistics : RaStatistics
  segments : List BT
  headHasPrev : Bool
  tailHasNext : Bool

/-- `BM_HEAP`, by its arenas. -/
structure BMHeap where
  pImportArena : Option RaArena
  pVMArena : Option RaArena

/-- `BM_CONTEXT`, by its address and its heaps. -/
structure BMContext where
  address : Nat
  psBMHeap : List BMHeap

/-- `PVRSRV_DEVICE_NODE`, by its type and its contexts. -/
structure DeviceNode where
  eDeviceType : Nat
  pBMKernelContext : Option BMContext
  pBMContext : List BMContext

/-- `SYS_DATA`, by the arenas of local memory and the devices. -/
structure SysData where
  apsLocalDevMemArena : List RaArena
  psDeviceNodeList : List DeviceNode

/-- `PVRSRV_MISC_INFO_KM`, as far as the memory string depends on it. -/
structure MiscInfoKM where
  ui32StateRequest : BitVec 32
  pszMemoryStr : Nat
  ui32MemoryStrLen : Nat

/-- The kernel's text of a pointer. -/
structure Kernel where
  formatPointer : Nat → Text

/-! ## Formats -/

/-- `%u`. -/
def formatUnsigned (word : Nat) : Text := Nat.toDigits 10 word

/-- `%d`. -/
def formatSigned (word : Nat) : Text :=
  if word < 2 ^ 31 then Nat.toDigits 10 word
  else '-' :: Nat.toDigits 10 (2 ^ 32 - word)

/-- `%x`. -/
def formatHex (word : Nat) : Text := Nat.toDigits 16 word

/-- `%-30s`. -/
def formatPadded (text : Text) : Text :=
  text ++ List.replicate (30 - text.length) ' '

/-- `_BTType`. -/
def btType : Nat → Text
  | 0 => "span".toList
  | 1 => "free".toList
  | 2 => "live".toList
  | _ => "junk".toList

/-! ## Arenas -/

/-- The end of a string. -/
abbrev nul : Char := Char.ofNat 0

/-- The space that `CHECK_SPACE` asks for, and the size that is passed to
`OSSNPrintf` behind it. -/
abbrev space : Nat := 100

/-- The line of a segment. -/
def btText (kernel : Kernel) (pBT : BT) : Text :=
  "\tbase=0x".toList ++ formatHex (pBT.base % 2 ^ 32) ++
    " size=0x".toList ++ formatHex pBT.uSize ++
    " type=".toList ++ btType pBT.type ++
    " ref=".toList ++ kernel.formatPointer pBT.psMapping ++ ['\n']

/-- The texts of `RA_GetStats`, each behind a `CHECK_SPACE`. -/
def raGetStatsTexts (kernel : Kernel) (pArena : RaArena) : List Text :=
  let statistics := pArena.sStatistics
  ["\nArena '".toList ++ pArena.name ++ "':\n".toList,
    "  allocCB=".toList ++ kernel.formatPointer pArena.pImportAlloc ++
      " freeCB=".toList ++ kernel.formatPointer pArena.pImportFree ++
      " handle=".toList ++ kernel.formatPointer pArena.pImportHandle ++
      " quantum=".toList ++ formatSigned pArena.uQuantum ++ ['\n'],
    "span count\t\t".toList ++ formatUnsigned statistics.uSpanCount ++ ['\n'],
    "live segment count\t".toList ++
      formatUnsigned statistics.uLiveSegmentCount ++ ['\n'],
    "free segment count\t".toList ++
      formatUnsigned statistics.uFreeSegmentCount ++ ['\n'],
    "free resource count\t".toList ++
      formatUnsigned statistics.uFreeResourceCount ++ " (0x".toList ++
      formatHex statistics.uFreeResourceCount ++ ")\n".toList,
    "total allocs\t\t".toList ++
      formatUnsigned statistics.uCumulativeAllocs ++ ['\n'],
    "total frees\t\t".toList ++
      formatUnsigned statistics.uCumulativeFrees ++ ['\n'],
    "import count\t\t".toList ++ formatUnsigned statistics.uImportCount ++
      ['\n'],
    "export count\t\t".toList ++ formatUnsigned statistics.uExportCount ++
      ['\n'],
    "  segment Chain:\n".toList] ++
  (if pArena.headHasPrev then
    ["  error: head boundary tag has invalid pPrevSegment\n".toList]
  else []) ++
  (if pArena.tailHasNext then
    ["  error: tail boundary tag has invalid pNextSegment\n".toList]
  else []) ++
  pArena.segments.map (btText kernel)

/-- `RA_GetStats`.  The callers ignore what it returns. -/
def raGetStats
    (kernel : Kernel) (pArena : RaArena) (printer : Printer Char) :
    Printer Char :=
  printer.report nul space (raGetStatsTexts kernel pArena)

/-- The text of `RA_GetStatsFreeMem`. -/
def raGetStatsFreeMemText (pArena : RaArena) : Text :=
  "Bytes free: Arena ".toList ++ formatPadded pArena.name ++ ": ".toList ++
    formatUnsigned pArena.sStatistics.uFreeResourceCount ++
    " (0x".toList ++ formatHex pArena.sStatistics.uFreeResourceCount ++
    ")\n".toList

/-- `RA_GetStatsFreeMem`. -/
def raGetStatsFreeMem (pArena : RaArena) (printer : Printer Char) :
    Printer Char :=
  printer.report nul space [raGetStatsFreeMemText pArena]

/-! ## Callbacks -/

/-- `PVRSRV_MISC_INFO_MEMSTATS_PRESENT`. -/
abbrev memStatsPresent : BitVec 32 := 1 <<< 2

/-- `PVRSRV_MISC_INFO_DDKVERSION_PRESENT`. -/
abbrev ddkVersionPresent : BitVec 32 := 1 <<< 4

/-- `PVRSRV_MISC_INFO_FREEMEM_PRESENT`. -/
abbrev freeMemPresent : BitVec 32 := 1 <<< 6

/-- All flags a request may have: timer, clock gates, statistics, event
object, version, cache operation, free memory and reset. -/
abbrev requestFlags : BitVec 32 := 0x8000007F

section Callbacks

variable (kernel : Kernel) (ui32Mode : BitVec 32)

/-- `PVRSRVGetMiscInfoKM_RA_GetStats_ForEachVaCb`. -/
def raGetStatsForEachVaCb
    (psBMHeap : BMHeap) (printer : Printer Char) : Printer Char :=
  let getStats (pArena : Option RaArena) (printer : Printer Char) :
      Printer Char :=
    match pArena with
    | none => printer
    | some pArena =>
      if ui32Mode = memStatsPresent then raGetStats kernel pArena printer
      else raGetStatsFreeMem pArena printer
  if ui32Mode = memStatsPresent ∨ ui32Mode = freeMemPresent then
    getStats psBMHeap.pVMArena (getStats psBMHeap.pImportArena printer)
  else printer

/-- `List_BM_HEAP_ForEach_va`. -/
def forEachHeap (heaps : List BMHeap) (printer : Printer Char) :
    Printer Char :=
  heaps.foldl
    (fun printer psBMHeap =>
      raGetStatsForEachVaCb kernel ui32Mode psBMHeap printer) printer

/-- `CHECK_SPACE`, `OSSNPrintf` and `UPDATE_SPACE`. -/
def printHeading (text : Text) (printer : Printer Char) :
    Printer Char × Bool :=
  if printer.left < space then (printer, false)
  else (printer.print nul space text, true)

/-- The text of `PVRSRVGetMiscInfoKM_BMContext_AnyVaCb`. -/
def contextText (psBMContext : BMContext) : Text :=
  "\nApplication Context (hDevMemContext) ".toList ++
    kernel.formatPointer psBMContext.address ++ ":\n".toList

/-- `PVRSRVGetMiscInfoKM_BMContext_AnyVaCb`, and whether it returns
`PVRSRV_OK`. -/
def bmContextAnyVaCb (psBMContext : BMContext) (printer : Printer Char) :
    Printer Char × Bool :=
  match printHeading (contextText kernel psBMContext) printer with
  | (printer, false) => (printer, false)
  | (printer, true) =>
    (forEachHeap kernel ui32Mode psBMContext.psBMHeap printer, true)

/-- `List_BM_CONTEXT_PVRSRV_ERROR_Any_va`. -/
def anyContext : List BMContext → Printer Char → Printer Char × Bool
  | [], printer => (printer, true)
  | psBMContext :: rest, printer =>
    match bmContextAnyVaCb kernel ui32Mode psBMContext printer with
    | (printer, false) => (printer, false)
    | (printer, true) => anyContext rest printer

/-- The first text of `PVRSRVGetMiscInfoKM_Device_AnyVaCb`. -/
def deviceText (psDeviceNode : DeviceNode) : Text :=
  "\n\nDevice Type ".toList ++ formatSigned psDeviceNode.eDeviceType ++
    ":\n".toList

/-- The text in front of the heaps of the kernel context. -/
def kernelContextText : Text := "\nKernel Context:\n".toList

/-- `PVRSRVGetMiscInfoKM_Device_AnyVaCb`, and whether it returns
`PVRSRV_OK`. -/
def deviceAnyVaCb (psDeviceNode : DeviceNode) (printer : Printer Char) :
    Printer Char × Bool :=
  match printHeading (deviceText psDeviceNode) printer with
  | (printer, false) => (printer, false)
  | (printer, true) =>
    match psDeviceNode.pBMKernelContext with
    | none => anyContext kernel ui32Mode psDeviceNode.pBMContext printer
    | some pBMKernelContext =>
      match printHeading kernelContextText printer with
      | (printer, false) => (printer, false)
      | (printer, true) =>
        anyContext kernel ui32Mode psDeviceNode.pBMContext
          (forEachHeap kernel ui32Mode pBMKernelContext.psBMHeap printer)

/-- `List_PVRSRV_DEVICE_NODE_PVRSRV_ERROR_Any_va`. -/
def anyDevice : List DeviceNode → Printer Char → Printer Char × Bool
  | [], printer => (printer, true)
  | psDeviceNode :: rest, printer =>
    match deviceAnyVaCb kernel ui32Mode psDeviceNode printer with
    | (printer, false) => (printer, false)
    | (printer, true) => anyDevice rest printer

end Callbacks

/-! ## The parts of the string -/

/-- The text in front of an arena of local memory. -/
def localText : Text := "\nLocal Backing Store:\n".toList

/-- The loop over the arenas of local memory, and whether it goes through to
the end. -/
def localArenas (kernel : Kernel) :
    List RaArena → Printer Char → Printer Char × Bool
  | [], printer => (printer, true)
  | pArena :: rest, printer =>
    match printHeading localText printer with
    | (printer, false) => (printer, false)
    | (printer, true) =>
      localArenas kernel rest (raGetStats kernel pArena printer)

/-- The line that ends the statistics, which no `CHECK_SPACE` precedes. -/
def printNewline (printer : Printer Char) : Printer Char :=
  printer.print nul space ['\n']

/-- The statistics of all arenas, and whether the call goes on. -/
def memStats (kernel : Kernel) (sysData : SysData) (printer : Printer Char) :
    Printer Char × Bool :=
  match localArenas kernel sysData.apsLocalDevMemArena printer with
  | (printer, false) => (printer, false)
  | (printer, true) =>
    (printNewline (anyDevice kernel memStatsPresent
      sysData.psDeviceNodeList printer).1, true)

/-- The free memory of all arenas of the devices. -/
def freeMem (kernel : Kernel) (sysData : SysData) (printer : Printer Char) :
    Printer Char :=
  printNewline (anyDevice kernel freeMemPresent sysData.psDeviceNodeList
    printer).1

/-- `ui32LenStrPerNum`. -/
abbrev ui32LenStrPerNum : Nat := 12

/-- The loop over the numbers of the version: each but the last is followed
by a point. -/
def printVersion : List Nat → Printer Char → Printer Char × Bool
  | [], printer => (printer, true)
  | number :: rest, printer =>
    if printer.left < ui32LenStrPerNum then (printer, false)
    else
      let printed := printer.print nul ui32LenStrPerNum (formatUnsigned number)
      printVersion rest
        (if rest.isEmpty then printed else printed.print nul 2 ['.'])

/-- `aui32DDKVersion`. -/
def aui32DDKVersion : List Nat := [1, 7, 17, 862890]

/-! ## The calls -/

/-- `PVRSRV_ERROR`, as far as the string is concerned. -/
inductive MiscInfoError where
  | invalidParams
deriving DecidableEq, Repr

/-- A request asks for a part of the string. -/
def MiscInfoKM.asks (psMiscInfo : MiscInfoKM) (flag : BitVec 32) : Bool :=
  psMiscInfo.ui32StateRequest &&& flag ≠ 0 ∧ psMiscInfo.pszMemoryStr ≠ 0

/-- `PVRSRVGetMiscInfoKM` from the free memory on, up to the last part that
prints.  Every part starts at the beginning of the string. -/
def getMiscInfoBehindStats
    (kernel : Kernel) (sysData : SysData) (psMiscInfo : MiscInfoKM)
    (printer : Printer Char) :
    Printer Char × Except MiscInfoError Unit :=
  let len := psMiscInfo.ui32MemoryStrLen
  let printer :=
    if psMiscInfo.asks freeMemPresent then
      freeMem kernel sysData (printer.restart len)
    else printer
  if psMiscInfo.asks ddkVersionPresent ∧
      psMiscInfo.ui32StateRequest &&& memStatsPresent = 0 then
    match printVersion aui32DDKVersion (printer.restart len) with
    | (printer, false) => (printer, .error .invalidParams)
    | (printer, true) => (printer, .ok ())
  else (printer, .ok ())

/-- `PVRSRVGetMiscInfoKM`. -/
def pvrsrvGetMiscInfoKM
    (kernel : Kernel) (sysData : SysData) (psMiscInfo : MiscInfoKM) :
    Printer Char × Except MiscInfoError Unit :=
  let printer : Printer Char :=
    { position := 0
      left := psMiscInfo.ui32MemoryStrLen
      contents := fun _ => none
      wrapped := false }
  if psMiscInfo.ui32StateRequest &&& ~~~requestFlags ≠ 0 then
    (printer, .error .invalidParams)
  else if psMiscInfo.asks memStatsPresent then
    match memStats kernel sysData printer with
    | (printer, false) => (printer, .error .invalidParams)
    | (printer, true) =>
      getMiscInfoBehindStats kernel sysData psMiscInfo printer
  else getMiscInfoBehindStats kernel sysData psMiscInfo printer

end PvrServices.MiscInfo
