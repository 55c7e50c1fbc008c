import Mathlib.Algebra.Group.Nat.Defs
import Mathlib.Logic.Function.Basic

/-!
# Getting hold of the pages of a user range

`OSAcquirePhysPageAddr` takes the pages of a range from `get_user_pages` or,
if that fails, from the page tables of a region without page structures.  A
page structure is known by its page frame number, and `refs` counts the
references on each.
-/

namespace PvrServices.UserPages

open Function (update)

/-- `eWrapMemType`. -/
inductive WrapMemType where
  | null
  | getUserPages
  | findVma

/-- `sWrapMemInfo`. -/
structure WrapMemInfo where
  eType : WrapMemType
  iNumPages : Nat
  iNumPagesMapped : Nat
  ppsPages : Nat → Option Nat
  psPhysAddr : Nat → Nat
  iPageOffset : Nat

/-- The bounds of a region and the flags of it that are looked at. -/
structure VmAreaStruct where
  vmStart : Nat
  vmEnd : Nat
  vmIo : Bool
  vmDontExpand : Bool
  vmDontDump : Bool
  vmRead : Bool
  vmWrite : Bool
  vmPfnmap : Bool
  vmMixedmap : Bool

/-- The memory of the process: the frame behind each page, how many pages
`get_user_pages` gets unless it fails, the region that `find_vma` returns,
whether the page table has a page and lets it be written, and which frames
have a page structure. -/
structure UserMemory where
  frame : Nat → Nat
  getUserPages : Option Nat
  findVma : Option VmAreaStruct
  followPfnmap : Nat → Option Bool
  pfnValid : Nat → Bool

/-- A call, and which of its allocations succeed. -/
structure AcquireCall where
  pvCPUVAddr : BitVec 64
  ui32Bytes : BitVec 32
  psInfo : Bool
  psPhysAddr : Bool
  ppsPages : Bool

/-- The errors that an acquisition returns. -/
inductive AcquireError where
  | outOfMemory
  | badMapping

/-- What a call works on: the references on the pages, the caller's array as
far as it has been stored to, and whether pages with and without page
structures were met. -/
structure Work where
  info : WrapMemInfo
  refs : Nat → Int
  psSysPAddr : Nat → Option Nat
  bHavePageStructs : Bool
  bHaveNoPageStructs : Bool

/-! ## References -/

/-- `get_page`. -/
def getPage (refs : Nat → Int) (page : Nat) : Nat → Int :=
  update refs page (refs page + 1)

/-- `put_page`. -/
def putPage (refs : Nat → Int) (page : Nat) : Nat → Int :=
  update refs page (refs page - 1)

/-- A reference on each of the first pages of an array. -/
def getPages (pages : Nat → Option Nat) : Nat → (Nat → Int) → Nat → Int
  | 0, refs => refs
  | i + 1, refs =>
    match pages i with
    | some page => getPage (getPages pages i refs) page
    | none => getPages pages i refs

/-- The loops of `OSReleasePhysPageAddr`. -/
def putPages (pages : Nat → Option Nat) : Nat → (Nat → Int) → Nat → Int
  | 0, refs => refs
  | i + 1, refs =>
    match pages i with
    | some page => putPage (putPages pages i refs) page
    | none => putPages pages i refs

/-- `OSReleasePhysPageAddr`. -/
def osReleasePhysPageAddr (psInfo : WrapMemInfo) (refs : Nat → Int) :
    Nat → Int :=
  match psInfo.eType with
  | .null => refs
  | .getUserPages => putPages psInfo.ppsPages psInfo.iNumPagesMapped refs
  | .findVma => putPages psInfo.ppsPages psInfo.iNumPages refs

/-! ## The two ways to the pages -/

/-- The address of a page, computed in 32 bits, goes to both arrays. -/
def Work.storeAddr (work : Work) (i ulPFN : Nat) : Option Work :=
  let uiAddr := ulPFN * 4096 % 2 ^ 32
  if uiAddr / 4096 ≠ ulPFN then none
  else
    some { work with
      info := { work.info with
        psPhysAddr := update work.info.psPhysAddr i uiAddr }
      psSysPAddr := update work.psSysPAddr i (some uiAddr) }

/-- The address is stored unless the frame number is out of range. -/
def Work.store (work : Work) (i ulPFN : Nat) : Work × Bool :=
  match work.storeAddr i ulPFN with
  | some work => (work, true)
  | none => (work, false)

/-- The loop over the pages of `get_user_pages`, and whether it got through.
It has no value where a page is missing. -/
def storePages : Nat → Work → Option (Work × Bool)
  | 0, work => some (work, true)
  | i + 1, work =>
    match storePages i work with
    | some (work, true) =>
      (work.info.ppsPages i).map fun page => work.store i (page % 2 ^ 32)
    | stopped => stopped

/-- `CPUVAddrToPFN`: the frame number in 32 bits, and a reference if it has a
page structure. -/
def Work.cpuVAddrToPFN
    (work : Work) (memory : UserMemory) (ulCPUVAddr i : Nat) :
    Option (Work × Nat) :=
  match memory.followPfnmap (ulCPUVAddr / 4096) with
  | some true =>
    let pulPFN := memory.frame (ulCPUVAddr / 4096) % 2 ^ 32
    if memory.pfnValid pulPFN then
      some ({ work with
        info := { work.info with
          ppsPages := update work.info.ppsPages i (some pulPFN) }
        refs := getPage work.refs pulPFN }, pulPFN)
    else some (work, pulPFN)
  | _ => none

/-- One turn of the walk. -/
def Work.step (work : Work) (memory : UserMemory) (ulAddr i : Nat) :
    Work × Bool :=
  match work.cpuVAddrToPFN memory ulAddr i with
  | none => (work, false)
  | some (work, ulPFN) =>
    let work :=
      match work.info.ppsPages i with
      | none => { work with bHaveNoPageStructs := true }
      | some _ =>
        { work with
          bHavePageStructs := true
          info := { work.info with
            iNumPagesMapped := work.info.iNumPagesMapped + 1 } }
    work.store i ulPFN

/-- The walk from an address on, and whether it got through.  It has no value
if it takes more turns than `fuel`. -/
def walk (memory : UserMemory) (ulBeyondEndAddrOrig : Nat) :
    Nat → Nat → Nat → Work → Option (Work × Bool)
  | 0, _, _, _ => none
  | fuel + 1, ulAddr, i, work =>
    if ulAddr < ulBeyondEndAddrOrig then
      match work.step memory ulAddr i with
      | (work, true) =>
        walk memory ulBeyondEndAddrOrig fuel
          ((ulAddr + 4096) % 2 ^ 32) (i + 1) work
      | stopped => some stopped
    else some (work, true)

/-- What the walk may have met, by the flags of the region.  That the frames
are not the ones `vm_pgoff` says is a warning only. -/
def Work.allowed (work : Work) (psVMArea : VmAreaStruct) : Bool :=
  psVMArea.vmMixedmap ||
    (!(work.bHavePageStructs && work.bHaveNoPageStructs) &&
      (!work.bHaveNoPageStructs || psVMArea.vmPfnmap))

/-- The region may be walked. -/
def VmAreaStruct.walkable
    (psVMArea : VmAreaStruct)
    (ulStartAddrOrig ulBeyondEndAddrOrig : Nat) : Bool :=
  psVMArea.vmStart ≤ ulStartAddrOrig &&
    ulBeyondEndAddrOrig ≤ psVMArea.vmEnd &&
    (psVMArea.vmIo && psVMArea.vmDontExpand && psVMArea.vmDontDump) &&
    (psVMArea.vmRead && psVMArea.vmWrite)

/-- `get_user_pages` takes a reference on each page it gets. -/
def Work.getUserPages
    (work : Work) (memory : UserMemory) (ulStartAddrOrig got : Nat) : Work :=
  let iNumPagesMapped := min got work.info.iNumPages
  let ppsPages i :=
    if i < iNumPagesMapped then
      some (memory.frame (ulStartAddrOrig / 4096 + i))
    else none
  { work with
    info := { work.info with
      eType := .getUserPages, iNumPagesMapped, ppsPages }
    refs := getPages ppsPages iNumPagesMapped work.refs }

/-- The structure is set up for the walk. -/
def Work.findVma (work : Work) : Work :=
  { work with info := { work.info with eType := .findVma } }

/-- The acquisition from `get_user_pages` on, and whether it succeeds. -/
def Work.acquire
    (work : Work) (memory : UserMemory)
    (ulStartAddrOrig ulBeyondEndAddrOrig : Nat) : Option (Work × Bool) :=
  match memory.getUserPages with
  | some got =>
    let work := work.getUserPages memory ulStartAddrOrig got
    if work.info.iNumPagesMapped ≠ work.info.iNumPages then
      some (work, false)
    else storePages work.info.iNumPages work
  | none =>
    let work := work.findVma
    match memory.findVma with
    | none => some (work, false)
    | some psVMArea =>
      if psVMArea.walkable ulStartAddrOrig ulBeyondEndAddrOrig then
        (walk memory ulBeyondEndAddrOrig (work.info.iNumPages + 1)
          ulStartAddrOrig 0 work).map fun (work, through) =>
            (work, through && work.allowed psVMArea)
      else some (work, false)

/-! ## The call -/

namespace AcquireCall

variable (call : AcquireCall)

/-- The address that is asked for, cut to 32 bits. -/
def ulStartAddrOrig : Nat := call.pvCPUVAddr.toNat % 2 ^ 32

/-- The address behind the last byte, in 32 bits. -/
def ulBeyondEndAddrOrig : Nat :=
  (call.ulStartAddrOrig + call.ui32Bytes.toNat) % 2 ^ 32

/-- `ulStartAddr`: the start of the first page. -/
def ulStartAddr : Nat := call.ulStartAddrOrig / 4096 * 4096

/-- `PAGE_ALIGN(ulBeyondEndAddrOrig)` in 32 bits. -/
def ulBeyondEndAddr : Nat :=
  (call.ulBeyondEndAddrOrig + 4095) % 2 ^ 32 / 4096 * 4096

/-- The zeroed structure and arrays. -/
def work (refs : Nat → Int) : Work where
  info :=
    { eType := .null
      iNumPages := (call.ulBeyondEndAddr - call.ulStartAddr) / 4096
      iNumPagesMapped := 0
      ppsPages := fun _ => none
      psPhysAddr := fun _ => 0
      iPageOffset := call.ulStartAddrOrig % 4096 }
  refs := refs
  psSysPAddr := fun _ => none
  bHavePageStructs := false
  bHaveNoPageStructs := false

/-- `OSAcquirePhysPageAddr`: what it leaves, and the structure it hands out
or its error. -/
def osAcquirePhysPageAddr (memory : UserMemory) (refs : Nat → Int) :
    Option (Work × Except AcquireError WrapMemInfo) :=
  let work := call.work refs
  if call.ulBeyondEndAddr ≤ call.ulStartAddr then
    some (work, .error .outOfMemory)
  else if !(call.psInfo && call.psPhysAddr && call.ppsPages) then
    some (work, .error .outOfMemory)
  else
    (work.acquire memory call.ulStartAddrOrig call.ulBeyondEndAddrOrig).map
      fun (work, succeeds) =>
        if succeeds then (work, .ok work.info)
        else
          ({ work with refs := osReleasePhysPageAddr work.info work.refs },
            .error .badMapping)

end AcquireCall

end PvrServices.UserPages
