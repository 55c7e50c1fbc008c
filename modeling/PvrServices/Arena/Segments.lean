import Mathlib.Algebra.Group.Nat.Defs
import Mathlib.Data.Nat.Log

/-!
# Boundary tags of a resource arena

A resource arena describes its spans by boundary tags: one for each live or
free segment, and one at each end of an imported span.  The tags form a list
in the order of their bases; the free ones are also on the list of their size
class, the logarithm of the size.
-/

namespace PvrServices.Arena

open Function (update)

/-- The address of a boundary tag. -/
abbrev Address := Nat

/-- `bt_type`. -/
inductive BtType where
  | span
  | free
  | live
deriving DecidableEq, Repr

/-- What the arena reads of a `BM_MAPPING`, with its address. -/
structure BmMapping where
  address : Nat
  ui32Flags : BitVec 32
deriving DecidableEq, Repr

/-- The contents of a boundary tag, without its list pointers. -/
structure Bt where
  type : BtType
  base : Nat
  uSize : Nat
  psMapping : Option BmMapping
deriving DecidableEq, Repr

/-- Arithmetic on `IMG_SIZE_T`. -/
abbrev wrap32 (value : Nat) : Nat := value % 2 ^ 32

/-- Arithmetic on `IMG_UINTPTR_T`. -/
abbrev wrap64 (value : Nat) : Nat := value % 2 ^ 64

/-- `FREE_TABLE_LIMIT`. -/
def freeTableLimit : Nat := 32

/-- The tags, their list pointers and the heads of the lists.  Tags are
allocated at increasing addresses, from `fresh` on. -/
structure Segments where
  aHeadFree : Nat → Option Address
  pHeadSegment : Option Address
  pTailSegment : Option Address
  bt : Address → Bt
  pNextSegment : Address → Option Address
  pPrevSegment : Address → Option Address
  pNextFree : Address → Option Address
  pPrevFree : Address → Option Address
  fresh : Address

/-- The loop of `pvr_log2`. -/
def pvrLog2Loop : Nat → Nat → Nat → Nat
  | 0, _, l => l
  | fuel + 1, n, l => if 0 < n then pvrLog2Loop fuel (n / 2) (l + 1) else l

/-- `pvr_log2`: an `IMG_SIZE_T` has 32 bits to shift out. -/
def pvrLog2 (n : Nat) : Nat :=
  pvrLog2Loop 32 (n / 2) 0

theorem pvrLog2Loop_eq
    (fuel n l : Nat)
    (bounded : n < 2 ^ fuel) :
    pvrLog2Loop fuel n l = l + if n = 0 then 0 else Nat.log 2 n + 1 := by
  induction fuel generalizing n l with
  | zero =>
    have isZero : n = 0 := by omega
    simp [pvrLog2Loop, isZero]
  | succ fuel ih =>
    rw [pvrLog2Loop]
    rcases Nat.eq_zero_or_pos n with isZero | positive
    · simp [isZero]
    · rw [if_pos positive, ih (n / 2) (l + 1) (by omega),
        if_neg (by omega : n ≠ 0)]
      rcases Nat.lt_or_ge n 2 with small | large
      · have isOne : n = 1 := by omega
        simp [isOne]
      · rw [if_neg (by omega), Nat.log_of_one_lt_of_le (by omega) large]
        omega

variable {n : Nat}

/-- The size class is the logarithm of the size. -/
theorem pvrLog2_eq
    (bounded : n < 2 ^ 32) :
    pvrLog2 n = Nat.log 2 n := by
  rw [pvrLog2, pvrLog2Loop_eq 32 _ _ (by omega), Nat.zero_add]
  rcases Nat.lt_or_ge n 2 with small | large
  · rw [if_pos (by omega), Nat.log_of_lt small]
  · rw [if_neg (by omega), Nat.log_of_one_lt_of_le (by omega) large]

theorem pvrLog2_lt
    (bounded : n < 2 ^ 32) :
    pvrLog2 n < freeTableLimit := by
  rw [pvrLog2_eq bounded]
  rcases Nat.eq_zero_or_pos n with rfl | positive
  · simp [freeTableLimit]
  · exact Nat.log_lt_of_lt_pow (by omega) bounded

theorem pvrLog2_mono
    {small large : Nat}
    (ordered : small ≤ large)
    (bounded : large < 2 ^ 32) :
    pvrLog2 small ≤ pvrLog2 large := by
  rw [pvrLog2_eq bounded, pvrLog2_eq (by omega)]
  exact Nat.log_mono_right ordered

namespace Segments

/-- Overwrite the contents of a tag. -/
def setBt (segments : Segments) (pBT : Address) (contents : Bt) : Segments :=
  { segments with bt := update segments.bt pBT contents }

/-- `_SegmentListInsertAfter`. -/
def segmentListInsertAfter (segments : Segments)
    (pInsertionPoint pBT : Address) : Segments :=
  let following := segments.pNextSegment pInsertionPoint
  let segments := { segments with
    pNextSegment := update segments.pNextSegment pBT following
    pPrevSegment := update segments.pPrevSegment pBT (some pInsertionPoint) }
  let segments :=
    match following with
    | none => { segments with pTailSegment := some pBT }
    | some next =>
      { segments with
        pPrevSegment := update segments.pPrevSegment next (some pBT) }
  { segments with
    pNextSegment := update segments.pNextSegment pInsertionPoint (some pBT) }

/-- The loop of `_SegmentListInsert`: the last tag with a base of at most the
new one's, from a tag on. -/
def insertionPoint (segments : Segments) (base : Nat) :
    Nat → Address → Option Address
  | 0, _ => none
  | fuel + 1, pBTScan =>
    match segments.pNextSegment pBTScan with
    | none => some pBTScan
    | some next =>
      if (segments.bt next).base ≤ base then
        insertionPoint segments base fuel next
      else some pBTScan

/-- `_SegmentListInsert`; `none` stands for a loop that does not end. -/
def segmentListInsert (segments : Segments) (pBT : Address) :
    Option Segments :=
  match segments.pHeadSegment with
  | none =>
    some { segments with
      pHeadSegment := some pBT
      pTailSegment := some pBT
      pNextSegment := update segments.pNextSegment pBT none
      pPrevSegment := update segments.pPrevSegment pBT none }
  | some head =>
    if (segments.bt pBT).base < (segments.bt head).base then
      some { segments with
        pNextSegment := update segments.pNextSegment pBT (some head)
        pPrevSegment :=
          update (update segments.pPrevSegment head (some pBT)) pBT none
        pHeadSegment := some pBT }
    else
      (segments.insertionPoint (segments.bt pBT).base segments.fresh
        head).map fun point => segments.segmentListInsertAfter point pBT

/-- `_SegmentListRemove`. -/
def segmentListRemove (segments : Segments) (pBT : Address) : Segments :=
  let prev := segments.pPrevSegment pBT
  let next := segments.pNextSegment pBT
  let segments :=
    match prev with
    | none => { segments with pHeadSegment := next }
    | some prev =>
      { segments with
        pNextSegment := update segments.pNextSegment prev next }
  match next with
  | none => { segments with pTailSegment := prev }
  | some next =>
    { segments with
      pPrevSegment := update segments.pPrevSegment next prev }

/-- `_SegmentSplit`, with the outcome of `OSAllocMem`: the tag keeps its
first `uSize` bytes, and the new tag gets the rest. -/
def segmentSplit (segments : Segments) (pBT : Address) (uSize : Nat)
    (allocated : Bool) : Option (Segments × Address) :=
  if allocated then
    let pNeighbour := segments.fresh
    let following := segments.pNextSegment pBT
    let contents := segments.bt pBT
    let segments := { segments with
      fresh := pNeighbour + 1
      pNextSegment := update segments.pNextSegment pNeighbour following
      pPrevSegment := update segments.pPrevSegment pNeighbour (some pBT)
      pNextFree := update segments.pNextFree pNeighbour none
      pPrevFree := update segments.pPrevFree pNeighbour none }
    let segments :=
      match following with
      | none => { segments with pTailSegment := some pNeighbour }
      | some next =>
        { segments with
          pPrevSegment := update segments.pPrevSegment next (some pNeighbour) }
    let segments := { segments with
      pNextSegment := update segments.pNextSegment pBT (some pNeighbour) }
    let segments := segments.setBt pNeighbour
      { type := .free
        base := wrap64 (contents.base + uSize)
        uSize := wrap32 (contents.uSize + 2 ^ 32 - uSize)
        psMapping := contents.psMapping }
    some (segments.setBt pBT { contents with uSize := uSize }, pNeighbour)
  else none

/-- `_FreeListInsert`. -/
def freeListInsert (segments : Segments) (pBT : Address) : Segments :=
  let uIndex := pvrLog2 (segments.bt pBT).uSize
  let first := segments.aHeadFree uIndex
  let segments := segments.setBt pBT { segments.bt pBT with type := .free }
  let segments := { segments with
    pNextFree := update segments.pNextFree pBT first
    pPrevFree := update segments.pPrevFree pBT none }
  let segments :=
    match first with
    | none => segments
    | some first =>
      { segments with
        pPrevFree := update segments.pPrevFree first (some pBT) }
  { segments with
    aHeadFree := update segments.aHeadFree uIndex (some pBT) }

/-- `_FreeListRemove`. -/
def freeListRemove (segments : Segments) (pBT : Address) : Segments :=
  let uIndex := pvrLog2 (segments.bt pBT).uSize
  let next := segments.pNextFree pBT
  let prev := segments.pPrevFree pBT
  let segments :=
    match next with
    | none => segments
    | some next =>
      { segments with
        pPrevFree := update segments.pPrevFree next prev }
  match prev with
  | none =>
    { segments with
      aHeadFree := update segments.aHeadFree uIndex next }
  | some prev =>
    { segments with
      pNextFree := update segments.pNextFree prev next }

/-- `OSAllocMem` and `OSMemSet` of a tag, and its first contents. -/
def buildTag (segments : Segments) (contents : Bt) : Segments × Address :=
  let pBT := segments.fresh
  ({ segments with
      fresh := pBT + 1
      bt := update segments.bt pBT contents
      pNextSegment := update segments.pNextSegment pBT none
      pPrevSegment := update segments.pPrevSegment pBT none
      pNextFree := update segments.pNextFree pBT none
      pPrevFree := update segments.pPrevFree pBT none }, pBT)

/-- `_BuildSpanMarker`. -/
def buildSpanMarker (segments : Segments) (base uSize : Nat)
    (allocated : Bool) : Option (Segments × Address) :=
  if allocated then
    some (segments.buildTag
      { type := .span, base := base, uSize := uSize, psMapping := none })
  else none

/-- `_BuildBT`. -/
def buildBT (segments : Segments) (base uSize : Nat) (allocated : Bool) :
    Option (Segments × Address) :=
  if allocated then
    some (segments.buildTag
      { type := .free, base := base, uSize := uSize, psMapping := none })
  else none

end Segments

end PvrServices.Arena
