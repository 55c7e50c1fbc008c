import Mathlib.Data.Nat.GCD.Basic
import PvrServices.Arena.Segments

/-!
# The calls of a resource arena

The resource arena hands out ranges of the addresses it was created with or
imports.  What the operating system, the segment hash and the import callback
answer are parameters of the calls; each callback's calls are recorded.
-/

namespace PvrServices.Arena

/-- A span of addresses handed to an arena. -/
structure Import where
  base : BitVec 64
  uSize : BitVec 32
  psMapping : Option BmMapping
deriving DecidableEq, Repr

/-- An arena; `pImportAlloc` and `pBackingStoreFree` say whether it has these
callbacks.  The last three fields are not the arena's own: the span it was
created with and those that the import callback has handed over and not got
back, and the calls made to `pImportFree` and `pBackingStoreFree`. -/
structure RaArena where
  segments : Segments
  pSegmentHash : Nat → Option Address
  uQuantum : Nat
  pImportAlloc : Bool
  pBackingStoreFree : Bool
  resources : List Import
  importFrees : List (Nat × Option BmMapping)
  backingStoreFrees : List (Nat × Nat)

/-- The arguments of `RA_Alloc`. -/
structure Request where
  uSize : BitVec 32
  uFlags : BitVec 32
  uAlignment : BitVec 32
  uAlignmentOffset : BitVec 32
deriving DecidableEq, Repr

/-- Whether the allocations of an attempt succeed: the two splits and the
insertion into the segment hash. -/
structure AttemptAnswers where
  frontSplit : Bool
  backSplit : Bool
  hashInsert : Bool
deriving DecidableEq, Repr

/-- Whether the three tags of an imported span can be allocated. -/
structure SpanAnswers where
  spanStart : Bool
  spanEnd : Bool
  bt : Bool
deriving DecidableEq, Repr

/-- The answers one call of `RA_Alloc` may get; the import callback is asked
for a size and flags. -/
structure Answers where
  first : AttemptAnswers
  imports : Nat → BitVec 32 → Option Import
  tags : SpanAnswers
  second : AttemptAnswers

/-- What a successful `RA_Alloc` stores for its caller. -/
structure Allocation where
  base : Nat
  psMapping : Option BmMapping
deriving DecidableEq, Repr

/-! ## Inserting resources -/

namespace Segments

/-- `_InsertResource`; the outer option is a loop that does not end, the inner
one `IMG_NULL`. -/
def insertResource (segments : Segments) (base uSize : Nat)
    (allocated : Bool) : Option (Option (Segments × Address)) :=
  match segments.buildBT base uSize allocated with
  | none => some none
  | some (segments, pBT) =>
    (segments.segmentListInsert pBT).map fun segments =>
      some (segments.freeListInsert pBT, pBT)

/-- `_InsertResourceSpan`. -/
def insertResourceSpan (segments : Segments) (base uSize : Nat)
    (answers : SpanAnswers) : Option (Option (Segments × Address)) :=
  match segments.buildSpanMarker base uSize answers.spanStart with
  | none => some none
  | some (segments, pSpanStart) =>
    match segments.buildSpanMarker (wrap64 (base + uSize)) 0
        answers.spanEnd with
    | none => some none
    | some (segments, pSpanEnd) =>
      match segments.buildBT base uSize answers.bt with
      | none => some none
      | some (segments, pBT) =>
        (segments.segmentListInsert pSpanStart).map fun segments =>
          let segments := segments.segmentListInsertAfter pSpanStart pBT
          let segments := segments.freeListInsert pBT
          some (segments.segmentListInsertAfter pBT pSpanEnd, pBT)

end Segments

namespace RaArena

/-- `RA_Create`, before the first resource. -/
def newArena (uQuantum : BitVec 32) (pImportAlloc pBackingStoreFree : Bool) :
    RaArena where
  segments :=
    { aHeadFree := fun _ => none
      pHeadSegment := none
      pTailSegment := none
      bt := fun _ => { type := .span, base := 0, uSize := 0, psMapping := none }
      pNextSegment := fun _ => none
      pPrevSegment := fun _ => none
      pNextFree := fun _ => none
      pPrevFree := fun _ => none
      fresh := 0 }
  pSegmentHash := fun _ => none
  uQuantum := uQuantum.toNat
  pImportAlloc := pImportAlloc
  pBackingStoreFree := pBackingStoreFree
  resources := []
  importFrees := []
  backingStoreFrees := []

/-- `RA_Create`, with the outcomes of its three allocations. -/
def raCreate (base : BitVec 64) (uSize : BitVec 32)
    (psMapping : Option BmMapping) (uQuantum : BitVec 32)
    (pImportAlloc pBackingStoreFree : Bool)
    (arenaAllocated hashCreated tagAllocated : Bool) :
    Option (Option RaArena) :=
  if arenaAllocated && hashCreated then
    let arena := newArena uQuantum pImportAlloc pBackingStoreFree
    if 0 < uSize.toNat then
      let uSize :=
        wrap32 (wrap32 (uSize.toNat + uQuantum.toNat - 1) / uQuantum.toNat *
          uQuantum.toNat)
      match arena.segments.insertResource base.toNat uSize tagAllocated with
      | none => none
      | some none => some none
      | some (some (segments, pBT)) =>
        some (some { arena with
          segments := segments.setBt pBT
            { segments.bt pBT with psMapping := psMapping }
          resources :=
            [{ base := base
               uSize := BitVec.ofNat 32 uSize
               psMapping := psMapping }] })
    else some (some arena)
  else some none

/-! ## Freeing a tag -/

/-- `_FreeBT`, coalescing with the tag in front. -/
def mergePrev (segments : Segments) (pBT : Address) : Segments :=
  match segments.pPrevSegment pBT with
  | none => segments
  | some pNeighbour =>
    let before := segments.bt pNeighbour
    let contents := segments.bt pBT
    if before.type = .free ∧
        wrap64 (before.base + before.uSize) = contents.base then
      let segments := segments.freeListRemove pNeighbour
      let segments := segments.segmentListRemove pNeighbour
      segments.setBt pBT
        { contents with
          base := before.base
          uSize := wrap32 (contents.uSize + before.uSize) }
    else segments

/-- `_FreeBT`, coalescing with the tag behind. -/
def mergeNext (segments : Segments) (pBT : Address) : Segments :=
  match segments.pNextSegment pBT with
  | none => segments
  | some pNeighbour =>
    let behind := segments.bt pNeighbour
    let contents := segments.bt pBT
    if behind.type = .free ∧
        wrap64 (contents.base + contents.uSize) = behind.base then
      let segments := segments.freeListRemove pNeighbour
      let segments := segments.segmentListRemove pNeighbour
      segments.setBt pBT
        { contents with uSize := wrap32 (contents.uSize + behind.uSize) }
    else segments

/-- `_FreeBT`, the range of backing store to free, of the original and the
coalesced segment. -/
def backingStoreRange (uQuantum uOrigBase uOrigSize base uSize : Nat) :
    Option (Nat × Nat) :=
  let uRoundedStart := wrap64 (uOrigBase / uQuantum * uQuantum)
  let uRoundedStart :=
    if uRoundedStart < base then wrap64 (uRoundedStart + uQuantum)
    else uRoundedStart
  let uRoundedEnd :=
    wrap64 (wrap64 (uOrigBase + uOrigSize + uQuantum - 1) / uQuantum *
      uQuantum)
  let uRoundedEnd :=
    if wrap64 (base + uSize) < uRoundedEnd then
      wrap64 (uRoundedEnd + 2 ^ 64 - uQuantum)
    else uRoundedEnd
  if uRoundedStart < uRoundedEnd then
    some (wrap32 uRoundedStart, wrap32 uRoundedEnd)
  else none

/-- `pImportFree`. -/
def importFree (arena : RaArena) (base : Nat)
    (psMapping : Option BmMapping) : RaArena :=
  { arena with
    resources := arena.resources.eraseP fun span => span.base.toNat == base
    importFrees := arena.importFrees ++ [(base, psMapping)] }

/-- `_FreeBT`, the call of `pBackingStoreFree`. -/
def freeBackingStore (arena : RaArena) (range : Option (Nat × Nat)) :
    RaArena :=
  { arena with
    backingStoreFrees := arena.backingStoreFrees ++ range.toList }

/-- `_FreeBT`, the end: a tag between two span markers is an imported span
that goes back; any other tag becomes free. -/
def releaseTag (arena : RaArena) (pBT : Address) : RaArena :=
  let segments := arena.segments
  match segments.pNextSegment pBT, segments.pPrevSegment pBT with
  | some next, some prev =>
    if (segments.bt next).type = .span ∧ (segments.bt prev).type = .span then
      let segments := segments.segmentListRemove next
      let segments := segments.segmentListRemove prev
      let segments := segments.segmentListRemove pBT
      { arena with segments := segments }.importFree (segments.bt pBT).base
        (segments.bt pBT).psMapping
    else { arena with segments := segments.freeListInsert pBT }
  | _, _ => { arena with segments := segments.freeListInsert pBT }

/-- `_FreeBT`. -/
def freeBT (arena : RaArena) (pBT : Address) (bFreeBackingStore : Bool) :
    RaArena :=
  let orig := arena.segments.bt pBT
  let segments := mergeNext (mergePrev arena.segments pBT) pBT
  let merged := segments.bt pBT
  let arena := { arena with segments := segments }
  let arena :=
    if arena.pBackingStoreFree && bFreeBackingStore then
      arena.freeBackingStore
        (backingStoreRange arena.uQuantum orig.base orig.uSize merged.base
          merged.uSize)
    else arena
  arena.releaseTag pBT

/-! ## Allocating -/

/-- The base that `_AttemptAllocAligned` would give a block of the segment. -/
def alignedBase (request : Request) (base : Nat) : Nat :=
  let alignment := request.uAlignment.toNat
  if 1 < alignment then
    let offset := request.uAlignmentOffset.toNat % alignment
    wrap64 (wrap64 (wrap64 (base + offset + alignment - 1) / alignment *
      alignment) + 2 ^ 64 - offset)
  else base

/-- Whether `_AttemptAllocAligned` takes its block from the segment. -/
def accepts (request : Request) (contents : Bt) : Bool :=
  decide (wrap64 (alignedBase request contents.base + request.uSize.toNat) ≤
    wrap64 (contents.base + contents.uSize)) &&
  match contents.psMapping with
  | none => true
  | some mapping => mapping.ui32Flags == request.uFlags

/-- The loop over one free list; the outer option is a loop that does not
end, the inner one the end of the list. -/
def searchList (segments : Segments) (request : Request) :
    Nat → Option Address → Option (Option Address)
  | _, none => some none
  | 0, some _ => none
  | fuel + 1, some pBT =>
    if accepts request (segments.bt pBT) then some (some pBT)
    else searchList segments request fuel (segments.pNextFree pBT)

/-- The first loop over the free table, which passes over empty lists. -/
def skipEmpty (segments : Segments) : Nat → Nat → Nat
  | 0, uIndex => uIndex
  | fuel + 1, uIndex =>
    if uIndex < freeTableLimit ∧ segments.aHeadFree uIndex = none then
      skipEmpty segments fuel (uIndex + 1)
    else uIndex

/-- The second loop over the free table. -/
def searchTable (segments : Segments) (request : Request) :
    Nat → Nat → Option (Option Address)
  | 0, _ => some none
  | fuel + 1, uIndex =>
    if uIndex < freeTableLimit then
      match searchList segments request segments.fresh
          (segments.aHeadFree uIndex) with
      | none => none
      | some (some pBT) => some (some pBT)
      | some none => searchTable segments request fuel (uIndex + 1)
    else some none

/-- The segment that `_AttemptAllocAligned` takes its block from. -/
def search (segments : Segments) (request : Request) :
    Option (Option Address) :=
  searchTable segments request freeTableLimit
    (skipEmpty segments freeTableLimit (pvrLog2 request.uSize.toNat))

/-- `_AttemptAllocAligned`, from the front split on: the outcome is the
segments and the tag of the block, or the segments after a failed split. -/
def cutFront (segments : Segments) (pBT : Address) (request : Request)
    (frontSplit : Bool) : Segments × Option Address :=
  let contents := segments.bt pBT
  let segments := segments.freeListRemove pBT
  let aligned := alignedBase request contents.base
  if contents.base < aligned then
    match segments.segmentSplit pBT (wrap32 (aligned - contents.base))
        frontSplit with
    | none => (segments.freeListInsert pBT, none)
    | some (segments, pNeighbour) =>
      (segments.freeListInsert pBT, some pNeighbour)
  else (segments, some pBT)

/-- `_AttemptAllocAligned`, the back split. -/
def cutBack (segments : Segments) (pBT : Address) (request : Request)
    (backSplit : Bool) : Segments × Bool :=
  if request.uSize.toNat < (segments.bt pBT).uSize then
    match segments.segmentSplit pBT request.uSize.toNat backSplit with
    | none => (segments.freeListInsert pBT, false)
    | some (segments, pNeighbour) => (segments.freeListInsert pNeighbour, true)
  else (segments, true)

/-- `_AttemptAllocAligned`, from the cut block on. -/
def takeBlock (arena : RaArena) (pBT : Address) (hashInsert : Bool) :
    RaArena × Option Allocation :=
  let contents := arena.segments.bt pBT
  let arena := { arena with
    segments := arena.segments.setBt pBT { contents with type := .live } }
  if hashInsert then
    ({ arena with
        pSegmentHash :=
          Function.update arena.pSegmentHash contents.base (some pBT) },
      some { base := contents.base, psMapping := contents.psMapping })
  else (arena.freeBT pBT false, none)

/-- `_AttemptAllocAligned`, from the chosen segment on. -/
def allocFrom (arena : RaArena) (pBT : Address) (request : Request)
    (answers : AttemptAnswers) : RaArena × Option Allocation :=
  match cutFront arena.segments pBT request answers.frontSplit with
  | (segments, none) => ({ arena with segments := segments }, none)
  | (segments, some pBT) =>
    match cutBack segments pBT request answers.backSplit with
    | (segments, false) => ({ arena with segments := segments }, none)
    | (segments, true) =>
      { arena with segments := segments }.takeBlock pBT answers.hashInsert

/-- `_AttemptAllocAligned`; `none` stands for a loop that does not end. -/
def attemptAllocAligned (arena : RaArena) (request : Request)
    (answers : AttemptAnswers) : Option (RaArena × Option Allocation) :=
  (search arena.segments request).map fun
    | none => (arena, none)
    | some pBT => arena.allocFrom pBT request answers

/-- The size that `RA_Alloc` asks the import callback for. -/
def importSize (uQuantum : Nat) (request : Request) : Nat :=
  let uImportSize := request.uSize.toNat
  let uImportSize :=
    if uQuantum < request.uAlignment.toNat then
      wrap32 (uImportSize + (request.uAlignment.toNat - 1))
    else uImportSize
  wrap32 (wrap32 (uImportSize + uQuantum - 1) / uQuantum * uQuantum)

/-- The span that the import callback hands over, if there is one. -/
def importAlloc (arena : RaArena) (request : Request) (answers : Answers) :
    Option Import :=
  if arena.pImportAlloc then
    answers.imports (importSize arena.uQuantum request) request.uFlags
  else none

/-- `RA_Alloc`, linking in the imported span; the outer option is a loop that
does not end, the inner one a tag that cannot be allocated. -/
def linkImported (arena : RaArena) (span : Import) (answers : SpanAnswers) :
    Option (Option RaArena) :=
  match arena.segments.insertResourceSpan span.base.toNat span.uSize.toNat
      answers with
  | none => none
  | some none => some none
  | some (some (segments, pBT)) =>
    some (some { arena with
      segments := segments.setBt pBT
        { segments.bt pBT with psMapping := span.psMapping }
      resources := span :: arena.resources })

/-- `RA_Alloc`, from the import callback's answer on. -/
def allocImported (arena : RaArena) (span : Import) (request : Request)
    (answers : Answers) : Option (RaArena × Option Allocation) :=
  match arena.linkImported span answers.tags with
  | none => none
  | some none =>
    some ({ arena with resources := span :: arena.resources }.importFree
      span.base.toNat span.psMapping, none)
  | some (some linked) => linked.attemptAllocAligned request answers.second

/-- `RA_Alloc`; no allocation stands for `IMG_FALSE`. -/
def raAlloc (arena : RaArena) (request : Request) (answers : Answers) :
    Option (RaArena × Option Allocation) :=
  match arena.attemptAllocAligned request answers.first with
  | none => none
  | some (arena, some allocation) => some (arena, some allocation)
  | some (arena, none) =>
    match arena.importAlloc request answers with
    | none => some (arena, none)
    | some span => arena.allocImported span request answers

/-! ## Freeing and testing -/

/-- `RA_Free`. -/
def raFree (arena : RaArena) (base : Nat) (bFreeBackingStore : Bool) :
    RaArena :=
  match arena.pSegmentHash base with
  | none => arena
  | some pBT =>
    { arena with
      pSegmentHash := Function.update arena.pSegmentHash base none }.freeBT pBT
      bFreeBackingStore

/-- `RA_TestDelete`, with a bound on the rounds of its loop. -/
def raTestDelete (arena : RaArena) : Nat → Option Bool
  | 0 => none
  | fuel + 1 =>
    match arena.segments.pHeadSegment with
    | none => some true
    | some pBT =>
      if (arena.segments.bt pBT).type ≠ .free then some false
      else raTestDelete arena fuel

end RaArena

end PvrServices.Arena
