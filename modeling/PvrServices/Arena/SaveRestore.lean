import PvrServices.Arena.LiveSegments
import PvrServices.Arena.BackingStore
import PvrServices.Lib.ByteMemory

/-!
# Saving and restoring live segments

`PVRSRVSaveRestoreLiveSegments` goes through the live segments of an arena.
Without a buffer it adds up how many bytes they need; with one it writes the
size and the bytes of each segment to the buffer, or reads them back.
-/

namespace PvrServices.Arena

open RaArena ByteMemory
open RaSegmentDetails (extent start)

/-! ## The passes -/

/-- What `PVRSRVSaveRestoreLiveSegments` returns. -/
inductive SaveRestoreError where
  | ok
  | invalidParams
  | outOfMemory
deriving DecidableEq, Repr

/-- The arguments of `PVRSRVSaveRestoreLiveSegments`, the physical memory, and
whether `OSMapPhysToLin` maps the segments that the pass comes to. -/
structure SaveRestoreCall where
  pbyBuffer : Option Memory
  puiBufSize : Nat
  bSave : Bool
  mapped : Nat → Bool
  memory : Memory

/-- The locals of a pass: the bytes counted, how far `pbyBuffer` has moved on,
and what the buffer and the physical memory hold. -/
structure PassState where
  uiBytesSaved : Nat
  offset : Nat
  buffer : Memory
  memory : Memory

/-- The bytes that one segment takes in the buffer. -/
def RaSegmentDetails.bytes (details : RaSegmentDetails) : Nat :=
  4 + details.uiSize

/-- The size and the bytes of a segment go to the buffer. -/
def PassState.saveSegment
    (pass : PassState)
    (details : RaSegmentDetails) :
    PassState :=
  let buffer := writeLE pass.buffer 4 pass.offset details.uiSize
  { pass with
    buffer := copyFrom buffer pass.memory (pass.offset + 4)
      details.sCpuPhyAddr details.uiSize
    offset := pass.offset + 4 + details.uiSize }

/-- The bytes of a segment come from the buffer, if its size is the one that
was saved. -/
def PassState.restoreSegment
    (pass : PassState)
    (details : RaSegmentDetails) :
    PassState :=
  if readLE pass.buffer 4 pass.offset ≠ details.uiSize then pass
  else
    { pass with
      memory := copyFrom pass.memory pass.buffer details.sCpuPhyAddr
        (pass.offset + 4) details.uiSize
      offset := pass.offset + 4 + details.uiSize }

/-- One iteration.  The sum that is tested has the 64 bits of `sizeof`, the one
that is kept has 32. -/
def passSegment
    (call : SaveRestoreCall)
    (index : Nat)
    (details : RaSegmentDetails)
    (pass : PassState) :
    PassState × SaveRestoreError :=
  let uiBytesSaved := wrap32 (pass.uiBytesSaved + details.bytes)
  match call.pbyBuffer with
  | none => ({ pass with uiBytesSaved }, .ok)
  | some _ =>
    if call.puiBufSize < pass.uiBytesSaved + details.bytes then
      (pass, .outOfMemory)
    else if call.mapped index then
      let pass :=
        if call.bSave then pass.saveSegment details
        else pass.restoreSegment details
      ({ pass with uiBytesSaved }, .ok)
    else (pass, .outOfMemory)

/-- The loop, with a bound on its rounds. -/
def saveRestoreLoop (arena : RaArena) (call : SaveRestoreCall) :
    Nat → Nat → RaSegmentDetails → PassState →
      Option (PassState × SaveRestoreError)
  | 0, _, _, _ => none
  | fuel + 1, index, sSegDetails, pass =>
    match raGetNextLiveSegment arena sSegDetails with
    | none => none
    | some (_, false) => some (pass, .ok)
    | some (sSegDetails, true) =>
      match passSegment call index sSegDetails pass with
      | (pass, .ok) =>
        saveRestoreLoop arena call fuel (index + 1) sSegDetails pass
      | (pass, eError) => some (pass, eError)

/-- The locals with which a pass starts. -/
def SaveRestoreCall.startPass (call : SaveRestoreCall) : PassState where
  uiBytesSaved := 0
  offset := 0
  buffer := call.pbyBuffer.getD fun _ => 0
  memory := call.memory

/-- The locals, `*puiBufSize` and the error at the return. -/
structure SaveRestoreResult where
  pass : PassState
  puiBufSize : Nat
  eError : SaveRestoreError

/-- `PVRSRVSaveRestoreLiveSegments`, with a bound on the rounds of its
loop. -/
def pvrsrvSaveRestoreLiveSegments
    (hArena : Option RaArena)
    (call : SaveRestoreCall)
    (fuel : Nat) :
    Option SaveRestoreResult :=
  match hArena with
  | none => some ⟨call.startPass, call.puiBufSize, .invalidParams⟩
  | some arena =>
    (saveRestoreLoop arena call fuel 0 .start call.startPass).map
      fun (pass, eError) =>
        { pass, eError
          puiBufSize :=
            if eError = .ok ∧ call.pbyBuffer.isNone then pass.uiBytesSaved
            else call.puiBufSize }

/-! ## A pass over a list of segments -/

/-- The loop over segments that are given. -/
def passOver (call : SaveRestoreCall) :
    Nat → List RaSegmentDetails → PassState → PassState × SaveRestoreError
  | _, [], pass => (pass, .ok)
  | index, details :: rest, pass =>
    match passSegment call index details pass with
    | (pass, .ok) => passOver call (index + 1) rest pass
    | (pass, eError) => (pass, eError)

variable {arena : RaArena} {fuel : Nat} {visited : List RaSegmentDetails}
  {buffer : Memory} {sSegDetails : RaSegmentDetails} {call : SaveRestoreCall}
  {pass : PassState}

/-- An iteration that ends gives the loop its segments. -/
theorem saveRestoreLoop_eq
    (call : SaveRestoreCall)
    (ends : visitLiveSegments arena fuel sSegDetails = some visited)
    (index : Nat)
    (pass : PassState) :
    saveRestoreLoop arena call fuel index sSegDetails pass =
      some (passOver call index visited pass) := by
  induction fuel generalizing sSegDetails visited index pass with
  | zero => cases ends
  | succ fuel ih =>
    rw [visitLiveSegments] at ends
    rw [saveRestoreLoop]
    cases found : raGetNextLiveSegment arena sSegDetails with
    | none =>
      rw [found] at ends
      cases ends
    | some result =>
      obtain ⟨details, more⟩ := result
      rw [found] at ends
      cases more with
      | false =>
        cases ends
        rfl
      | true =>
        obtain ⟨rest, restEnds, rfl⟩ := Option.map_eq_some_iff.mp ends
        dsimp only
        rw [passOver]
        split
        · exact ih restEnds _ _
        · rfl

/-- The bytes that segments take in the buffer. -/
def bytesOf (segments : List RaSegmentDetails) : Nat :=
  (segments.map RaSegmentDetails.bytes).sum

@[simp] theorem bytesOf_cons
    (details : RaSegmentDetails)
    (segments : List RaSegmentDetails) :
    bytesOf (details :: segments) = details.bytes + bytesOf segments := rfl

/-- Without a buffer the bytes are counted, in 32 bits. -/
theorem passOver_count
    (noBuffer : call.pbyBuffer = none)
    (segments : List RaSegmentDetails)
    (index : Nat)
    (bounded : pass.uiBytesSaved < 2 ^ 32) :
    passOver call index segments pass =
      ({ pass with
          uiBytesSaved := wrap32 (pass.uiBytesSaved + bytesOf segments) },
        .ok) := by
  induction segments generalizing index pass with
  | nil =>
    show (pass, _) = ({ pass with uiBytesSaved := wrap32 pass.uiBytesSaved }, _)
    rw [wrap32, Nat.mod_eq_of_lt bounded]
  | cons details rest ih =>
    have step : passSegment call index details pass =
        ({ pass with
          uiBytesSaved := wrap32 (pass.uiBytesSaved + details.bytes) },
          .ok) := by
      rw [passSegment, noBuffer]
    rw [passOver, step]
    simp only
    rw [ih _ (Nat.mod_lt _ (by decide)), bytesOf_cons]
    simp only [wrap32, Nat.mod_add_mod, Nat.add_assoc]

/-- A segment with a buffer is left out, or goes to or comes from the
buffer. -/
theorem passSegment_cases
    (hasBuffer : call.pbyBuffer = some buffer)
    (index : Nat)
    (details : RaSegmentDetails)
    (pass : PassState) :
    passSegment call index details pass = (pass, .outOfMemory) ∧
        (call.puiBufSize < pass.uiBytesSaved + details.bytes ∨
          call.mapped index = false) ∨
      pass.uiBytesSaved + details.bytes ≤ call.puiBufSize ∧
        passSegment call index details pass =
          ({ (if call.bSave then pass.saveSegment details
              else pass.restoreSegment details) with
            uiBytesSaved := wrap32 (pass.uiBytesSaved + details.bytes) },
            .ok) := by
  rw [passSegment, hasBuffer]
  by_cases full : call.puiBufSize < pass.uiBytesSaved + details.bytes
  · exact .inl ⟨if_pos full, .inl full⟩
  · cases isMapped : call.mapped index with
    | true => exact .inr ⟨Nat.le_of_not_lt full, by rw [if_neg full]; rfl⟩
    | false => exact .inl ⟨by rw [if_neg full]; rfl, .inr rfl⟩

/-! ## What is saved -/

/-- From an offset on a buffer holds the sizes of segments and their bytes. -/
def Saved
    (buffer : Memory)
    (memory : Memory) :
    Nat → List RaSegmentDetails → Prop
  | _, [] => True
  | offset, details :: rest =>
    readLE buffer 4 offset = details.uiSize ∧
      (∀ i < details.uiSize,
        buffer (offset + 4 + i) = memory (details.sCpuPhyAddr + i)) ∧
      Saved buffer memory (offset + details.bytes) rest

/-- A segment that is saved stands in the buffer, and no other byte
changes. -/
theorem saveSegment_saved
    (pass : PassState)
    {details : RaSegmentDetails}
    (bounded : details.uiSize < 2 ^ 32) :
    let next := pass.saveSegment details
    readLE next.buffer 4 pass.offset = details.uiSize ∧
      (∀ i < details.uiSize,
        next.buffer (pass.offset + 4 + i) =
          pass.memory (details.sCpuPhyAddr + i)) ∧
      ∀ location,
        location < pass.offset ∨ pass.offset + details.bytes ≤ location →
        next.buffer location = pass.buffer location := by
  refine ⟨?_, fun i below => copyFrom_inside _ _ _ _ below,
    fun location outside => ?_⟩
  · have sizeKept : readLE (pass.saveSegment details).buffer 4 pass.offset =
        readLE (writeLE pass.buffer 4 pass.offset details.uiSize) 4
          pass.offset :=
      readLE_congr fun i below => copyFrom_outside (.inl (by omega))
    rw [sizeKept, readLE_writeLE]
    exact Nat.mod_eq_of_lt bounded
  · unfold RaSegmentDetails.bytes at outside
    rw [PassState.saveSegment]
    show copyFrom _ _ _ _ _ location = _
    rw [copyFrom_outside (by omega), writeLE_outside (by omega)]

section

variable (hasBuffer : call.pbyBuffer = some buffer) (saves : call.bSave = true)
include hasBuffer saves

/-- The save pass writes below the size of the buffer only. -/
theorem passOver_save_within
    (bounded : call.puiBufSize < 2 ^ 32)
    (segments : List RaSegmentDetails)
    (index : Nat)
    (counted : pass.uiBytesSaved = pass.offset)
    {location : Nat}
    (beyond : call.puiBufSize ≤ location) :
    (passOver call index segments pass).1.buffer location =
      pass.buffer location := by
  induction segments generalizing index pass with
  | nil => rfl
  | cons details rest ih =>
    rw [passOver]
    rcases passSegment_cases hasBuffer index details pass
      with ⟨refused, _⟩ | ⟨fits, step⟩
    · rw [refused]
    · rw [step]
      simp only [saves, if_true]
      rw [wrap32, Nat.mod_eq_of_lt (by omega)]
      rw [ih]
      · show (pass.saveSegment details).buffer location = _
        rw [PassState.saveSegment]
        show copyFrom _ _ _ _ _ location = _
        unfold RaSegmentDetails.bytes at fits
        rw [copyFrom_outside (by omega), writeLE_outside (by omega)]
      · show pass.uiBytesSaved + (4 + details.uiSize) =
          pass.offset + 4 + details.uiSize
        omega

/-- A save pass that succeeds has written all bytes. -/
theorem passOver_save_offset
    (segments : List RaSegmentDetails)
    (index : Nat)
    (pass : PassState)
    (succeeds : (passOver call index segments pass).2 = .ok) :
    (passOver call index segments pass).1.offset =
      pass.offset + bytesOf segments := by
  induction segments generalizing index pass with
  | nil => rfl
  | cons details rest ih =>
    rw [passOver] at succeeds ⊢
    rcases passSegment_cases hasBuffer index details pass
      with ⟨refused, _⟩ | ⟨_, step⟩
    · rw [refused] at succeeds
      cases succeeds
    · rw [step] at succeeds ⊢
      simp only [saves, if_true] at succeeds ⊢
      rw [ih _ _ succeeds, bytesOf_cons, RaSegmentDetails.bytes]
      show pass.offset + 4 + details.uiSize + _ = _
      omega

/-- The save pass succeeds when all segments fit and are mapped; they are then
in the buffer. -/
theorem passOver_save
    (bounded : call.puiBufSize < 2 ^ 32)
    (mapped : ∀ index, call.mapped index = true)
    (segments : List RaSegmentDetails)
    (sizes : ∀ details ∈ segments, details.uiSize < 2 ^ 32)
    (index : Nat)
    (pass : PassState)
    (counted : pass.uiBytesSaved = pass.offset)
    (fits : pass.offset + bytesOf segments ≤ call.puiBufSize) :
    let result := passOver call index segments pass
    result.2 = .ok ∧ Saved result.1.buffer pass.memory pass.offset segments ∧
      ∀ location < pass.offset,
        result.1.buffer location = pass.buffer location := by
  induction segments generalizing index pass with
  | nil => exact ⟨rfl, trivial, fun _ _ => rfl⟩
  | cons details rest ih =>
    obtain ⟨sizeBounded, restSizes⟩ := List.forall_mem_cons.mp sizes
    obtain ⟨size, bytes, others⟩ := saveSegment_saved pass sizeBounded
    rw [bytesOf_cons] at fits
    rw [passOver]
    rcases passSegment_cases hasBuffer index details pass
      with ⟨_, full | unmapped⟩ | ⟨room, step⟩
    · omega
    · rw [mapped] at unmapped
      cases unmapped
    · rw [step]
      simp only [saves, if_true]
      rw [wrap32, Nat.mod_eq_of_lt (by omega)]
      have nextOffset : (pass.saveSegment details).offset =
          pass.offset + details.bytes := by
        show pass.offset + 4 + details.uiSize = _
        rw [RaSegmentDetails.bytes]
        omega
      obtain ⟨succeeds, restSaved, before⟩ := ih restSizes (index + 1)
        { pass.saveSegment details with
          uiBytesSaved := pass.uiBytesSaved + details.bytes }
        (by rw [nextOffset, counted]) (by rw [nextOffset]; omega)
      rw [nextOffset] at restSaved before
      have isBytes : details.bytes = 4 + details.uiSize := rfl
      refine ⟨succeeds, ⟨?_, fun i below => ?_, restSaved⟩,
        fun location below => ?_⟩
      · rw [← size]
        exact readLE_congr fun i below => before _ (by omega)
      · rw [← bytes i below]
        exact before _ (by omega)
      · exact (before location (by omega)).trans
          (others location (.inl below))

end

/-! ## What is restored -/

/-- A location is a byte of one of the segments. -/
def InSegments
    (segments : List RaSegmentDetails)
    (location : Nat) :
    Prop :=
  ∃ details ∈ segments, details.sCpuPhyAddr ≤ location ∧
    location < details.sCpuPhyAddr + details.uiSize

/-- The restore pass brings back the bytes that are saved in the buffer, and
leaves the other bytes of the memory alone. -/
theorem passOver_restore
    (hasBuffer : call.pbyBuffer = some buffer)
    (restores : call.bSave = false)
    (bounded : call.puiBufSize < 2 ^ 32)
    (mapped : ∀ index, call.mapped index = true)
    (segments : List RaSegmentDetails)
    (index : Nat)
    (pass : PassState)
    (counted : pass.uiBytesSaved = pass.offset)
    (fits : pass.offset + bytesOf segments ≤ call.puiBufSize)
    {original : Memory}
    (saved : Saved pass.buffer original pass.offset segments) :
    let result := passOver call index segments pass
    result.2 = .ok ∧
      (∀ location, InSegments segments location →
        result.1.memory location = original location) ∧
      ∀ location, ¬ InSegments segments location →
        result.1.memory location = pass.memory location := by
  induction segments generalizing index pass with
  | nil =>
    refine ⟨rfl, ?_, fun _ _ => rfl⟩
    rintro location ⟨_, member, _⟩
    cases member
  | cons details rest ih =>
    obtain ⟨size, bytes, restSaved⟩ := saved
    rw [bytesOf_cons] at fits
    rw [passOver]
    rcases passSegment_cases hasBuffer index details pass
      with ⟨_, full | unmapped⟩ | ⟨room, step⟩
    · omega
    · rw [mapped] at unmapped
      cases unmapped
    · rw [step]
      simp only [restores, Bool.false_eq_true, if_false]
      rw [wrap32, Nat.mod_eq_of_lt (by omega), PassState.restoreSegment,
        if_neg (not_not_intro size)]
      have nextOffset : pass.offset + 4 + details.uiSize =
          pass.offset + details.bytes := by
        rw [RaSegmentDetails.bytes]
        omega
      rw [nextOffset]
      obtain ⟨succeeds, inside, outside⟩ := ih (index + 1)
        { pass with
          memory := copyFrom pass.memory pass.buffer details.sCpuPhyAddr
            (pass.offset + 4) details.uiSize
          offset := pass.offset + details.bytes
          uiBytesSaved := pass.uiBytesSaved + details.bytes }
        (by rw [counted])
        (by
          show pass.offset + details.bytes + bytesOf rest ≤ _
          omega)
        restSaved
      refine ⟨succeeds, fun location inSegments => ?_,
        fun location notIn => ?_⟩
      · by_cases inRest : InSegments rest location
        · exact inside location inRest
        · rw [outside location inRest]
          obtain ⟨other, member, atLeast, below⟩ := inSegments
          rcases List.mem_cons.mp member with rfl | inRestList
          · obtain ⟨i, rfl⟩ := Nat.exists_eq_add_of_le atLeast
            have within : i < other.uiSize := by omega
            show copyFrom _ _ _ _ _ _ = _
            rw [copyFrom_inside _ _ _ _ within, bytes i within]
          · exact absurd ⟨other, inRestList, atLeast, below⟩ inRest
      · rw [outside location fun inRest => notIn
          (inRest.imp fun _ => And.imp_left (List.mem_cons_of_mem _))]
        have outsideFirst : location < details.sCpuPhyAddr ∨
            details.sCpuPhyAddr + details.uiSize ≤ location := by
          by_contra within
          exact notIn ⟨details, List.mem_cons_self, by omega, by omega⟩
        exact copyFrom_outside outsideFirst

/-! ## Correctness -/

/-- A call returns. -/
def Returns
    (arena : RaArena)
    (call : SaveRestoreCall)
    (result : SaveRestoreResult) :
    Prop :=
  ∃ fuel, pvrsrvSaveRestoreLiveSegments (some arena) call fuel = some result

/-- A location is a byte of a live segment. -/
def RaArena.LiveByte (arena : RaArena) (location : Nat) : Prop :=
  ∃ tag ∈ liveTags arena.tags, tag.base ≤ location ∧
    location < tag.base + tag.uSize

/-- What a restore pass over a saved buffer does. -/
def Restores
    (arena : RaArena)
    (original buffer : Memory)
    (size : Nat) :
    Prop :=
  ∀ (mapped : Nat → Bool) (memory : Memory), (∀ index, mapped index = true) →
    ∃ result, Returns arena ⟨some buffer, size, false, mapped, memory⟩ result ∧
      result.eError = .ok ∧
      (∀ location, arena.LiveByte location →
        result.pass.memory location = original location) ∧
      ∀ location, ¬ arena.LiveByte location →
        result.pass.memory location = memory location

/-- What saving and restoring are for: the iteration visits each live segment
once, in the order of the addresses, and ends; the first pass tells how many
bytes a save pass writes, which never writes beyond them; and restoring brings
the bytes of the live segments back. -/
structure LiveSegmentsSaved (arena : RaArena) : Prop where
  visited : ∃ fuel details,
    visitLiveSegments arena fuel .start = some details ∧
      details.map extent =
        (liveTags arena.tags).map fun tag => (tag.base, tag.uSize)
  ordered : (liveTags arena.tags).Pairwise fun first second =>
    first.base + first.uSize ≤ second.base
  passes : ∃ size,
    (∀ puiBufSize bSave mapped memory, ∃ result,
      Returns arena ⟨none, puiBufSize, bSave, mapped, memory⟩ result ∧
        result.eError = .ok ∧ result.puiBufSize = size) ∧
    ∀ buffer mapped memory, ∃ result,
      Returns arena ⟨some buffer, size, true, mapped, memory⟩ result ∧
        (∀ location, size ≤ location →
          result.pass.buffer location = buffer location) ∧
        ((∀ index, mapped index = true) →
          result.eError = .ok ∧ result.pass.offset = size ∧
            Restores arena memory result.pass.buffer size)

/-- The bytes that the live segments need. -/
def RaArena.liveBytes (arena : RaArena) : Nat :=
  ((liveTags arena.tags).map fun tag => 4 + tag.uSize).sum

/-- Live segments lie apart, in the order of their addresses. -/
theorem Consistent.liveTags_ordered
    (consistent : Consistent arena) :
    (liveTags arena.tags).Pairwise fun first second =>
      first.base + first.uSize ≤ second.base := by
  refine (consistent.disjoint.filter _).imp_of_mem ?_
  intro first second isFirst isSecond disjoint
  have firstLive := (mem_liveTags.mp isFirst).2
  have secondLive := (mem_liveTags.mp isSecond).2
  exact disjoint (by rw [firstLive]; simp) (by rw [secondLive]; simp)

/-- What the list of the segments visited says about the live segments. -/
theorem visited_liveTags
    (extents : visited.map extent =
      (liveTags arena.tags).map fun tag => (tag.base, tag.uSize)) :
    bytesOf visited = arena.liveBytes ∧
      ∀ location, InSegments visited location ↔ arena.LiveByte location := by
  constructor
  · have bytes := congrArg (fun pairs : List (Nat × Nat) =>
      (pairs.map fun pair => 4 + pair.2).sum) extents
    simp only [List.map_map] at bytes
    exact bytes
  · intro location
    have members : ∀ base size,
        (base, size) ∈ visited.map extent ↔
          (base, size) ∈
            (liveTags arena.tags).map fun tag => (tag.base, tag.uSize) := by
      intro base size
      rw [extents]
    constructor
    · rintro ⟨details, member, within⟩
      obtain ⟨tag, isTag, same⟩ := List.mem_map.mp
        ((members _ _).mp (List.mem_map_of_mem member))
      obtain ⟨sameBase, sameSize⟩ := Prod.mk.inj same
      exact ⟨tag, isTag, by rw [sameBase, sameSize]; exact within⟩
    · rintro ⟨tag, member, within⟩
      obtain ⟨details, isDetails, same⟩ := List.mem_map.mp
        ((members _ _).mpr (List.mem_map_of_mem
          (f := fun tag : Bt => (tag.base, tag.uSize)) member))
      obtain ⟨sameBase, sameSize⟩ := Prod.mk.inj same
      exact ⟨details, isDetails, by rw [sameBase, sameSize]; exact within⟩

/-- A call over an arena whose segments can be visited returns what the pass
over them leaves. -/
theorem returns_passOver
    (ends : visitLiveSegments arena fuel .start = some visited)
    (call : SaveRestoreCall) :
    Returns arena call
      { pass := (passOver call 0 visited call.startPass).1
        eError := (passOver call 0 visited call.startPass).2
        puiBufSize :=
          if (passOver call 0 visited call.startPass).2 = .ok ∧
            call.pbyBuffer.isNone then
              (passOver call 0 visited call.startPass).1.uiBytesSaved
          else call.puiBufSize } := by
  refine ⟨fuel, ?_⟩
  rw [pvrsrvSaveRestoreLiveSegments, saveRestoreLoop_eq call ends]
  rfl

/-- The loop leaves nothing else than the pass over the segments. -/
theorem saveRestoreLoop_unique
    {visitFuel : Nat}
    (ends : visitLiveSegments arena visitFuel sSegDetails = some visited)
    {index : Nat}
    {result : PassState × SaveRestoreError}
    (returned :
      saveRestoreLoop arena call fuel index sSegDetails pass = some result) :
    result = passOver call index visited pass := by
  induction fuel generalizing visitFuel sSegDetails visited index pass with
  | zero => cases returned
  | succ fuel ih =>
    cases visitFuel with
    | zero => cases ends
    | succ visitFuel =>
      rw [visitLiveSegments] at ends
      rw [saveRestoreLoop] at returned
      split at ends
      · cases ends
      · next isNone =>
        cases ends
        simp only [isNone] at returned
        exact (Option.some.inj returned).symm
      · next next isNext =>
        obtain ⟨rest, restEnds, rfl⟩ := Option.map_eq_some_iff.mp ends
        simp only [isNext] at returned
        rw [passOver]
        split at returned
        · exact ih restEnds returned
        · exact (Option.some.inj returned).symm

/-- A call that returns leaves what the pass over the segments leaves. -/
theorem Returns.passOver
    (ends : visitLiveSegments arena fuel .start = some visited)
    {result : SaveRestoreResult}
    (returned : Returns arena call result) :
    (result.pass, result.eError) =
        Arena.passOver call 0 visited call.startPass ∧
      (result.eError = .ok → call.pbyBuffer = none →
        result.puiBufSize = result.pass.uiBytesSaved) := by
  obtain ⟨_, returned⟩ := returned
  obtain ⟨⟨pass, eError⟩, loop, rfl⟩ := Option.map_eq_some_iff.mp returned
  refine ⟨saveRestoreLoop_unique ends loop, fun succeeded noBuffer => ?_⟩
  exact if_pos ⟨succeeded, by rw [noBuffer]; rfl⟩

/-- With room for all bytes in 32 bits the passes do what they are for. -/
theorem passes_of_visited
    (ends : visitLiveSegments arena fuel .start = some visited)
    (extents : visited.map extent =
      (liveTags arena.tags).map fun tag => (tag.base, tag.uSize))
    (sizes : ∀ details ∈ visited, details.uiSize < 2 ^ 32)
    (bounded : arena.liveBytes < 2 ^ 32) :
    (∀ puiBufSize bSave mapped memory, ∃ result,
      Returns arena ⟨none, puiBufSize, bSave, mapped, memory⟩ result ∧
        result.eError = .ok ∧ result.puiBufSize = arena.liveBytes) ∧
    ∀ buffer mapped memory, ∃ result,
      Returns arena ⟨some buffer, arena.liveBytes, true, mapped, memory⟩
          result ∧
        (∀ location, arena.liveBytes ≤ location →
          result.pass.buffer location = buffer location) ∧
        ((∀ index, mapped index = true) →
          result.eError = .ok ∧ result.pass.offset = arena.liveBytes ∧
            Restores arena memory result.pass.buffer arena.liveBytes) := by
  obtain ⟨isBytes, isByte⟩ := visited_liveTags extents
  constructor
  · intro puiBufSize bSave mapped memory
    refine ⟨_, returns_passOver ends _, ?_⟩
    rw [passOver_count rfl visited 0 (by decide : 0 < 2 ^ 32)]
    refine ⟨rfl, ?_⟩
    show wrap32 (0 + bytesOf visited) = _
    rw [isBytes, wrap32, Nat.zero_add, Nat.mod_eq_of_lt bounded]
  · intro buffer mapped memory
    refine ⟨_, returns_passOver ends _, fun location beyond =>
      passOver_save_within rfl rfl bounded visited 0 rfl beyond,
      fun allMapped => ?_⟩
    have fits : 0 + bytesOf visited ≤ arena.liveBytes := by
      rw [isBytes, Nat.zero_add]
    let saveCall : SaveRestoreCall :=
      ⟨some buffer, arena.liveBytes, true, mapped, memory⟩
    have hasBuffer : saveCall.pbyBuffer = some buffer := rfl
    obtain ⟨succeeds, saved, _⟩ := passOver_save hasBuffer rfl bounded
      allMapped visited sizes 0 ⟨0, 0, buffer, memory⟩ rfl fits
    refine ⟨succeeds, ?_, ?_⟩
    · have written := passOver_save_offset rfl rfl visited 0 _ succeeds
      rw [isBytes, Nat.zero_add] at written
      exact written
    · intro mappedLater later allMappedLater
      let contents :=
        (passOver saveCall 0 visited ⟨0, 0, buffer, memory⟩).1.buffer
      let restoreCall : SaveRestoreCall :=
        ⟨some contents, arena.liveBytes, false, mappedLater, later⟩
      have hasContents : restoreCall.pbyBuffer = some contents := rfl
      obtain ⟨restored, inside, outside⟩ := passOver_restore hasContents rfl
        bounded allMappedLater visited 0 ⟨0, 0, contents, later⟩ rfl fits saved
      exact ⟨_, returns_passOver ends _, restored,
        fun location isLive => inside location ((isByte location).mpr isLive),
        fun location notLive => outside location fun inSegments =>
          notLive ((isByte location).mp inSegments)⟩

/-- Saving and restoring live segments works if and only if the list does not
end with a live segment and the bytes can be counted in 32 bits. -/
theorem liveSegmentsSaved_iff
    {arena : RaArena}
    (invariant : Invariant arena) :
    LiveSegmentsSaved arena ↔
      arena.TailNotLive ∧ arena.liveBytes < 2 ^ 32 := by
  have consistent := invariant.consistent
  obtain ⟨spans, sound⟩ := invariant
  have bounded := sound.filed.length_le
  constructor
  · rintro ⟨⟨fuel, visited, ends, extents⟩, -, ⟨size, counts, saves⟩⟩
    constructor
    · intro tag isTail isLive
      rw [RaArena.tags, List.getLast?_map] at isTail
      obtain ⟨last, isLast, rfl⟩ := Option.map_eq_some_iff.mp isTail
      have nonempty : arena.segments.list ≠ [] := by
        intro isEmpty
        rw [isEmpty] at isLast
        cases isLast
      have never := consistent.visit_forever bounded isLast isLive []
        rfl nonempty (standsAt_start arena) fuel
      rw [never] at ends
      cases ends
    · -- the bytes written are all bytes, those counted are below 2 ^ 32
      obtain ⟨counted, countReturns, countOk, isSize⟩ :=
        counts 0 true (fun _ => true) fun _ => 0
      obtain ⟨countPass, counter⟩ := countReturns.passOver ends
      rw [passOver_count rfl visited 0 (by decide : 0 < 2 ^ 32)] at countPass
      obtain ⟨saved, saveReturns, _, whenMapped⟩ :=
        saves (fun _ => 0) (fun _ => true) fun _ => 0
      obtain ⟨saveOk, written, _⟩ := whenMapped fun _ => rfl
      obtain ⟨savePass, _⟩ := saveReturns.passOver ends
      obtain ⟨isPass, isError⟩ := Prod.mk.inj savePass
      have offset := passOver_save_offset rfl rfl visited 0 _
        (isError ▸ saveOk)
      have wrapped : size = wrap32 (0 + bytesOf visited) := by
        rw [← isSize, counter countOk rfl, (Prod.mk.inj countPass).1]
        rfl
      rw [← isPass, written, wrapped, (visited_liveTags extents).1] at offset
      have all : wrap32 (0 + arena.liveBytes) = 0 + arena.liveBytes := offset
      rw [wrap32, Nat.zero_add] at all
      rw [← all]
      exact Nat.mod_lt _ (by decide)
  · rintro ⟨tailNotLive, fits⟩
    obtain ⟨visited, ends, extents⟩ := consistent.visit bounded tailNotLive
      [] start rfl (standsAt_start arena)
      (Nat.lt_succ_self arena.segments.list.length)
    have layout : Layout arena.tags spans := sound.layout
    refine ⟨⟨_, visited, ends, extents⟩, consistent.liveTags_ordered,
      ⟨_, passes_of_visited ends extents ?_ fits⟩⟩
    intro details member
    have inTags := List.mem_map_of_mem (f := extent) member
    rw [extents] at inTags
    obtain ⟨tag, isLive, same⟩ := List.mem_map.mp inTags
    obtain ⟨isTag, isLive⟩ := mem_liveTags.mp isLive
    obtain ⟨_, small, _⟩ := layout.segment_bounds isTag (by rw [isLive]; simp)
    rw [(Prod.mk.inj same).2] at small
    exact small

/-- The first page of three is saved and restored. -/
theorem liveSegmentsSaved_iff_firstPage :
    LiveSegmentsSaved firstPagedArena :=
  (liveSegmentsSaved_iff firstPagedArena_invariant).mpr ⟨by decide, by decide⟩

/-- The arena of three pages after they have been allocated as one block. -/
def wholePagedArena : RaArena :=
  ((pagedArena.raAlloc { pageRequest with uSize := 0x3000 } twoPages).map
    Prod.fst).getD pagedArena

/-- The only segment is live, and the iteration does not end. -/
theorem liveSegmentsSaved_wholePaged :
    wholePagedArena.tags = [⟨.live, 0x10000, 0x3000, none⟩] ∧
      (∀ fuel, visitLiveSegments wholePagedArena fuel .start = none) ∧
      ¬ LiveSegmentsSaved wholePagedArena := by
  have again : ∀ fuel psSegDetails,
      psSegDetails.hSegment = .null →
      visitLiveSegments wholePagedArena fuel psSegDetails = none := by
    intro fuel
    induction fuel with
    | zero => intro _ _; rfl
    | succ fuel ih =>
      rintro ⟨uiSize, sCpuPhyAddr, hSegment⟩ rfl
      have step : raGetNextLiveSegment wholePagedArena
          ⟨uiSize, sCpuPhyAddr, .null⟩ =
            some (⟨0x3000, 0x10000, .null⟩, true) := rfl
      rw [visitLiveSegments, step]
      simp only [ih ⟨0x3000, 0x10000, .null⟩ rfl, Option.map_none]
  refine ⟨rfl, fun fuel => again fuel _ rfl, ?_⟩
  rintro ⟨⟨fuel, _, ends, _⟩, _, _⟩
  rw [again fuel _ rfl] at ends
  cases ends

end PvrServices.Arena
