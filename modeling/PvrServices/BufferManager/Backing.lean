import PvrServices.BufferManager.WrapCache
import PvrServices.Lib.Ledger

/-!
# What buffers are made of

A buffer holds its memory areas, its segment or its mapping, and itself, from
the call that makes it to the call that gives up its last reference or export.
A buffer that is no segment holds its device range until its last reference is
freed.
-/

namespace PvrServices.BufferManager

open Function (update_of_ne update_self)
open Option (bind_eq_bind bind_some isSome_iff_exists some_ne_none)
open List (append_assoc append_nil cons_append count_append count_cons
  count_nil count_pos_iff mem_append mem_cons mem_singleton nil_append
  not_mem_nil)

/-- What a buffer holds as long as it exists. -/
def ownBacking (pBuf : Address) (buf : BmBuf) (mapping : BmMapping) :
    List Resource :=
  (if buf.hOSMemHandle ≠ mapping.hOSMemHandle then [.area buf.hOSMemHandle]
    else []) ++
  (match mapping.pArena with
    | none => [.area mapping.hOSMemHandle, .mapping buf.pMapping]
    | some pArena => [.segment pArena buf.devVAddr]) ++
  [.buf pBuf]

/-- What a buffer of no arena holds as long as it is referenced. -/
def rangeBacking (buf : BmBuf) (mapping : BmMapping) : List Resource :=
  if mapping.pArena = none ∧ buf.ui32RefCount ≠ 0 then
    [.deviceRange mapping.devVAddr]
  else []

/-- Both counters of the buffer are 0. -/
def BmBuf.Idle (buf : BmBuf) : Prop :=
  buf.ui32ExportCount = 0 ∧ buf.ui32RefCount = 0

instance (buf : BmBuf) : Decidable buf.Idle :=
  inferInstanceAs (Decidable (_ ∧ _))

/-- The areas of the buffer are not mapped by a process. -/
def Removable
    (pBuf : Address) (buf : BmBuf) (mapping : BmMapping)
    (removes : Address → Bool) :
    Prop :=
  ∀ hOSMemHandle, .area hOSMemHandle ∈ ownBacking pBuf buf mapping →
    removes hOSMemHandle = true

namespace BmState

variable {state after : BmState} {pBuf hBuf hOSMemHandle : Address}
  {buf : BmBuf} {mapping : BmMapping} {removes : Address → Bool}
  {heap : BmHeap} {areas : List Resource}
  {uFlags ui32Flags ui32Offset uSize : BitVec 32} {answers : AllocAnswers}
  {pui32Flags psDevVAddr : Option (BitVec 32)} {bPhysContig pvCPUVAddr : Bool}
  {sysAddr : BitVec 64} {answer : SegmentAnswer}

/-! ## What is to hold -/

/-- What a buffer holds. -/
def held (state : BmState) (pBuf : Address) : List Resource :=
  match state.bufs pBuf with
  | none => []
  | some buf =>
    match state.mappings buf.pMapping with
    | none => []
    | some mapping => rangeBacking buf mapping ++ ownBacking pBuf buf mapping

/-- Counters count, buffers exist while one of them is positive, and what was
acquired and not released is what they hold. -/
structure Good (state : BmState) : Prop where
  counted : ∀ pBuf buf, state.bufs pBuf = some buf →
    buf.ui32RefCount = state.allocations.count pBuf ∧
      buf.ui32ExportCount = state.exports.count pBuf
  alive : ∀ pBuf, (state.bufs pBuf).isSome = true ↔
    pBuf ∈ state.allocations ∨ pBuf ∈ state.exports
  mapped : ∀ pBuf buf, state.bufs pBuf = some buf →
    (state.mappings buf.pMapping).isSome = true
  ledger : Ledger.Balanced state.acquired state.released state.held

/-- No call of the run touches freed memory, and each leaves a good state. -/
def GoodRun : BmState → List BmOp → Prop
  | state, [] => state.Good
  | state, op :: ops =>
    state.Good ∧ ∃ after, state.step op = some after ∧ after.GoodRun ops

/-! ## When it holds -/

/-- An allocation is RAM backed, and completed once it has got a segment.
One that is not RAM backed fails before it has got anything. -/
def AllocClear
    (state : BmState) (heap : BmHeap) (psDevVAddr : Option (BitVec 32))
    (uSize uFlags : BitVec 32) (answers : AllocAnswers) :
    Prop :=
  answers.pBuf.isSome = true →
    if uFlags &&& pvrsrvMemRamBackedAllocation ≠ 0 then
      AsksSegment heap uFlags → ∀ answer mapping,
        answers.segment = some answer →
        (state.raAlloc heap.pImportArena answer).mappings answer.psMapping =
          some mapping →
        Settles mapping uSize uFlags answers
    else
      answers.pMapping = none ∧ answers.mmuAlloc = none ∨
        uFlags &&& pvrsrvMemUserSuppliedDevvaddr ≠ 0 ∧ psDevVAddr = none

/-- A wrap finds its buffer in the hash table. -/
def WrapHits
    (state : BmState) (ui32Size ui32Offset : BitVec 32)
    (sysAddr : BitVec 64) :
    Prop :=
  ∃ pBuf buf mapping,
    state.pBufferHash.lookup (sysAddr + ui32Offset.setWidth 64) = some pBuf ∧
      state.bufs pBuf = some buf ∧
      state.mappings buf.pMapping = some mapping ∧
      mapping.uSize = hostPagealign (ui32Size + ui32Offset) ∧
      mapping.eCpuMemoryOrigin.isCached = true

/-- A wrap that makes a buffer gets its area if it has an address of the CPU,
and is completed once it has got a device range. -/
def WrapClear
    (state : BmState) (ui32Size ui32Offset : BitVec 32)
    (sysAddr : BitVec 64) (pvCPUVAddr : Bool) (answers : WrapAnswers) :
    Prop :=
  state.WrapHits ui32Size ui32Offset sysAddr ∨
    (answers.pBuf.isSome = true →
      (answers.pMapping.isSome = true → pvCPUVAddr = true →
        answers.hOSMemHandle.isSome = true) ∧
      WrapSettles ui32Offset answers)

/-- A call that gives up the last reference or export of a buffer finds its
areas removable, and the calls that make buffers are completed. -/
def Clear (state : BmState) : BmOp → Prop
  | .alloc heap psDevVAddr uSize uFlags answers =>
    state.AllocClear heap psDevVAddr uSize uFlags answers
  | .wrap _ ui32Size ui32Offset _ sysAddr pvCPUVAddr _ answers =>
    state.WrapClear ui32Size ui32Offset sysAddr pvCPUVAddr answers
  | .export _ => True
  | .freeExport hBuf _ removes => ∀ buf mapping,
      state.bufs hBuf = some buf →
      state.mappings buf.pMapping = some mapping →
      buf.ui32ExportCount = 1 ∧ buf.ui32RefCount = 0 →
      Removable hBuf buf mapping removes
  | .free hBuf _ removes => ∀ buf mapping,
      state.bufs hBuf = some buf →
      state.mappings buf.pMapping = some mapping →
      buf.ui32ExportCount = 0 ∧ buf.ui32RefCount = 1 →
      Removable hBuf buf mapping removes

/-- All calls of the run are clear. -/
def ClearRun : BmState → List BmOp → Prop
  | _, [] => True
  | state, op :: ops =>
    state.Clear op ∧ ∀ after, state.step op = some after →
      after.ClearRun ops

/-! ## What buffers hold -/

theorem held_some
    (isBuf : state.bufs pBuf = some buf)
    (isMapping : state.mappings buf.pMapping = some mapping) :
    state.held pBuf =
      rangeBacking buf mapping ++ ownBacking pBuf buf mapping := by
  unfold held
  simp only [isBuf, isMapping]

theorem held_none
    (isNone : state.bufs pBuf = none) :
    state.held pBuf = [] := by
  unfold held
  simp only [isNone]

/-- A buffer holds itself only, its own segment, and its own mapping. -/
theorem mem_held
    {item : Resource}
    (member : item ∈ state.held pBuf) :
    ∃ buf mapping, state.bufs pBuf = some buf ∧
      state.mappings buf.pMapping = some mapping ∧
      match item with
      | .segment pArena base =>
        mapping.pArena = some pArena ∧ buf.devVAddr = base
      | .mapping pMapping => buf.pMapping = pMapping
      | .buf other => other = pBuf
      | _ => True := by
  unfold held at member
  cases isBuf : state.bufs pBuf with
  | none =>
    simp only [isBuf] at member
    exact absurd member not_mem_nil
  | some buf =>
    cases isMapping : state.mappings buf.pMapping with
    | none =>
      simp only [isBuf, isMapping] at member
      exact absurd member not_mem_nil
    | some mapping =>
      simp only [isBuf, isMapping] at member
      refine ⟨buf, mapping, rfl, isMapping, ?_⟩
      unfold rangeBacking ownBacking at member
      cases isArena : mapping.pArena <;>
        simp only [isArena, mem_append] at member <;>
        split_ifs at member <;> cases item <;> simp_all

/-- The buffers that a call leaves alone hold what they held. -/
theorem held_congr
    (bufs : after.bufs pBuf = state.bufs pBuf)
    (mappings : ∀ buf, state.bufs pBuf = some buf →
      after.mappings buf.pMapping = state.mappings buf.pMapping) :
    after.held pBuf = state.held pBuf := by
  unfold held
  rw [bufs]
  cases isBuf : state.bufs pBuf with
  | none => rfl
  | some buf => simp only [mappings buf isBuf]

/-! ## Freeing -/

/-- What a call of `FreeBuf` gives back. -/
def freedBacking
    (pBuf : Address) (buf : BmBuf) (mapping : BmMapping)
    (bFromAllocator : Bool) :
    List Resource :=
  (if mapping.pArena = none ∧ bFromAllocator = true then
      [.deviceRange mapping.devVAddr]
    else []) ++
  if buf.Idle then ownBacking pBuf buf mapping else []

/-- What `FreeBuf` does to a buffer whose areas are removable. -/
structure Frees
    (state after : BmState) (pBuf : Address) (buf : BmBuf)
    (mapping : BmMapping) (bFromAllocator : Bool) :
    Prop where
  released : ∃ items,
    items.Perm (freedBacking pBuf buf mapping bFromAllocator) ∧
      after.released = items ++ state.released
  acquired : after.acquired = state.acquired
  bufs : after.bufs =
    if buf.Idle then Function.update state.bufs pBuf none else state.bufs
  mappings : ∀ pMapping,
    after.mappings pMapping = state.mappings pMapping ∨
      buf.Idle ∧ after.mappings pMapping = none
  flags : after.handedFlags = state.handedFlags

/-- What `FreeBuf` gives back of a wrapped buffer. -/
theorem plainReleases_idle
    (isArena : mapping.pArena = none)
    (isWrapped : mapping.eCpuMemoryOrigin.isWrapped = true)
    (idle : buf.Idle)
    (bFromAllocator : Bool)
    (clear : Removable pBuf buf mapping removes) :
    (plainReleases pBuf buf mapping bFromAllocator removes).Perm
      (freedBacking pBuf buf mapping bFromAllocator) := by
  have ofMapping : removes mapping.hOSMemHandle = true := by
    apply clear
    simp [ownBacking, isArena]
  have ofBuf : buf.hOSMemHandle ≠ mapping.hOSMemHandle →
      removes buf.hOSMemHandle = true := by
    intro different
    apply clear
    simp [ownBacking, different]
  have areas : (buf.hOSMemHandle ≠ mapping.hOSMemHandle ∧
      removes buf.hOSMemHandle = true) ↔
        buf.hOSMemHandle ≠ mapping.hOSMemHandle :=
    ⟨And.left, fun different => ⟨different, ofBuf different⟩⟩
  unfold plainReleases freedBacking ownBacking
  simp only [isArena, isWrapped, idle, ofMapping, areas, true_and, and_self,
    if_true]
  refine List.perm_iff_count.mpr fun item => ?_
  simp only [count_append, count_cons, count_nil]
  omega

/-- `FreeBuf` gives back what is due. -/
theorem freeBuf_frees
    {pBuf : Address}
    {buf : BmBuf}
    {mapping : BmMapping}
    {ui32Flags : BitVec 32}
    {removes : Address → Bool}
    (segmented : Segmented state.segments state.mappings)
    (isBuf : state.bufs pBuf = some buf)
    (isMapping : state.mappings buf.pMapping = some mapping)
    (placed : state.Placed buf mapping)
    (user : ui32Flags &&& pvrsrvMemUserSuppliedDevvaddr = 0)
    (plain : ui32Flags &&& pvrsrvMemRamBackedAllocation = 0 ↔
      mapping.pArena = none)
    (isWrapped : mapping.pArena = none →
      mapping.eCpuMemoryOrigin.isWrapped = true)
    (bFromAllocator : Bool)
    (clear : buf.Idle → Removable pBuf buf mapping removes) :
    ∃ after, state.freeBuf pBuf ui32Flags bFromAllocator removes =
        some after ∧
      Frees state after pBuf buf mapping bFromAllocator := by
  cases isArena : mapping.pArena with
  | none =>
    rw [freeBuf_plain isBuf isMapping user (plain.mpr isArena)]
    refine ⟨_, rfl, ?_⟩
    by_cases idle : buf.Idle
    · rw [if_pos (show buf.ui32ExportCount = 0 ∧ buf.ui32RefCount = 0 from
        idle)]
      refine ⟨⟨_, plainReleases_idle isArena (isWrapped isArena) idle
        bFromAllocator (clear idle), rfl⟩, rfl, (if_pos idle).symm, ?_, rfl⟩
      intro pMapping
      by_cases same : pMapping = buf.pMapping
      · rw [same]
        exact Or.inr ⟨idle, update_self _ _ _⟩
      · exact Or.inl (update_of_ne same _ _)
    · rw [if_neg (show ¬ (buf.ui32ExportCount = 0 ∧ buf.ui32RefCount = 0)
        from idle)]
      cases bFromAllocator with
      | true =>
        refine ⟨⟨[.deviceRange mapping.devVAddr], ?_, rfl⟩, rfl,
          (if_neg idle).symm, fun _ => Or.inl rfl, rfl⟩
        unfold freedBacking
        rw [if_pos ⟨isArena, rfl⟩, if_neg idle, append_nil]
      | false =>
        refine ⟨⟨[], ?_, rfl⟩, rfl, (if_neg idle).symm,
          fun _ => Or.inl rfl, rfl⟩
        unfold freedBacking
        rw [if_neg (by simp), if_neg idle, append_nil]
  | some pArena =>
    have ramBacked : ui32Flags &&& pvrsrvMemRamBackedAllocation ≠ 0 := by
      rw [Ne, plain, isArena]
      exact some_ne_none pArena
    rw [freeBuf_ramBacked isBuf isMapping user ramBacked]
    refine ⟨_, rfl, ?_⟩
    by_cases idle : buf.Idle
    · rw [if_pos (show buf.ui32ExportCount = 0 ∧ buf.ui32RefCount = 0 from
        idle)]
      unfold Placed at placed
      rw [isArena] at placed
      -- the area of the buffer, if it has one of its own, is in the ledger
      have area : (if buf.hOSMemHandle ≠ mapping.hOSMemHandle then
          state.releaseArea removes buf.hOSMemHandle else state) =
            { state with
              released := (if buf.hOSMemHandle ≠ mapping.hOSMemHandle then
                [.area buf.hOSMemHandle] else []) ++ state.released } := by
        by_cases own : buf.hOSMemHandle ≠ mapping.hOSMemHandle
        · have removes := clear idle buf.hOSMemHandle (by
            simp [ownBacking, own])
          rw [if_pos own, if_pos own, releaseArea, if_pos removes]
          rfl
        · rw [if_neg own, if_neg own]
          rfl
      have freed := @raFree_eq
        { state with
          released := (if buf.hOSMemHandle ≠ mapping.hOSMemHandle then
            [.area buf.hOSMemHandle] else []) ++ state.released }
        _ segmented placed
      simp only at freed
      rw [area, isArena, freed]
      refine ⟨⟨[.buf pBuf, .segment pArena buf.devVAddr] ++
        if buf.hOSMemHandle ≠ mapping.hOSMemHandle then
          [.area buf.hOSMemHandle] else [], ?_, ?_⟩, rfl,
        (if_pos idle).symm, ?_, rfl⟩
      · unfold freedBacking ownBacking
        simp only [isArena, idle, if_true, reduceCtorEq, false_and,
          if_false, nil_append]
        refine List.perm_iff_count.mpr fun item => ?_
        simp only [count_append, count_cons, count_nil]
        omega
      · simp only [freeBuffer, release, cons_append, nil_append]
      · intro pMapping
        simp only [freeBuffer, release]
        split_ifs with shared
        · exact Or.inl rfl
        · by_cases same : pMapping = buf.pMapping
          · rw [same]
            exact Or.inr ⟨idle, update_self _ _ _⟩
          · exact Or.inl (update_of_ne same _ _)
    · rw [if_neg (show ¬ (buf.ui32ExportCount = 0 ∧ buf.ui32RefCount = 0)
        from idle)]
      refine ⟨⟨[], ?_, rfl⟩, rfl, (if_neg idle).symm, fun _ => Or.inl rfl, rfl⟩
      unfold freedBacking
      rw [if_neg (by simp [isArena]), if_neg idle, append_nil]

/-! ## The invariant -/

/-- Buffers have references or exports, the flags handed out with a buffer say
whether it is a segment, and the ledger is balanced. -/
structure Sound (state : BmState) : Prop where
  inv : state.Inv
  kept : ∀ pBuf buf, state.bufs pBuf = some buf → ¬ buf.Idle
  backed : ∀ pBuf buf mapping, state.bufs pBuf = some buf →
    state.mappings buf.pMapping = some mapping →
    state.handedFlags pBuf &&& pvrsrvMemUserSuppliedDevvaddr = 0 ∧
      (state.Plain pBuf ↔ mapping.pArena = none)
  ledger : Ledger.Balanced state.acquired state.released state.held

section

variable (sound : state.Sound)
include sound

theorem Sound.good :
    state.Good where
  counted := sound.inv.counted
  alive := by
    intro pBuf
    refine ⟨fun isSome => ?_, sound.inv.alive pBuf⟩
    obtain ⟨buf, isBuf⟩ := isSome_iff_exists.mp isSome
    obtain ⟨refs, exports⟩ := sound.inv.counted pBuf buf isBuf
    by_contra absent
    obtain ⟨noRefs, noExports⟩ := not_or.mp absent
    refine sound.kept pBuf buf isBuf ⟨?_, ?_⟩
    · rw [exports]
      exact List.count_eq_zero.mpr noExports
    · rw [refs]
      exact List.count_eq_zero.mpr noRefs
  mapped := by
    intro pBuf buf isBuf
    obtain ⟨mapping, isMapping, _⟩ := sound.inv.live pBuf buf isBuf
    rw [isMapping, Option.isSome_some]
  ledger := sound.ledger

/-- Calls that change one buffer. -/
theorem Sound.update
    (inv : after.Inv)
    (bufs : ∀ other, other ≠ pBuf → after.bufs other = state.bufs other)
    (flags : ∀ other, other ≠ pBuf →
      after.handedFlags other = state.handedFlags other)
    (mappings : ∀ other, other ≠ pBuf → ∀ buf, state.bufs other = some buf →
      after.mappings buf.pMapping = state.mappings buf.pMapping)
    (self : ∀ buf mapping, after.bufs pBuf = some buf →
      after.mappings buf.pMapping = some mapping →
      ¬ buf.Idle ∧
        after.handedFlags pBuf &&& pvrsrvMemUserSuppliedDevvaddr = 0 ∧
        (after.Plain pBuf ↔ mapping.pArena = none))
    (ledger : Ledger.Balanced after.acquired after.released after.held) :
    after.Sound where
  inv := inv
  kept := by
    intro other buf isBuf
    by_cases isChanged : other = pBuf
    · rw [isChanged] at isBuf
      obtain ⟨mapping, isMapping, _⟩ := inv.live pBuf buf isBuf
      exact (self buf mapping isBuf isMapping).1
    · rw [bufs other isChanged] at isBuf
      exact sound.kept other buf isBuf
  backed := by
    intro other buf mapping isBuf isMapping
    by_cases isChanged : other = pBuf
    · rw [isChanged] at isBuf ⊢
      exact (self buf mapping isBuf isMapping).2
    · rw [bufs other isChanged] at isBuf
      rw [mappings other isChanged buf isBuf] at isMapping
      rw [Plain, flags other isChanged]
      exact sound.backed other buf mapping isBuf isMapping
  ledger := ledger

/-- A call that gives back what it has got. -/
theorem Sound.pass
    {items back : List Resource}
    (same : items.Perm back) :
    ({ state with
      acquired := items ++ state.acquired
      released := back ++ state.released } : BmState).Sound where
  inv := sound.inv.recorded _ _
  kept := sound.kept
  backed := sound.backed
  ledger := sound.ledger.pass same

/-- A call that hands out a new buffer with what it has got. -/
theorem Sound.handOut
    {pBuf : Address}
    {buf : BmBuf}
    {mapping : BmMapping}
    {flags : BitVec 32}
    {items : List Resource}
    (inv : after.Inv)
    (fresh : state.bufs pBuf = none)
    (bufs : after.bufs = Function.update state.bufs pBuf (some buf))
    (handed : after.handedFlags =
      Function.update state.handedFlags pBuf flags)
    (mappings : ∀ other value, state.bufs other = some value →
      after.mappings value.pMapping = state.mappings value.pMapping)
    (isMapping : after.mappings buf.pMapping = some mapping)
    (busy : ¬ buf.Idle)
    (user : flags &&& pvrsrvMemUserSuppliedDevvaddr = 0)
    (plain : flags &&& pvrsrvMemRamBackedAllocation = 0 ↔
      mapping.pArena = none)
    (acquired : after.acquired = items ++ state.acquired)
    (released : after.released = state.released)
    (backing : (rangeBacking buf mapping ++
      ownBacking pBuf buf mapping).Perm items)
    (distinct : items.Nodup)
    (unused : ∀ item ∈ items, ∀ other, item ∉ state.held other) :
    after.Sound := by
  have isBuf : after.bufs pBuf = some buf := by
    rw [bufs, update_self]
  have others : ∀ other, other ≠ pBuf →
      after.bufs other = state.bufs other := by
    intro other different
    rw [bufs, update_of_ne different]
  refine sound.update inv others ?_ (fun other _ => mappings other) ?_ ?_
  · intro other different
    rw [handed, update_of_ne different]
  · intro value found isValue isFound
    rw [isBuf] at isValue
    cases isValue
    rw [isMapping] at isFound
    cases isFound
    rw [Plain, handed, update_self]
    exact ⟨busy, user, plain⟩
  · rw [acquired, released]
    refine sound.ledger.acquire pBuf distinct unused ?_ ?_
    · exact fun other different =>
        held_congr (others other different) (mappings other)
    · rw [held_none fresh, append_nil, held_some isBuf isMapping]
      exact backing

/-- A call that changes the counters of a buffer, and frees it if they are
0. -/
theorem Sound.freeBuf
    {lowered : BmState}
    {pBuf : Address}
    {buf : BmBuf}
    {mapping : BmMapping}
    {ui32RefCount ui32ExportCount : Nat}
    {ui32Flags : BitVec 32}
    {bFromAllocator : Bool}
    {removes : Address → Bool}
    (isBuf : state.bufs pBuf = some buf)
    (isMapping : state.mappings buf.pMapping = some mapping)
    (bufs : lowered.bufs = Function.update state.bufs pBuf
      (some { buf with ui32RefCount, ui32ExportCount }))
    (mappings : lowered.mappings = state.mappings)
    (segments : lowered.segments = state.segments)
    (handed : lowered.handedFlags = state.handedFlags)
    (acquired : lowered.acquired = state.acquired)
    (released : lowered.released = state.released)
    (gives : state.GivesBack pBuf ui32Flags)
    (range : rangeBacking buf mapping =
      (if mapping.pArena = none ∧ bFromAllocator = true then
          [.deviceRange mapping.devVAddr]
        else []) ++
      if ui32ExportCount = 0 ∧ ui32RefCount = 0 then []
      else rangeBacking { buf with ui32RefCount, ui32ExportCount } mapping)
    (clear : ui32ExportCount = 0 ∧ ui32RefCount = 0 →
      Removable pBuf buf mapping removes) :
    ∃ after, lowered.freeBuf pBuf ui32Flags bFromAllocator removes =
        some after ∧
      (after.Inv → after.Sound) := by
  obtain ⟨found, isFound, placed⟩ := sound.inv.live pBuf buf isBuf
  rw [isMapping] at isFound
  cases isFound
  obtain ⟨user, plain⟩ := sound.backed pBuf buf mapping isBuf isMapping
  have isLowered : lowered.bufs pBuf =
      some { buf with ui32RefCount, ui32ExportCount } := by
    rw [bufs, update_self]
  have isWrapped : mapping.pArena = none →
      mapping.eCpuMemoryOrigin.isWrapped = true := fun isArena =>
    (sound.inv.wrapped pBuf buf mapping isBuf (plain.mpr isArena)
      isMapping).2.2
  have segmented := sound.inv.segmented
  rw [← segments, ← mappings] at segmented
  have stillPlaced : lowered.Placed buf mapping := by
    unfold Placed at placed ⊢
    rw [segments]
    exact placed
  obtain ⟨after, frees, effect⟩ := @freeBuf_frees lowered pBuf
    { buf with ui32RefCount, ui32ExportCount } mapping ui32Flags removes
    segmented isLowered (by rw [mappings]; exact isMapping)
    (stillPlaced.congr rfl rfl) (gives.2.trans user)
    (by rw [gives.1]; exact plain) isWrapped bFromAllocator clear
  refine ⟨after, frees, fun inv => ?_⟩
  have others : ∀ other, other ≠ pBuf →
      after.bufs other = state.bufs other := by
    intro other different
    rw [effect.bufs]
    split_ifs
    · rw [update_of_ne different, bufs, update_of_ne different]
    · rw [bufs, update_of_ne different]
  -- a buffer that is left has a mapping, so that it was not freed
  have stay : ∀ other value, after.bufs other = some value →
      after.mappings value.pMapping = state.mappings value.pMapping := by
    intro other value isValue
    obtain ⟨found, isFound, _⟩ := inv.live other value isValue
    rcases effect.mappings value.pMapping with same | ⟨_, none⟩
    · rw [same, mappings]
    · rw [none] at isFound
      cases isFound
  have otherMappings : ∀ other, other ≠ pBuf → ∀ value,
      state.bufs other = some value →
      after.mappings value.pMapping = state.mappings value.pMapping := by
    intro other different value isValue
    rw [← others other different] at isValue
    exact stay other value isValue
  refine sound.update inv others ?_ otherMappings ?_ ?_
  · intro other _
    rw [effect.flags, handed]
  · intro value found isValue isFound
    have same := stay pBuf value isValue
    rw [effect.bufs] at isValue
    split_ifs at isValue with idle
    · rw [update_self] at isValue
      cases isValue
    · rw [isLowered] at isValue
      cases isValue
      rw [same, isMapping] at isFound
      cases isFound
      rw [Plain, effect.flags, handed]
      exact ⟨idle, user, plain⟩
  · obtain ⟨items, same, isReleased⟩ := effect.released
    rw [effect.acquired, isReleased, acquired, released]
    refine sound.ledger.release pBuf ?_ ?_
    · rw [held_some isBuf isMapping, range]
      by_cases idle : ui32ExportCount = 0 ∧ ui32RefCount = 0
      · have isIdle : BmBuf.Idle { buf with ui32RefCount, ui32ExportCount } :=
          idle
        have gone : after.held pBuf = [] := by
          apply held_none
          rw [effect.bufs, if_pos isIdle, update_self]
        rw [gone, append_nil, if_pos idle, append_nil]
        refine List.Perm.trans ?_ same.symm
        unfold freedBacking
        rw [if_pos isIdle]
        rfl
      · have isBusy :
            ¬ BmBuf.Idle { buf with ui32RefCount, ui32ExportCount } := idle
        have left : after.bufs pBuf =
            some { buf with ui32RefCount, ui32ExportCount } := by
          rw [effect.bufs, if_neg isBusy, isLowered]
        have isLeft := stay pBuf _ left
        rw [isMapping] at isLeft
        rw [held_some left isLeft, if_neg idle, append_assoc]
        refine List.Perm.append ?_ (List.Perm.refl _)
        refine List.Perm.trans ?_ same.symm
        unfold freedBacking
        rw [if_neg isBusy, append_nil]
    · exact fun other different =>
        held_congr (others other different) (otherMappings other different)

end

/-! ## References and exports -/

/-- A call that raises or lowers a counter of a buffer, and leaves one of them
positive. -/
theorem Sound.count
    (sound : state.Sound)
    {ui32RefCount ui32ExportCount : Nat}
    (inv : after.Inv)
    (isBuf : state.bufs pBuf = some buf)
    (bufs : after.bufs = Function.update state.bufs pBuf
      (some { buf with ui32RefCount, ui32ExportCount }))
    (mappings : after.mappings = state.mappings)
    (handed : after.handedFlags = state.handedFlags)
    (acquired : after.acquired = state.acquired)
    (released : after.released = state.released)
    (referenced : ui32RefCount ≠ 0 ↔ buf.ui32RefCount ≠ 0)
    (busy : ¬ (ui32ExportCount = 0 ∧ ui32RefCount = 0)) :
    after.Sound := by
  have isAfter : after.bufs pBuf =
      some { buf with ui32RefCount, ui32ExportCount } := by
    rw [bufs, update_self]
  have others : ∀ other, other ≠ pBuf →
      after.bufs other = state.bufs other := by
    intro other different
    rw [bufs, update_of_ne different]
  refine sound.update inv others (fun _ _ => by rw [handed])
    (fun _ _ _ _ => by rw [mappings]) ?_ ?_
  · intro value mapping isValue isMapping
    rw [isAfter] at isValue
    cases isValue
    rw [mappings] at isMapping
    rw [Plain, handed]
    exact ⟨busy, sound.backed pBuf buf mapping isBuf isMapping⟩
  · rw [acquired, released]
    refine sound.ledger.reorder fun other => ?_
    by_cases isChanged : other = pBuf
    · obtain ⟨mapping, isMapping, _⟩ := sound.inv.live pBuf buf isBuf
      rw [isChanged, held_some isBuf isMapping,
        held_some isAfter (by rw [mappings]; exact isMapping)]
      unfold rangeBacking
      simp only [referenced]
      exact List.Perm.refl _
    · rw [held_congr (others other isChanged) fun _ _ => by rw [mappings]]

theorem Sound.bmExport
    (sound : state.Sound)
    (enabled : state.Enabled (.export hBuf)) :
    ∃ after, state.bmExport hBuf = some after ∧ after.Sound := by
  obtain ⟨buf, isBuf⟩ := isSome_iff_exists.mp (sound.inv.alive hBuf enabled.1)
  have small := (sound.inv.counters_lt isBuf).2
  have few := enabled.2
  have exports : state.bmExport hBuf = some
      { state.setBuf hBuf
          { buf with ui32ExportCount := (buf.ui32ExportCount + 1) % 2 ^ 32 }
        with exports := hBuf :: state.exports } := by
    unfold BmState.bmExport
    simp only [isBuf, bind_eq_bind, bind_some]
  refine ⟨_, exports, ?_⟩
  refine sound.count (sound.inv.bmExport few exports) isBuf rfl rfl rfl rfl
    rfl Iff.rfl ?_
  rintro ⟨none, _⟩
  rw [Nat.mod_eq_of_lt (by omega)] at none
  omega

theorem Sound.bmFreeExport
    (sound : state.Sound)
    (enabled : state.Enabled (.freeExport hBuf ui32Flags removes))
    (clear : state.Clear (.freeExport hBuf ui32Flags removes)) :
    ∃ after, state.bmFreeExport hBuf ui32Flags removes = some after ∧
      after.Sound := by
  obtain ⟨exported, gives⟩ := enabled
  obtain ⟨buf, isBuf⟩ :=
    isSome_iff_exists.mp (sound.inv.alive hBuf (Or.inr exported))
  obtain ⟨mapping, isMapping, _⟩ := sound.inv.live hBuf buf isBuf
  obtain ⟨_, exports⟩ := sound.inv.counted hBuf buf isBuf
  have positive := count_pos_iff.mpr exported
  have fewer : oneLess buf.ui32ExportCount = buf.ui32ExportCount - 1 := by
    rw [oneLess, if_neg (by omega)]
  obtain ⟨after, frees, isSound⟩ := @Sound.freeBuf state sound
    { state.setBuf hBuf
        { buf with ui32ExportCount := oneLess buf.ui32ExportCount }
      with exports := state.exports.erase hBuf }
    hBuf buf mapping buf.ui32RefCount (oneLess buf.ui32ExportCount) ui32Flags
    false removes isBuf isMapping rfl rfl rfl rfl rfl rfl gives
    (by
      by_cases idle : oneLess buf.ui32ExportCount = 0 ∧ buf.ui32RefCount = 0
      · simp [rangeBacking, idle]
      · simp [rangeBacking, idle])
    (by
      rintro ⟨last, unreferenced⟩
      exact clear buf mapping isBuf isMapping ⟨by omega, unreferenced⟩)
  have runs : state.bmFreeExport hBuf ui32Flags removes = some after := by
    unfold BmState.bmFreeExport
    simp only [isBuf, bind_eq_bind, bind_some]
    exact frees
  exact ⟨after, runs, isSound (sound.inv.bmFreeExport exported gives runs)⟩

theorem Sound.bmFree
    (sound : state.Sound)
    (enabled : state.Enabled (.free hBuf ui32Flags removes))
    (clear : state.Clear (.free hBuf ui32Flags removes)) :
    ∃ after, state.bmFree hBuf ui32Flags removes = some after ∧
      after.Sound := by
  obtain ⟨allocated, gives⟩ := enabled
  obtain ⟨buf, isBuf⟩ :=
    isSome_iff_exists.mp (sound.inv.alive hBuf (Or.inl allocated))
  obtain ⟨mapping, isMapping, _⟩ := sound.inv.live hBuf buf isBuf
  obtain ⟨refs, _⟩ := sound.inv.counted hBuf buf isBuf
  have positive := count_pos_iff.mpr allocated
  have fewer : oneLess buf.ui32RefCount = buf.ui32RefCount - 1 := by
    rw [oneLess, if_neg (by omega)]
  by_cases last : oneLess buf.ui32RefCount = 0
  · -- the table is only in the way of the entry of the buffer
    have rest : ∀ pBufferHash : List (BitVec 64 × Address),
        ∃ after, BmState.freeBuf
            { state.setBuf hBuf
                { buf with ui32RefCount := oneLess buf.ui32RefCount }
              with
              allocations := state.allocations.erase hBuf
              pBufferHash }
            hBuf ui32Flags true removes = some after ∧
          (after.Inv → after.Sound) := by
      intro pBufferHash
      refine sound.freeBuf isBuf isMapping rfl rfl rfl rfl rfl rfl gives ?_ ?_
      · have referenced : buf.ui32RefCount ≠ 0 := by omega
        simp [rangeBacking, last, referenced]
      · rintro ⟨unexported, _⟩
        exact clear buf mapping isBuf isMapping ⟨unexported, by omega⟩
    have runs : state.bmFree hBuf ui32Flags removes = BmState.freeBuf
        { state.setBuf hBuf
            { buf with ui32RefCount := oneLess buf.ui32RefCount }
          with
          allocations := state.allocations.erase hBuf
          pBufferHash :=
            if mapping.eCpuMemoryOrigin.isCached then
              state.pBufferHash.filter fun entry => entry.1 ≠ buf.cpuPAddr
            else state.pBufferHash }
        hBuf ui32Flags true removes := by
      unfold BmState.bmFree
      simp only [isBuf, last, setBuf, isMapping, bind_eq_bind,
        bind_some, if_true]
      split_ifs <;> rfl
    obtain ⟨after, frees, isSound⟩ := rest
      (if mapping.eCpuMemoryOrigin.isCached then
        state.pBufferHash.filter fun entry => entry.1 ≠ buf.cpuPAddr
      else state.pBufferHash)
    rw [← runs] at frees
    exact ⟨after, frees, isSound (sound.inv.bmFree allocated gives frees)⟩
  · have frees : state.bmFree hBuf ui32Flags removes = some
        { state.setBuf hBuf
            { buf with ui32RefCount := oneLess buf.ui32RefCount }
          with allocations := state.allocations.erase hBuf } := by
      unfold BmState.bmFree
      simp only [isBuf, last, bind_eq_bind, bind_some, if_false]
    refine ⟨_, frees, ?_⟩
    refine sound.count (sound.inv.bmFree allocated gives frees) isBuf rfl rfl
      rfl rfl rfl ⟨fun _ => by omega, fun _ => last⟩ fun none => last none.2

/-! ## Wrapping -/

/-- `WrapMemory` does not touch an area that is NULL. -/
theorem wrapMemory_isSome
    {ui32Size ui32Offset uFlags : BitVec 32}
    {bPhysContig pvCPUVAddr : Bool}
    {sysAddr : BitVec 64}
    {answers : WrapAnswers}
    (area : answers.pMapping.isSome = true → pvCPUVAddr = true →
      answers.hOSMemHandle.isSome = true) :
    (state.wrapMemory ui32Size ui32Offset bPhysContig sysAddr pvCPUVAddr
      uFlags answers).isSome = true := by
  unfold wrapMemory
  cases isMapping : answers.pMapping with
  | none => rfl
  | some pMapping =>
    cases isArea : answers.hOSMemHandle with
    | none =>
      rw [isMapping, isArea] at area
      cases pvCPUVAddr with
      | true => cases area rfl rfl
      | false => rfl
    | some hOSMemHandle =>
      cases answers.mmuAlloc with
      | none => rfl
      | some devVAddr =>
        cases answers.subHandle with
        | none | some subHandle => simp only; split_ifs <;> rfl

variable {heap : BmHeap}

/-- The part of `BM_Wrap` that makes a buffer does not touch an area that is
NULL either. -/
theorem wrapNew_isSome
    {pui32Flags : Option (BitVec 32)}
    {ui32Size ui32Offset : BitVec 32}
    {bPhysContig pvCPUVAddr : Bool}
    {sysAddr : BitVec 64}
    {answers : WrapAnswers}
    (area : answers.pBuf.isSome = true → answers.pMapping.isSome = true →
      pvCPUVAddr = true → answers.hOSMemHandle.isSome = true) :
    (state.wrapNew ui32Size ui32Offset bPhysContig sysAddr pvCPUVAddr
      (wrapFlags heap.ui32Attribs pui32Flags) answers).isSome = true := by
  unfold wrapNew
  cases isBuf : answers.pBuf with
  | none => rfl
  | some pBuf =>
    rw [isBuf] at area
    obtain ⟨⟨middle, made⟩, wrapped⟩ := isSome_iff_exists.mp
      (@wrapMemory_isSome (state.acquire (.buf pBuf)) ui32Size ui32Offset
        (wrapFlags heap.ui32Attribs pui32Flags) bPhysContig pvCPUVAddr
        sysAddr answers (area rfl))
    simp only [wrapped, bind_eq_bind, bind_some]
    rcases wrapMemory_cases
        (wrapFlags_and _ pui32Flags (by decide) (by decide)) wrapped with
      ⟨rfl, _⟩ | ⟨mapping, areas, buf, rfl, isMade⟩
    · rfl
    · have isMapping : middle.mappings buf.pMapping = some mapping := by
        rw [isMade.same]
        exact update_self buf.pMapping _ _
      have isNew : (middle.setBuf pBuf buf).bufs pBuf = some buf :=
        update_self pBuf _ _
      have ramBacked : wrapFlags heap.ui32Attribs pui32Flags &&&
          pvrsrvMemRamBackedAllocation = 0 :=
        wrapFlags_and _ pui32Flags (by decide) (by decide)
      have user : wrapFlags heap.ui32Attribs pui32Flags &&&
          pvrsrvMemUserSuppliedDevvaddr = 0 :=
        wrapFlags_and _ pui32Flags (by decide) (by decide)
      simp only [isMapping, bind_some,
        freeBuf_plain isNew isMapping user ramBacked]
      split_ifs <;> rfl

/-- The hash table is in no ledger. -/
theorem Sound.hashRemove
    (sound : state.Sound)
    (key : BitVec 64) :
    (state.hashRemove key).Sound where
  inv := sound.inv.hashRemove key
  kept := sound.kept
  backed := sound.backed
  ledger := sound.ledger

/-- A new wrapped buffer holds what was acquired for it. -/
theorem Sound.wrapsNew
    (sound : state.Sound)
    {answers : WrapAnswers}
    (enabled : state.WrapEnabled answers)
    (wraps : WrapsNew state after heap pui32Flags ui32Offset bPhysContig
      sysAddr pvCPUVAddr answers pBuf mapping areas buf)
    (inv : after.Inv) :
    after.Sound := by
  obtain ⟨middle, isMade, rfl⟩ := wraps.wrapped
  have fresh := enabled.pBuf pBuf wraps.isBuf
  have free := enabled.pMapping buf.pMapping isMade.isMapping
  have subArea : buf.hOSMemHandle ≠ mapping.hOSMemHandle →
      areas = [.area buf.hOSMemHandle] ∧
        state.Unused (.area buf.hOSMemHandle) := by
    intro different
    rcases isMade.hasAreas with ⟨_, same⟩ | ⟨one, isSub⟩
    · exact absurd same different
    · exact ⟨one, (enabled.subHandle buf.hOSMemHandle isSub).1⟩
  have isAreas : areas = if buf.hOSMemHandle ≠ mapping.hOSMemHandle then
      [.area buf.hOSMemHandle] else [] := by
    rcases isMade.hasAreas with ⟨none, same⟩ | ⟨one, isSub⟩
    · rw [if_neg (not_not.mpr same), none]
    · have different := (enabled.subHandle buf.hOSMemHandle isSub).2
      rw [isMade.isArea] at different
      rw [if_pos fun same => different (by rw [same]), one]
  refine @Sound.handOut state _ sound pBuf { buf with ui32RefCount := 1 }
    mapping ((wrapFlags heap.ui32Attribs pui32Flags &&&
      ~~~pvrsrvHapMaptypeMask) ||| pvrsrvHapMultiProcess)
    (areas ++ [.deviceRange mapping.devVAddr, .area mapping.hOSMemHandle,
      .mapping buf.pMapping] ++ [.buf pBuf])
    inv fresh ?_ ?_ ?_ ?_ ?_ ?_ ?_ ?_ ?_ ?_ ?_ ?_
  · rw [isMade.same]
    rfl
  · rw [isMade.same]
    rfl
  · intro other value isValue
    rw [isMade.same]
    exact update_of_ne
      ((sound.inv.newMapping free mapping).2.2 other value isValue) _ _
  · rw [isMade.same]
    exact update_self buf.pMapping _ _
  · rintro ⟨_, impossible⟩
    cases impossible
  · exact wrapNewFlags_and _ pui32Flags (by decide) (by decide) (by decide)
  · refine ⟨fun _ => isMade.pArena, fun _ => ?_⟩
    exact wrapNewFlags_and _ pui32Flags (by decide) (by decide) (by decide)
  · rw [isMade.same]
    simp only [acquire, append_assoc, cons_append, nil_append]
    rfl
  · rw [isMade.same]
    rfl
  · unfold rangeBacking ownBacking
    simp only [isMade.pArena, isAreas, ne_eq, Nat.one_ne_zero,
      not_false_eq_true, and_self, if_true]
    refine List.perm_iff_count.mpr fun item => ?_
    simp only [count_append, count_cons, count_nil]
    omega
  · by_cases different : buf.hOSMemHandle ≠ mapping.hOSMemHandle
    · rw [isAreas, if_pos different]
      simp [different]
    · rw [isAreas, if_neg different]
      simp
  · intro item member other inHeld
    obtain ⟨value, found, isValue, isFound, same⟩ := mem_held inHeld
    have fromAreas : item ∈ areas → state.Unused item := by
      rw [isAreas]
      split_ifs with different
      · intro inAreas
        rw [mem_singleton.mp inAreas]
        exact (subArea different).2
      · exact fun impossible => absurd impossible not_mem_nil
    simp only [mem_append, mem_cons, not_mem_nil, or_false, or_assoc] at member
    rcases member with inAreas | rfl | rfl | rfl | rfl
    · exact sound.ledger.not_held (fromAreas inAreas) other inHeld
    · exact sound.ledger.not_held (enabled.range _ isMade.isRange) other inHeld
    · exact sound.ledger.not_held (enabled.area _ isMade.isArea) other inHeld
    · have isSame : value.pMapping = buf.pMapping := same
      rw [isSame, free] at isFound
      cases isFound
    · have isSame : pBuf = other := same
      rw [← isSame, fresh] at isValue
      cases isValue

/-- `BM_Wrap` hands out a buffer with what it has got, or gives that back. -/
theorem Sound.bmWrap
    (sound : state.Sound)
    {ui32Size : BitVec 32}
    {answers : WrapAnswers}
    (enabled : state.WrapEnabled answers)
    (clear : state.WrapClear ui32Size ui32Offset sysAddr pvCPUVAddr answers) :
    ∃ after result, state.bmWrap heap ui32Size ui32Offset bPhysContig sysAddr
        pvCPUVAddr pui32Flags answers = some (after, result) ∧
      after.Sound := by
  -- a new buffer, in a table without the key
  have made : ∀ {before : BmState}, before.Sound → before.WrapEnabled answers →
      ¬ state.WrapHits ui32Size ui32Offset sysAddr →
      state.bmWrap heap ui32Size ui32Offset bPhysContig sysAddr pvCPUVAddr
          pui32Flags answers =
        before.wrapNew ui32Size ui32Offset bPhysContig sysAddr pvCPUVAddr
          (wrapFlags heap.ui32Attribs pui32Flags) answers →
      ∃ after result, state.bmWrap heap ui32Size ui32Offset bPhysContig
          sysAddr pvCPUVAddr pui32Flags answers = some (after, result) ∧
        after.Sound := by
    intro before beforeSound beforeEnabled misses same
    have completes := clear.resolve_left misses
    obtain ⟨⟨after, result⟩, wraps⟩ := isSome_iff_exists.mp
      (@wrapNew_isSome before heap pui32Flags ui32Size ui32Offset bPhysContig
        pvCPUVAddr sysAddr answers fun isBuf => (completes isBuf).1)
    refine ⟨after, result, same.trans wraps, ?_⟩
    have inv := sound.inv.bmWrap enabled (same.trans wraps)
    rcases wrapNew_cases beforeEnabled.pBuf beforeEnabled.pMapping wraps with
      ⟨items, back, rfl, perm⟩ | ⟨pBuf, mapping, areas, buf, isNew⟩
    · exact beforeSound.pass (perm
        (fun subHandle isSub => (beforeEnabled.subHandle subHandle isSub).2)
        fun isBuf => (completes isBuf).2)
    · exact beforeSound.wrapsNew beforeEnabled isNew inv
  cases found : state.pBufferHash.lookup
      (sysAddr + ui32Offset.setWidth 64) with
  | none =>
    refine made sound enabled ?_ ?_
    · rintro ⟨_, _, _, isFound, _⟩
      rw [found] at isFound
      cases isFound
    · unfold BmState.bmWrap
      simp only [found]
  | some pBuf =>
    obtain ⟨before, rest, isHash, _⟩ := List.lookup_eq_some_iff.mp found
    have member : (sysAddr + ui32Offset.setWidth 64, pBuf) ∈
        state.pBufferHash := by
      rw [isHash]
      exact List.mem_append_right _ List.mem_cons_self
    obtain ⟨_, allocated, buf, mapping, isBuf, isMapping, isCached, _⟩ :=
      sound.inv.entries _ pBuf member
    by_cases fits : mapping.uSize = hostPagealign (ui32Size + ui32Offset)
    · have wraps : state.bmWrap heap ui32Size ui32Offset bPhysContig sysAddr
          pvCPUVAddr pui32Flags answers = some
            ({ state.setBuf pBuf
                { buf with ui32RefCount := (buf.ui32RefCount + 1) % 2 ^ 32 }
              with allocations := pBuf :: state.allocations },
            some (pBuf, wrapFlags heap.ui32Attribs pui32Flags)) := by
        unfold BmState.bmWrap
        simp only [found, isBuf, isMapping, bind_eq_bind,
          bind_some, fits, isCached, and_self, if_true]
      have few := enabled.few
      have small := (sound.inv.counters_lt isBuf).1
      have refs := (sound.inv.counted pBuf buf isBuf).1
      have positive := count_pos_iff.mpr allocated
      have more : (buf.ui32RefCount + 1) % 2 ^ 32 = buf.ui32RefCount + 1 :=
        Nat.mod_eq_of_lt (by omega)
      refine ⟨_, _, wraps, ?_⟩
      exact sound.count (sound.inv.bmWrap enabled wraps) isBuf rfl rfl rfl
        rfl rfl ⟨fun _ => by omega, fun _ => by omega⟩ fun none => by
          have impossible := none.2
          omega
    · refine made (sound.hashRemove (sysAddr + ui32Offset.setWidth 64))
        ⟨enabled.pBuf, enabled.pMapping, enabled.area, enabled.range,
          enabled.subHandle, enabled.few⟩ ?_ ?_
      · rintro ⟨_, _, _, isFound, isOther, isOtherMapping, same, _⟩
        rw [found] at isFound
        cases isFound
        rw [isBuf] at isOther
        cases isOther
        rw [isMapping] at isOtherMapping
        cases isOtherMapping
        exact fits same
      · unfold BmState.bmWrap
        simp only [found, isBuf, isMapping, bind_eq_bind,
          bind_some, fits, false_and, if_false]

/-! ## Allocating -/

/-- `RA_Alloc` leaves the mapping of its segment. -/
theorem allocRamBacked_isSome
    {uSize uFlags : BitVec 32}
    {answers : AllocAnswers}
    (live : ∀ answer, answers.segment = some answer →
      ((state.raAlloc heap.pImportArena answer).mappings
        answer.psMapping).isSome = true) :
    (state.allocRamBacked heap uSize uFlags answers).isSome = true := by
  unfold allocRamBacked
  cases isAnswer : answers.segment with
  | none => split_ifs <;> rfl
  | some answer =>
    obtain ⟨mapping, isMapping⟩ := isSome_iff_exists.mp (live answer isAnswer)
    cases isSub : answers.subHandle with
    | none | some subHandle =>
      simp only [isMapping, bind_eq_bind, bind_some]
      split_ifs <;> rfl

/-- The second branch of `AllocMemory` that fails at once. -/
theorem allocUnbacked_none
    (fails : answers.pMapping = none ∧ answers.mmuAlloc = none ∨
      uFlags &&& pvrsrvMemUserSuppliedDevvaddr ≠ 0 ∧ psDevVAddr = none) :
    state.allocUnbacked psDevVAddr uSize uFlags answers =
      some (state, none) := by
  unfold allocUnbacked
  rcases fails with ⟨isMapping, isRange⟩ | ⟨user, isNone⟩
  · simp only [isMapping, isRange]
    cases psDevVAddr <;> split_ifs <;> first | rfl | simp_all
  · rw [if_pos user, isNone]

/-- The flags `BM_Alloc` hands out say as much as those it got. -/
theorem allocFlags_user
    (heap : BmHeap)
    (user : uFlags &&& pvrsrvMemUserSuppliedDevvaddr = 0#32) :
    allocFlags heap uFlags &&& pvrsrvMemUserSuppliedDevvaddr = 0#32 := by
  have heapFlags : heap.ui32Attribs &&& pvrsrvMemUserSuppliedDevvaddr =
      0#32 := heap.notUserSupplied
  have kept : (uFlags ||| heap.ui32Attribs) &&&
      pvrsrvMemUserSuppliedDevvaddr = 0#32 := by
    rw [BitVec.and_or_distrib_right, user, heapFlags, BitVec.or_self]
  unfold allocFlags
  split_ifs
  · have outside : pvrsrvHapCachetypeMask &&&
        pvrsrvMemUserSuppliedDevvaddr = 0#32 := by decide
    rw [BitVec.and_or_distrib_right, and_and_flag kept,
      BitVec.and_assoc uFlags, outside, BitVec.and_zero, BitVec.or_zero]
  · exact kept

/-- What a RAM backed allocation acquires. -/
theorem RamBacked.ledger
    (backed : RamBacked state after heap answers answer mapping areas
      hOSMemHandle) :
    after.acquired = areas ++ .segment heap.pImportArena answer.base ::
        state.acquired ∧
      after.released = state.released := by
  obtain ⟨mappings, rfl, _⟩ := backed.same
  exact ⟨rfl, rfl⟩

/-- A RAM backed buffer holds what was acquired for it. -/
theorem Sound.allocsNew
    (sound : state.Sound)
    {middle : BmState}
    (enabled : state.AllocEnabled heap answers)
    (isBuf : answers.pBuf = some pBuf)
    (asks : AsksSegment heap uFlags)
    (backed : RamBacked (state.acquire (.buf pBuf)) middle heap answers answer
      mapping areas hOSMemHandle)
    (isMapping : middle.mappings answer.psMapping =
      some { mapping with pArena := some heap.pImportArena })
    (inv : (middle.handOut pBuf
      { segmentBuf answer mapping hOSMemHandle with ui32RefCount := 1 }
      (allocFlags heap uFlags)).Inv) :
    (middle.handOut pBuf
      { segmentBuf answer mapping hOSMemHandle with ui32RefCount := 1 }
      (allocFlags heap uFlags)).Sound := by
  have fresh := enabled.pBuf pBuf isBuf
  have start : Spares state (state.acquire (.buf pBuf)) :=
    (Spares.refl sound.inv).recorded _ _
  have spares := start.trans
    (backed.spares (start.inv sound.inv) (enabled.acquire pBuf))
  obtain ⟨acquired, released⟩ := backed.ledger
  have isImport : answer.imported = some mapping ∨
      state.mappings answer.psMapping = some mapping := by
    have isFound := backed.isMapping
    unfold raAlloc at isFound
    cases imported : answer.imported with
    | none =>
      simp only [imported] at isFound
      exact Or.inr isFound
    | some found =>
      simp only [imported, update_self] at isFound
      exact Or.inl isFound
  have subArea : ∀ subHandle, answers.subHandle = some subHandle →
      state.Unused (.area subHandle) ∧ subHandle ≠ mapping.hOSMemHandle := by
    intro subHandle isSub
    obtain ⟨unused, apart⟩ := enabled.subHandle subHandle isSub
    exact ⟨unused, apart answer mapping backed.isAnswer isImport⟩
  have isAreas : areas = if hOSMemHandle ≠ mapping.hOSMemHandle then
      [.area hOSMemHandle] else [] := by
    rcases backed.hasAreas with ⟨none, same⟩ | ⟨one, isSub⟩
    · rw [if_neg (not_not.mpr same), none]
    · rw [if_pos (subArea hOSMemHandle isSub).2, one]
  have fromAreas : ∀ item ∈ areas, state.Unused item := by
    intro item member
    rcases backed.hasAreas with ⟨none, _⟩ | ⟨one, isSub⟩
    · rw [none] at member
      exact absurd member not_mem_nil
    · rw [one] at member
      rw [mem_singleton.mp member]
      exact (subArea hOSMemHandle isSub).1
  refine @Sound.handOut state _ sound pBuf
    { segmentBuf answer mapping hOSMemHandle with ui32RefCount := 1 }
    { mapping with pArena := some heap.pImportArena } (allocFlags heap uFlags)
    (areas ++ [.segment heap.pImportArena answer.base, .buf pBuf])
    inv fresh ?_ ?_ ?_ isMapping ?_ ?_ ?_ ?_ ?_ ?_ ?_ ?_
  · exact congrArg (Function.update · pBuf _) spares.bufs
  · exact congrArg (Function.update · pBuf _) spares.handedFlags
  · exact spares.mappings
  · rintro ⟨_, impossible⟩
    cases impossible
  · exact allocFlags_user heap asks.1
  · exact iff_of_false (allocFlags_ramBacked heap uFlags) (some_ne_none _)
  · refine acquired.trans ?_
    rw [append_assoc]
    rfl
  · exact released
  · unfold rangeBacking ownBacking segmentBuf
    simp only [isAreas, reduceCtorEq, false_and, if_false, nil_append,
      append_assoc, cons_append]
    exact List.Perm.refl _
  · rw [isAreas]
    split_ifs <;> simp
  · intro item member other inHeld
    obtain ⟨value, found, isValue, isFound, same⟩ := mem_held inHeld
    rw [mem_append, mem_cons, mem_singleton] at member
    rcases member with inAreas | rfl | rfl
    · exact sound.ledger.not_held (fromAreas item inAreas) other inHeld
    · -- the segment of another buffer is in the arena
      obtain ⟨isArena, sameBase⟩ :
        found.pArena = some heap.pImportArena ∧
          value.devVAddr = answer.base := same
      obtain ⟨live, isLive, placed⟩ := sound.inv.live other value isValue
      rw [isFound] at isLive
      cases isLive
      unfold Placed at placed
      rw [isArena] at placed
      exact enabled.segment answer backed.isAnswer _ placed rfl sameBase
    · have isSame : pBuf = other := same
      rw [← isSame, fresh] at isValue
      cases isValue

/-- `BM_Alloc` hands out a buffer with what it has got, or gives that back. -/
theorem Sound.bmAlloc
    (sound : state.Sound)
    (enabled : state.AllocEnabled heap answers)
    (clear : state.AllocClear heap psDevVAddr uSize uFlags answers) :
    ∃ after result, state.bmAlloc heap psDevVAddr uSize uFlags answers =
        some (after, result) ∧
      after.Sound := by
  cases isBuf : answers.pBuf with
  | none =>
    refine ⟨state, none, ?_, sound⟩
    unfold BmState.bmAlloc
    rw [isBuf]
  | some pBuf =>
    have completes := clear (by rw [isBuf]; rfl)
    have start : Spares state (state.acquire (.buf pBuf)) :=
      (Spares.refl sound.inv).recorded _ _
    -- without a buffer, the memory for it is all that was acquired
    have fails : (state.acquire (.buf pBuf)).allocMemory heap psDevVAddr
        uSize uFlags answers = some (state.acquire (.buf pBuf), none) →
        ∃ after result, state.bmAlloc heap psDevVAddr uSize uFlags answers =
            some (after, result) ∧
          after.Sound := by
      intro allocates
      refine ⟨(state.acquire (.buf pBuf)).release (.buf pBuf), none, ?_,
        @Sound.pass state sound [.buf pBuf] [.buf pBuf] (List.Perm.refl _)⟩
      unfold BmState.bmAlloc
      simp only [isBuf, allocates, bind_eq_bind, bind_some]
    by_cases ram : uFlags &&& pvrsrvMemRamBackedAllocation ≠ 0
    · rw [if_pos ram] at completes
      obtain ⟨⟨middle, made⟩, allocates⟩ := isSome_iff_exists.mp
        (@allocRamBacked_isSome (state.acquire (.buf pBuf)) heap uSize
          uFlags answers fun answer isAnswer =>
            ((start.inv sound.inv).raAlloc (enabled.acquire pBuf)
              isAnswer).segmented.imports _ List.mem_cons_self)
      have whole : (state.acquire (.buf pBuf)).allocMemory heap psDevVAddr
          uSize uFlags answers = some (middle, made) := by
        unfold allocMemory
        rw [if_pos ram]
        exact allocates
      rcases allocRamBacked_cases allocates with
        ⟨rfl, rfl⟩ | ⟨answer, mapping, areas, handle, backed, asks, ends⟩
      · exact fails whole
      · rcases ends with ⟨_, unsettled⟩ | ⟨rfl, isMapping⟩
        · exact absurd (completes asks answer mapping backed.isAnswer
            backed.isMapping) unsettled
        · have allocated : state.bmAlloc heap psDevVAddr uSize uFlags
              answers = some
                (middle.handOut pBuf
                  { segmentBuf answer mapping handle with
                    ui32RefCount := 1 }
                  (allocFlags heap uFlags),
                some (pBuf, allocFlags heap uFlags)) := by
            unfold BmState.bmAlloc
            simp only [isBuf, whole, bind_eq_bind, bind_some]
          exact ⟨_, _, allocated, sound.allocsNew enabled isBuf asks backed
            isMapping (sound.inv.bmAlloc enabled allocated)⟩
    · rw [if_neg ram] at completes
      apply fails
      unfold allocMemory
      rw [if_neg ram]
      exact allocUnbacked_none completes

/-! ## Runs -/

theorem Sound.step
    (sound : state.Sound)
    {op : BmOp}
    (enabled : state.Enabled op)
    (clear : state.Clear op) :
    ∃ after, state.step op = some after ∧ after.Sound := by
  cases op with
  | alloc heap psDevVAddr uSize uFlags answers =>
    obtain ⟨after, result, allocates, isSound⟩ := sound.bmAlloc enabled clear
    exact ⟨after, congrArg (Option.map Prod.fst) allocates, isSound⟩
  | wrap heap ui32Size ui32Offset bPhysContig sysAddr pvCPUVAddr pui32Flags
      answers =>
    obtain ⟨after, result, wraps, isSound⟩ := sound.bmWrap enabled clear
    exact ⟨after, congrArg (Option.map Prod.fst) wraps, isSound⟩
  | «export» hBuf => exact sound.bmExport enabled
  | freeExport hBuf ui32Flags removes => exact sound.bmFreeExport enabled clear
  | free hBuf ui32Flags removes => exact sound.bmFree enabled clear

theorem sound_init : init.Sound where
  inv := inv_init
  kept := nofun
  backed := nofun
  ledger := Ledger.balanced_nil

/-- A run in which calls that make buffers are completed, and buffers that are
freed are not mapped, counts the references and exports of each buffer and
releases what it is made of once, when there are none left. -/
theorem goodRun_of_clearRun
    (ops : List BmOp)
    (enabled : init.EnabledRun ops)
    (clear : init.ClearRun ops) :
    init.GoodRun ops := by
  have run : ∀ (ops : List BmOp) (state : BmState), state.Sound →
      state.EnabledRun ops → state.ClearRun ops → state.GoodRun ops := by
    intro ops
    induction ops with
    | nil => exact fun _ sound _ _ => sound.good
    | cons op ops ih =>
      intro state sound enabled clear
      obtain ⟨after, steps, isSound⟩ := sound.step enabled.1 clear.1
      exact ⟨sound.good, after, steps, ih after isSound
        (enabled.2 after steps) (clear.2 after steps)⟩
  exact run ops init sound_init enabled clear

/-! ## Areas and segments that are left over -/

/-- A wrap in a page, an export of it, and the calls that give both back. -/
def shareWrap : List BmOp :=
  [wrapInPage, .export 100, .free 100 0 fun _ => true,
    .freeExport 100 0 fun _ => true]

theorem goodRun_of_clearRun_shareWrap : init.GoodRun shareWrap := by
  refine goodRun_of_clearRun shareWrap ⟨wrapInPage_enabled.1, ?_⟩ ⟨?_, ?_⟩
  · rintro _ ⟨⟩
    refine ⟨⟨Or.inl (by decide), by decide⟩, ?_⟩
    rintro _ ⟨⟩
    refine ⟨⟨by decide, by decide, by decide⟩, ?_⟩
    rintro _ ⟨⟩
    exact ⟨⟨by decide, by decide, by decide⟩, fun _ _ => trivial⟩
  · exact Or.inr fun _ => ⟨fun _ _ => rfl, fun _ _ _ _ => rfl⟩
  · rintro _ ⟨⟩
    refine ⟨trivial, ?_⟩
    rintro _ ⟨⟩
    refine ⟨fun _ _ _ _ _ _ _ => rfl, ?_⟩
    rintro _ ⟨⟩
    exact ⟨fun _ _ _ _ _ _ _ => rfl, fun _ _ => trivial⟩

/-- An allocation of 100 bytes for which there is a segment but no area. -/
def allocWithoutArea : BmOp :=
  .alloc generalHeap none 100 pvrsrvMemRamBackedAllocation
    { pBuf := some 100
      segment := some
        { base := 0x1000
          psMapping := 200
          imported := some
            { eCpuMemoryOrigin := .hmEnv
              pArena := none
              cpuPAddr := 0x10000
              devVAddr := 0x1000
              uSize := 4096
              hOSMemHandle := 300 } }
      subHandle := none
      zeroed := true
      mmuAlloc := none
      pMapping := none
      eCpuMemoryOrigin := .hmEnv }

/-- A wrap that is freed while a process has the memory mapped. -/
def freeWhileMapped : List BmOp :=
  [wrapInPage, .free 100 0 fun _ => false]

/-- Without allocations and exports, everything has been released. -/
theorem Good.released
    (good : state.Good)
    (allocations : state.allocations = [])
    (exports : state.exports = [])
    (item : Resource) :
    state.acquired.count item = state.released.count item := by
  apply good.ledger.returned
  intro pBuf member
  obtain ⟨buf, _, isBuf, _⟩ := mem_held member
  have outstanding := (good.alive pBuf).mp (by rw [isBuf]; rfl)
  rw [allocations, exports] at outstanding
  rcases outstanding with impossible | impossible
  · exact not_mem_nil impossible
  · exact not_mem_nil impossible

/-- A segment for which there is no area is leaked, and so is an area that is
mapped when its buffer is freed. -/
theorem goodRun_leaks :
    (init.EnabledRun [allocWithoutArea] ∧
        ¬ init.GoodRun [allocWithoutArea]) ∧
      init.EnabledRun freeWhileMapped ∧ ¬ init.GoodRun freeWhileMapped := by
  refine ⟨⟨⟨⟨fun _ _ => rfl, ?_, fun _ _ _ _ => rfl, ?_, ?_, ?_, by decide⟩,
    fun _ _ => trivial⟩, ?_⟩, ⟨wrapInPage_enabled.1, ?_⟩, ?_⟩
  · exact fun _ _ _ impossible => absurd impossible not_mem_nil
  · rintro _ ⟨⟩ impossible
    cases impossible
  · exact nofun
  · exact nofun
  · rintro ⟨_, after, steps, good⟩
    cases steps
    have leaked := Good.released good rfl rfl (.segment 1 0x1000)
    exact absurd leaked (by decide)
  · rintro _ ⟨⟩
    exact ⟨⟨by decide, by decide, by decide⟩, fun _ _ => trivial⟩
  · rintro ⟨_, middle, steps, _, after, frees, good⟩
    cases steps
    cases frees
    have leaked := Good.released good rfl rfl (.area 300)
    exact absurd leaked (by decide)

end BmState

end PvrServices.BufferManager
