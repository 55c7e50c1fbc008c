import PvrServices.BufferManager.Buffers

/-!
# What the functions of the buffer manager do

Each function either gives back what it got and returns nothing, or leaves a
buffer, or fails half way.  These are its results, with the resources that are
acquired and released on the way.
-/

namespace PvrServices.BufferManager

namespace BmState

open Option (bind_eq_bind bind_eq_some_iff bind_none bind_some)
open Function (update update_eq_self update_self)
open List.Perm (append_left cons nil refl swap)

variable {state after : BmState}
  {flag ui32Flags uFlags ui32Size ui32Offset : BitVec 32} {heap : BmHeap}
  {mapping : BmMapping} {pBuf : Address} {buf : BmBuf} {answers : AllocAnswers}
  {areas : List Resource} {result : Option BmBuf}
  {bFromAllocator bPhysContig pvCPUVAddr : Bool} {removes : Address → Bool}
  {sysAddr : BitVec 64}

/-! ## Flags -/

/-- Fewer bits of a word without a flag. -/
theorem and_and_flag
    {word : BitVec 32}
    (none : word &&& flag = 0#32)
    (mask : BitVec 32) :
    word &&& mask &&& flag = 0#32 := by
  rw [BitVec.and_assoc, BitVec.and_comm mask, ← BitVec.and_assoc, none,
    BitVec.zero_and]

section

variable (ui32Attribs : BitVec 32) (pui32Flags : Option (BitVec 32))
  (cacheType : pvrsrvHapCachetypeMask &&& flag = 0#32)
include cacheType

/-- The flags of a wrap are types of caches and of mappings. -/
theorem wrapFlags_and
    (mapType : pvrsrvHapMaptypeMask &&& flag = 0#32) :
    wrapFlags ui32Attribs pui32Flags &&& flag = 0#32 := by
  have masked : ui32Attribs &&&
      (pvrsrvHapCachetypeMask ||| pvrsrvHapMaptypeMask) &&& flag = 0#32 := by
    rw [BitVec.and_assoc, BitVec.and_or_distrib_right, cacheType, mapType,
      BitVec.or_zero, BitVec.and_zero]
  unfold wrapFlags
  cases pui32Flags with
  | none => exact masked
  | some flags =>
    by_cases given : flags &&& pvrsrvHapCachetypeMask ≠ 0
    · simp only [given, if_true, ne_eq, not_false_eq_true]
      rw [BitVec.and_or_distrib_right, BitVec.and_assoc flags, cacheType,
        BitVec.and_zero, BitVec.or_zero]
      exact and_and_flag masked _
    · simp only [given, if_false]
      exact masked

/-- The flags `BM_Wrap` hands out do not say how to free the buffer. -/
theorem wrapNewFlags_and
    (mapType : pvrsrvHapMaptypeMask &&& flag = 0#32)
    (multi : pvrsrvHapMultiProcess &&& flag = 0#32) :
    ((wrapFlags ui32Attribs pui32Flags &&& ~~~pvrsrvHapMaptypeMask) |||
      pvrsrvHapMultiProcess) &&& flag = 0#32 := by
  rw [BitVec.and_or_distrib_right, multi, BitVec.or_zero]
  exact and_and_flag (wrapFlags_and ui32Attribs pui32Flags cacheType mapType) _

end

/-- The flags `BM_Alloc` hands out say that the buffer is RAM backed. -/
theorem allocFlags_ramBacked
    (heap : BmHeap)
    (uFlags : BitVec 32) :
    allocFlags heap uFlags &&& pvrsrvMemRamBackedAllocation ≠ 0 := by
  have backed := heap.ramBacked
  have kept : (uFlags ||| heap.ui32Attribs) &&&
      pvrsrvMemRamBackedAllocation ≠ 0 := by
    rw [BitVec.and_or_distrib_right]
    intro none
    exact backed (BitVec.or_eq_zero_iff.mp none).2
  have outside : ~~~pvrsrvHapCachetypeMask &&& pvrsrvMemRamBackedAllocation =
      pvrsrvMemRamBackedAllocation := by decide
  unfold allocFlags
  split_ifs
  · rw [BitVec.and_or_distrib_right, BitVec.and_assoc, outside]
    intro none
    exact kept (BitVec.or_eq_zero_iff.mp none).1
  · exact kept

/-! ## Allocating -/

/-- A RAM backed allocation that has got its segment can be completed. -/
def Settles
    (mapping : BmMapping) (uSize uFlags : BitVec 32)
    (answers : AllocAnswers) :
    Prop :=
  (uSize = mapping.uSize ∨ answers.subHandle.isSome = true) ∧
    (uFlags &&& pvrsrvMemZero = 0 ∨ answers.zeroed = true)

/-- The first branch of `AllocMemory` asks for a segment. -/
def AsksSegment (heap : BmHeap) (uFlags : BitVec 32) : Prop :=
  uFlags &&& pvrsrvMemUserSuppliedDevvaddr = 0 ∧
    heap.ui32Attribs &&& (pvrsrvBackingstoreSysmemNoncontig |||
      pvrsrvBackingstoreLocalmemContig) ≠ 0

/-- What the first branch of `AllocMemory` does once it has a segment. -/
structure RamBacked
    (state after : BmState) (heap : BmHeap) (answers : AllocAnswers)
    (answer : SegmentAnswer) (mapping : BmMapping) (areas : List Resource)
    (hOSMemHandle : Address) :
    Prop where
  isAnswer : answers.segment = some answer
  isMapping : (state.raAlloc heap.pImportArena answer).mappings
    answer.psMapping = some mapping
  hasAreas : areas = [] ∧ hOSMemHandle = mapping.hOSMemHandle ∨
    areas = [.area hOSMemHandle] ∧ answers.subHandle = some hOSMemHandle
  same : ∃ mappings,
    after =
        { state.raAlloc heap.pImportArena answer with
          mappings
          acquired := areas ++
            (state.raAlloc heap.pImportArena answer).acquired } ∧
      (mappings = (state.raAlloc heap.pImportArena answer).mappings ∨
        mappings = update
          (state.raAlloc heap.pImportArena answer).mappings answer.psMapping
          (some { mapping with pArena := some heap.pImportArena }))

/-- The segment of a new buffer. -/
theorem RamBacked.member
    {answer : SegmentAnswer}
    {hOSMemHandle : Address}
    (backed : RamBacked state after heap answers answer mapping areas
      hOSMemHandle) :
    ⟨heap.pImportArena, answer.base, answer.psMapping⟩ ∈ after.segments := by
  obtain ⟨mappings, rfl, _⟩ := backed.same
  exact List.mem_cons_self

/-- The first branch of `AllocMemory` does nothing, gets a segment and makes a
buffer, or keeps the segment without one. -/
theorem allocRamBacked_cases
    {uSize : BitVec 32}
    (allocates : state.allocRamBacked heap uSize uFlags answers =
      some (after, result)) :
    after = state ∧ result = none ∨
      ∃ answer mapping areas hOSMemHandle,
        RamBacked state after heap answers answer mapping areas
            hOSMemHandle ∧ AsksSegment heap uFlags ∧
          (result = none ∧ ¬ Settles mapping uSize uFlags answers ∨
            result = some (segmentBuf answer mapping hOSMemHandle) ∧
              after.mappings answer.psMapping =
                some { mapping with pArena := some heap.pImportArena }) := by
  unfold allocRamBacked at allocates
  split at allocates
  · cases allocates
    exact Or.inl ⟨rfl, rfl⟩
  rename_i user
  split at allocates
  · cases allocates
    exact Or.inl ⟨rfl, rfl⟩
  rename_i store
  have asks : AsksSegment heap uFlags := ⟨not_not.mp user, store⟩
  split at allocates
  · cases allocates
    exact Or.inl ⟨rfl, rfl⟩
  rename_i answer isAnswer
  obtain ⟨mapping, isMapping, allocates⟩ := bind_eq_some_iff.mp allocates
  right
  simp only at allocates
  split at allocates
  · -- the buffer is all of the import
    split_ifs at allocates with unzeroed
    · cases allocates
      refine ⟨answer, mapping, [], _, ⟨isAnswer, isMapping,
        Or.inl ⟨rfl, rfl⟩, _, rfl, Or.inl rfl⟩, asks, Or.inl ⟨rfl, ?_⟩⟩
      rintro ⟨_, zero | zeroed⟩
      · exact unzeroed.1 zero
      · exact unzeroed.2 zeroed
    · cases allocates
      exact ⟨answer, mapping, [], _, ⟨isAnswer, isMapping,
        Or.inl ⟨rfl, rfl⟩, _, rfl, Or.inr rfl⟩, asks,
        Or.inr ⟨rfl, update_self _ _ _⟩⟩
  rename_i whole
  split at allocates
  · rename_i isSub
    cases allocates
    refine ⟨answer, mapping, [], _, ⟨isAnswer, isMapping, Or.inl ⟨rfl, rfl⟩,
      _, rfl, Or.inl rfl⟩, asks, Or.inl ⟨rfl, ?_⟩⟩
    rintro ⟨same | found, _⟩
    · exact whole same
    · rw [isSub] at found
      cases found
  rename_i subHandle isSub
  split_ifs at allocates with unzeroed
  · cases allocates
    refine ⟨answer, mapping, [.area subHandle], _, ⟨isAnswer, isMapping,
      Or.inr ⟨rfl, isSub⟩, _, rfl, Or.inl rfl⟩, asks, Or.inl ⟨rfl, ?_⟩⟩
    rintro ⟨_, zero | zeroed⟩
    · exact unzeroed.1 zero
    · exact unzeroed.2 zeroed
  · cases allocates
    exact ⟨answer, mapping, [.area subHandle], _, ⟨isAnswer, isMapping,
      Or.inr ⟨rfl, isSub⟩, _, rfl, Or.inr rfl⟩, asks,
      Or.inr ⟨rfl, update_self _ _ _⟩⟩

/-! ## Freeing -/

/-- What `FreeBuf` releases of a wrapped buffer that is not kept. -/
def plainReleases
    (pBuf : Address) (buf : BmBuf) (mapping : BmMapping)
    (bFromAllocator : Bool) (removes : Address → Bool) :
    List Resource :=
  [.buf pBuf, .mapping buf.pMapping] ++
    (if bFromAllocator then [.deviceRange mapping.devVAddr] else []) ++
    (if mapping.eCpuMemoryOrigin.isWrapped ∧
        removes mapping.hOSMemHandle then
      [.area mapping.hOSMemHandle]
    else []) ++
    if buf.hOSMemHandle ≠ mapping.hOSMemHandle ∧
        removes buf.hOSMemHandle then
      [.area buf.hOSMemHandle]
    else []

section

variable (isBuf : state.bufs pBuf = some buf)
include isBuf

section

variable (isMapping : state.mappings buf.pMapping = some mapping)
  (user : ui32Flags &&& pvrsrvMemUserSuppliedDevvaddr = 0)
include isMapping user

/-- `FreeBuf` on a buffer that was not allocated. -/
theorem freeBuf_plain
    (ramBacked : ui32Flags &&& pvrsrvMemRamBackedAllocation = 0) :
    state.freeBuf pBuf ui32Flags bFromAllocator removes =
      some (if buf.ui32ExportCount = 0 ∧ buf.ui32RefCount = 0 then
        { state with
          bufs := update state.bufs pBuf none
          mappings := update state.mappings buf.pMapping none
          released := plainReleases pBuf buf mapping bFromAllocator removes ++
            state.released }
      else if bFromAllocator then
        state.release (.deviceRange mapping.devVAddr)
      else state) := by
  unfold BmState.freeBuf
  simp only [isBuf, isMapping, ramBacked, user, bind_eq_bind,
    bind_some, ne_eq, not_true_eq_false, if_false]
  by_cases last : buf.ui32ExportCount = 0 ∧ buf.ui32RefCount = 0
  · simp only [last, and_self, decide_true, true_and, if_true]
    unfold plainReleases releaseArea
    split_ifs <;> first | rfl | simp_all
  · simp only [last, decide_false, Bool.false_eq_true, false_and, if_false]

/-- `FreeBuf` on a RAM backed buffer. -/
theorem freeBuf_ramBacked
    (ramBacked : ui32Flags &&& pvrsrvMemRamBackedAllocation ≠ 0) :
    state.freeBuf pBuf ui32Flags bFromAllocator removes =
      some (if buf.ui32ExportCount = 0 ∧ buf.ui32RefCount = 0 then
        ((if buf.hOSMemHandle ≠ mapping.hOSMemHandle then
            state.releaseArea removes buf.hOSMemHandle
          else state).raFree mapping.pArena buf.devVAddr).freeBuffer pBuf
      else state) := by
  unfold BmState.freeBuf
  simp only [isBuf, isMapping, ramBacked, user, bind_eq_bind,
    bind_some, ne_eq, not_true_eq_false, not_false_eq_true, if_false,
    if_true]
  by_cases last : buf.ui32ExportCount = 0 ∧ buf.ui32RefCount = 0
  · simp only [last, and_self, decide_true, true_and, if_true]
  · simp only [last, decide_false, Bool.false_eq_true, false_and, if_false]

end

/-- What `FreeBuf` does to a buffer that was allocated, as far as the others
can see. -/
theorem freeBuf_allocated
    (ramBacked : ui32Flags &&& pvrsrvMemRamBackedAllocation ≠ 0)
    (frees : state.freeBuf pBuf ui32Flags bFromAllocator removes =
      some after) :
    after = state ∧ ¬ (buf.ui32ExportCount = 0 ∧ buf.ui32RefCount = 0) ∨
      (buf.ui32ExportCount = 0 ∧ buf.ui32RefCount = 0) ∧
        (after = state.freeBuffer pBuf ∨
          ∃ mapping, state.mappings buf.pMapping = some mapping ∧ after =
            ((if buf.hOSMemHandle ≠ mapping.hOSMemHandle then
                state.releaseArea removes buf.hOSMemHandle
              else state).raFree mapping.pArena buf.devVAddr).freeBuffer
              pBuf) := by
  by_cases user : ui32Flags &&& pvrsrvMemUserSuppliedDevvaddr = 0
  · cases isMapping : state.mappings buf.pMapping with
    | none =>
      unfold BmState.freeBuf at frees
      simp only [isBuf, isMapping, user, bind_eq_bind,
        bind_some, bind_none, ne_eq, not_true_eq_false,
        if_false] at frees
      cases frees
    | some mapping =>
      rw [freeBuf_ramBacked isBuf isMapping user ramBacked] at frees
      by_cases last : buf.ui32ExportCount = 0 ∧ buf.ui32RefCount = 0
      · rw [if_pos last] at frees
        cases frees
        exact Or.inr ⟨last, Or.inr ⟨mapping, rfl, rfl⟩⟩
      · rw [if_neg last] at frees
        cases frees
        exact Or.inl ⟨rfl, last⟩
  · unfold BmState.freeBuf at frees
    simp only [isBuf, user, ramBacked, bind_eq_bind,
      bind_some, ne_eq, not_false_eq_true, if_true, and_false,
      if_false] at frees
    by_cases last : buf.ui32ExportCount = 0 ∧ buf.ui32RefCount = 0
    · simp only [last, and_self, decide_true, if_true] at frees
      cases frees
      exact Or.inr ⟨last, Or.inl rfl⟩
    · simp only [last, decide_false, Bool.false_eq_true, if_false] at frees
      cases frees
      exact Or.inl ⟨rfl, last⟩

end

/-! ## Wrapping -/

/-- A wrap that has got a device range can be completed. -/
def WrapSettles (ui32Offset : BitVec 32) (answers : WrapAnswers) : Prop :=
  answers.pMapping.isSome = true → answers.hOSMemHandle.isSome = true →
    answers.mmuAlloc.isSome = true → ui32Offset ≠ 0 →
    answers.subHandle.isSome = true

/-- What `WrapMemory` leaves if it succeeds. -/
structure Wrapped
    (state after : BmState) (ui32Offset : BitVec 32) (bPhysContig : Bool)
    (sysAddr : BitVec 64) (pvCPUVAddr : Bool) (answers : WrapAnswers)
    (mapping : BmMapping) (areas : List Resource) (buf : BmBuf) :
    Prop where
  isMapping : answers.pMapping = some buf.pMapping
  isArea : answers.hOSMemHandle = some mapping.hOSMemHandle
  isRange : answers.mmuAlloc = some mapping.devVAddr
  hasAreas : areas = [] ∧ buf.hOSMemHandle = mapping.hOSMemHandle ∨
    areas = [.area buf.hOSMemHandle] ∧
      answers.subHandle = some buf.hOSMemHandle
  cpuPAddr : buf.cpuPAddr =
    (if bPhysContig then sysAddr else 0) + ui32Offset.setWidth 64
  counters : buf.ui32RefCount = 0 ∧ buf.ui32ExportCount = 0
  pArena : mapping.pArena = none
  origin : mapping.eCpuMemoryOrigin = .ofWrap pvCPUVAddr bPhysContig
  same : after =
    { state with
      mappings := update state.mappings buf.pMapping (some mapping)
      acquired := areas ++ [.deviceRange mapping.devVAddr,
        .area mapping.hOSMemHandle, .mapping buf.pMapping] ++ state.acquired }

/-- `WrapMemory` gives back what it got, or makes a buffer. -/
theorem wrapMemory_cases
    {answers : WrapAnswers}
    (unzeroed : uFlags &&& pvrsrvMemZero = 0)
    (wraps : state.wrapMemory ui32Size ui32Offset bPhysContig sysAddr
      pvCPUVAddr uFlags answers = some (after, result)) :
    (result = none ∧ ∃ items back,
      after =
          { state with
            acquired := items ++ state.acquired
            released := back ++ state.released } ∧
        (WrapSettles ui32Offset answers → items.Perm back)) ∨
      ∃ mapping areas buf, result = some buf ∧
        Wrapped state after ui32Offset bPhysContig sysAddr pvCPUVAddr answers
          mapping areas buf := by
  unfold wrapMemory at wraps
  split at wraps
  · cases wraps
    exact Or.inl ⟨rfl, [], [], rfl, fun _ => nil⟩
  rename_i pMapping isMapping
  simp only [unzeroed, ne_eq, not_true_eq_false, false_and, if_false]
    at wraps
  split at wraps
  · split_ifs at wraps
    cases wraps
    exact Or.inl ⟨rfl, [.mapping pMapping], [.mapping pMapping], rfl,
      fun _ => refl _⟩
  rename_i hOSMemHandle isArea
  split at wraps
  · cases wraps
    exact Or.inl ⟨rfl, [.area hOSMemHandle, .mapping pMapping],
      [.mapping pMapping, .area hOSMemHandle], rfl, fun _ => swap _ _ _⟩
  rename_i devVAddr isRange
  split at wraps
  · cases wraps
    exact Or.inr ⟨_, [], _, rfl, isMapping, isArea, isRange,
      Or.inl ⟨rfl, rfl⟩, rfl, ⟨rfl, rfl⟩, rfl, rfl, rfl⟩
  rename_i whole
  split at wraps
  · rename_i isSub
    cases wraps
    refine Or.inl ⟨rfl,
      [.deviceRange devVAddr, .area hOSMemHandle, .mapping pMapping],
      [.mapping pMapping, .area hOSMemHandle], rfl, ?_⟩
    intro settles
    have found := settles (by rw [isMapping]; rfl) (by rw [isArea]; rfl)
      (by rw [isRange]; rfl) whole
    rw [isSub] at found
    cases found
  · rename_i subHandle isSub
    cases wraps
    exact Or.inr ⟨_, [.area subHandle], _, rfl, isMapping, isArea, isRange,
      Or.inr ⟨rfl, isSub⟩, rfl, ⟨rfl, rfl⟩, rfl, rfl, rfl⟩

theorem isWrapped_ofWrap
    (pvCPUVAddr bPhysContig : Bool) :
    (CpuMemoryOrigin.ofWrap pvCPUVAddr bPhysContig).isWrapped = true := by
  cases pvCPUVAddr <;> cases bPhysContig <;> rfl

/-- Contiguous memory is cached. -/
theorem isCached_ofWrap
    (pvCPUVAddr bPhysContig : Bool) :
    (CpuMemoryOrigin.ofWrap pvCPUVAddr bPhysContig).isCached =
      bPhysContig := by
  cases pvCPUVAddr <;> cases bPhysContig <;> rfl

/-- `FreeBuf` releases what `WrapMemory` got. -/
theorem plainReleases_perm
    (isWrapped : mapping.eCpuMemoryOrigin.isWrapped = true)
    (hasAreas : areas = if buf.hOSMemHandle ≠ mapping.hOSMemHandle then
      [.area buf.hOSMemHandle] else [])
    (removesAll : ∀ hOSMemHandle, removes hOSMemHandle = true)
    (fromAllocator : bFromAllocator = true) :
    (plainReleases pBuf buf mapping bFromAllocator removes).Perm
      (areas ++ [.deviceRange mapping.devVAddr, .area mapping.hOSMemHandle,
        .mapping buf.pMapping] ++ [.buf pBuf]) := by
  have turned : ∀ first second third fourth : Resource,
      List.Perm [first, second, third, fourth]
        [third, fourth, second, first] := fun first second third fourth =>
    (@List.perm_append_comm _ [first, second] [third, fourth]).trans
      (append_left [third, fourth] (swap _ _ _))
  unfold plainReleases
  simp only [isWrapped, removesAll, fromAllocator, and_true, and_self,
    if_true, ← hasAreas]
  refine List.perm_append_comm.trans ?_
  simp only [List.append_assoc, List.cons_append, List.nil_append]
  exact append_left areas (turned _ _ _ _)

/-- What the part of `BM_Wrap` that makes a buffer leaves. -/
structure WrapsNew
    (state after : BmState) (heap : BmHeap)
    (pui32Flags : Option (BitVec 32)) (ui32Offset : BitVec 32)
    (bPhysContig : Bool) (sysAddr : BitVec 64) (pvCPUVAddr : Bool)
    (answers : WrapAnswers) (pBuf : Address) (mapping : BmMapping)
    (areas : List Resource) (buf : BmBuf) :
    Prop where
  isBuf : answers.pBuf = some pBuf
  wrapped : ∃ middle, Wrapped (state.acquire (.buf pBuf)) middle ui32Offset
    bPhysContig sysAddr pvCPUVAddr answers mapping areas buf ∧
    after =
      { middle.handOut pBuf { buf with ui32RefCount := 1 }
          ((wrapFlags heap.ui32Attribs pui32Flags &&&
            ~~~pvrsrvHapMaptypeMask) ||| pvrsrvHapMultiProcess) with
        pBufferHash :=
          if bPhysContig then
            (sysAddr + ui32Offset.setWidth 64, pBuf) :: state.pBufferHash
          else state.pBufferHash }

/-- The part of `BM_Wrap` that makes a buffer gives back what it got, or hands
the buffer out. -/
theorem wrapNew_cases
    {pui32Flags : Option (BitVec 32)}
    {answers : WrapAnswers}
    {result : Option (Address × BitVec 32)}
    (unusedBuf : ∀ pBuf, answers.pBuf = some pBuf → state.bufs pBuf = none)
    (unusedMapping : ∀ pMapping, answers.pMapping = some pMapping →
      state.mappings pMapping = none)
    (wraps : state.wrapNew ui32Size ui32Offset bPhysContig sysAddr pvCPUVAddr
      (wrapFlags heap.ui32Attribs pui32Flags) answers = some (after, result)) :
    (∃ items back,
      after =
          { state with
            acquired := items ++ state.acquired
            released := back ++ state.released } ∧
        ((∀ subHandle, answers.subHandle = some subHandle →
            answers.hOSMemHandle ≠ some subHandle) →
          (answers.pBuf.isSome = true → WrapSettles ui32Offset answers) →
          items.Perm back)) ∨
      ∃ pBuf mapping areas buf,
        WrapsNew state after heap pui32Flags ui32Offset bPhysContig sysAddr
          pvCPUVAddr answers pBuf mapping areas buf := by
  have unzeroed : wrapFlags heap.ui32Attribs pui32Flags &&&
      pvrsrvMemZero = 0 :=
    wrapFlags_and _ pui32Flags (by decide) (by decide)
  have ramBacked : wrapFlags heap.ui32Attribs pui32Flags &&&
      pvrsrvMemRamBackedAllocation = 0 :=
    wrapFlags_and _ pui32Flags (by decide) (by decide)
  have user : wrapFlags heap.ui32Attribs pui32Flags &&&
      pvrsrvMemUserSuppliedDevvaddr = 0 :=
    wrapFlags_and _ pui32Flags (by decide) (by decide)
  unfold wrapNew at wraps
  split at wraps
  · cases wraps
    exact Or.inl ⟨[], [], rfl, fun _ _ => nil⟩
  rename_i pBuf isBuf
  obtain ⟨⟨middle, made⟩, wrapped, wraps⟩ := bind_eq_some_iff.mp wraps
  rcases wrapMemory_cases unzeroed wrapped with
    ⟨rfl, items, back, rfl, same⟩ | ⟨mapping, areas, buf, rfl, isMade⟩
  · cases wraps
    exact Or.inl ⟨items ++ [.buf pBuf], .buf pBuf :: back,
      by rw [List.append_assoc]; rfl, fun _ settles =>
        (List.perm_append_singleton _ _).trans
          (cons _ (same (settles (by rw [isBuf]; rfl))))⟩
  have isMapping : middle.mappings buf.pMapping = some mapping := by
    rw [isMade.same]
    exact update_self buf.pMapping _ _
  have hash : middle.pBufferHash = state.pBufferHash := by
    rw [isMade.same]
    rfl
  simp only [isMapping, bind_eq_bind, bind_some, isMade.origin,
    isCached_ofWrap] at wraps
  cases bPhysContig with
  | false =>
    cases wraps
    refine Or.inr ⟨pBuf, mapping, areas, buf, isBuf, middle, isMade, ?_⟩
    rw [if_neg Bool.false_ne_true, ← hash]
    rfl
  | true =>
    cases inserted : answers.inserted with
    | true =>
      rw [inserted] at wraps
      cases wraps
      refine Or.inr ⟨pBuf, mapping, areas, buf, isBuf, middle, isMade, ?_⟩
      rw [if_pos rfl, ← hash]
    | false =>
      -- the buffer is freed again, with all it is made of
      have free := unusedBuf pBuf isBuf
      have freeMapping := unusedMapping buf.pMapping isMade.isMapping
      have isNew : (middle.setBuf pBuf buf).bufs pBuf = some buf :=
        update_self pBuf _ _
      simp only [inserted, if_true, Bool.false_eq_true, if_false,
        freeBuf_plain isNew isMapping user ramBacked, isMade.counters,
        and_self, bind_some] at wraps
      cases wraps
      left
      refine ⟨areas ++ [.deviceRange mapping.devVAddr,
        .area mapping.hOSMemHandle, .mapping buf.pMapping] ++ [.buf pBuf],
        plainReleases pBuf buf mapping true fun _ => true, ?_, ?_⟩
      · rw [isMade.same]
        simp only [setBuf, acquire, Function.update_idem]
        rw [← free, ← freeMapping, update_eq_self, update_eq_self]
        simp only [List.append_assoc, List.cons_append, List.nil_append]
      · intro apart _
        refine (plainReleases_perm ?_ ?_ (fun _ => rfl) ?_).symm
        · rw [isMade.origin]
          exact isWrapped_ofWrap _ _
        · rcases isMade.hasAreas with ⟨none, same⟩ | ⟨one, isSub⟩
          · rw [none, if_neg (not_not.mpr same)]
          · have different := apart buf.hOSMemHandle isSub
            rw [isMade.isArea] at different
            rw [one, if_pos fun same => different (by rw [same])]
        · rfl

end BmState

end PvrServices.BufferManager
