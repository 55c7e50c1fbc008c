import PvrServices.BufferManager.Invariant

/-!
# The cache of wrapped buffers

A wrapped contiguous buffer stays in the hash table until its last wrap is
freed, and is alive as long, so that a wrap that finds it there never returns
a freed one.
-/

namespace PvrServices.BufferManager

namespace BmState

open Function (update_of_ne update_self)
open List.Sublist (refl)
open Option (bind_eq_bind bind_none bind_some)
open List (mem_cons_self not_mem_nil)

variable {state after : BmState} {heap : BmHeap} {answers : AllocAnswers}
  {mapping : BmMapping} {hBuf pBuf : Address} {answer : SegmentAnswer}
  {areas : List Resource} {psDevVAddr pui32Flags : Option (BitVec 32)}
  {uSize uFlags ui32Flags ui32Offset : BitVec 32}
  {result : Option (Address × BitVec 32)} {removes : Address → Bool}
  {bPhysContig pvCPUVAddr : Bool} {sysAddr : BitVec 64}

/-! ## What is to hold -/

/-- Entries of the hash table lead to live wrapped contiguous buffers at the
physical address that is their key. -/
def Cached (state : BmState) : Prop :=
  ∀ key pBuf, (key, pBuf) ∈ state.pBufferHash →
    ∃ buf mapping, state.bufs pBuf = some buf ∧
      state.mappings buf.pMapping = some mapping ∧
      mapping.eCpuMemoryOrigin.isCached = true ∧ buf.cpuPAddr = key

theorem Inv.cached
    (inv : state.Inv) :
    state.Cached := by
  intro key pBuf member
  obtain ⟨_, _, found⟩ := inv.entries key pBuf member
  exact found

/-! ## Allocating -/

theorem RamBacked.spares
    {hOSMemHandle : Address}
    (backed : RamBacked state after heap answers answer mapping areas
      hOSMemHandle)
    (inv : state.Inv)
    (enabled : state.AllocEnabled heap answers) :
    Spares state after := by
  have first := inv.raAlloc enabled backed.isAnswer
  obtain ⟨mappings, rfl, same⟩ := backed.same
  rcases same with rfl | rfl
  · exact first.recorded _ _
  · exact (first.trans ((first.inv inv).setArena mem_cons_self
      backed.isMapping)).recorded _ _

/-- What `allocUnbacked` does once it has a device range. -/
def allocMapping (state : BmState) (answers : AllocAnswers)
    (devVAddr uSize : BitVec 32) : Option (BmState × Option BmBuf) :=
  match answers.pMapping with
  | none => some (state, none)
  | some pMapping =>
    some
      ((state.acquire (.mapping pMapping)).setMapping pMapping
        { eCpuMemoryOrigin := answers.eCpuMemoryOrigin
          pArena := none
          cpuPAddr := 0
          devVAddr
          uSize
          hOSMemHandle := 0 },
      some
        { hOSMemHandle := 0
          cpuPAddr := 0
          devVAddr
          pMapping
          ui32RefCount := 0
          ui32ExportCount := 0 })

/-- The second branch of `AllocMemory` makes a mapping of its own at most. -/
theorem allocUnbacked_spares
    (inv : state.Inv)
    {result : Option BmBuf}
    (unused : ∀ pMapping, answers.pMapping = some pMapping →
      state.mappings pMapping = none)
    (allocates : state.allocUnbacked psDevVAddr uSize uFlags answers =
      some (after, result)) :
    Spares state after ∧ ∀ buf, result = some buf →
      buf.ui32RefCount = 0 ∧ buf.ui32ExportCount = 0 ∧
        ∃ mapping, after.mappings buf.pMapping = some mapping ∧
          mapping.pArena = none ∧ state.mappings buf.pMapping = none ∧
          ∀ segment ∈ after.segments, segment.psMapping ≠ buf.pMapping := by
  -- the range is given, or what the MMU has returned
  obtain ⟨rfl, rfl⟩ | ⟨devVAddr, start, isStart, returned⟩ :
      (after = state ∧ result = none) ∨ ∃ devVAddr start,
        (start = state.acquire (.deviceRange devVAddr) ∨ start = state) ∧
          start.allocMapping answers devVAddr uSize =
            some (after, result) := by
    unfold allocUnbacked at allocates
    by_cases user : uFlags &&& pvrsrvMemUserSuppliedDevvaddr ≠ 0
    · rw [if_pos user] at allocates
      cases psDevVAddr with
      | none =>
        cases allocates
        exact .inl ⟨rfl, rfl⟩
      | some devVAddr =>
        exact .inr ⟨devVAddr, _, ite_eq_or_eq .., allocates⟩
    · rw [if_neg user] at allocates
      exact .inr ⟨_, _, ite_eq_or_eq .., allocates⟩
  · exact ⟨Spares.refl inv, fun _ impossible => by cases impossible⟩
  · obtain ⟨spares, same⟩ : Spares state start ∧
        start.mappings = state.mappings := by
      rcases isStart with rfl | rfl
      · exact ⟨(Spares.refl inv).recorded _ _, rfl⟩
      · exact ⟨Spares.refl inv, rfl⟩
    unfold allocMapping at returned
    cases isMapping : answers.pMapping with
    | none =>
      rw [isMapping] at returned
      cases returned
      exact ⟨spares, fun _ impossible => by cases impossible⟩
    | some pMapping =>
      rw [isMapping] at returned
      cases returned
      have free := unused pMapping isMapping
      have next := spares.recorded (.mapping pMapping :: start.acquired)
        start.released
      have isNew : start.mappings pMapping = none := by
        rw [same]
        exact free
      refine ⟨next.trans ((next.inv inv).newMapping isNew _).1, ?_⟩
      rintro buf ⟨⟩
      obtain ⟨_, apart, _⟩ := (next.inv inv).newMapping isNew
        ⟨answers.eCpuMemoryOrigin, none, 0, devVAddr, uSize, 0⟩
      exact ⟨rfl, rfl, _, update_self pMapping _ _, rfl, free, apart⟩

/-- A buffer of a segment shares its mapping with buffers of other segments
only. -/
theorem Inv.segment_own
    (inv : state.Inv)
    (enabled : state.AllocEnabled heap answers)
    (isAnswer : answers.segment = some answer)
    (spares : Spares state after)
    (isMapping : after.mappings answer.psMapping = some mapping)
    (isArena : mapping.pArena = some heap.pImportArena) :
    ∀ other value, state.bufs other = some value →
      value.pMapping = answer.psMapping → value.devVAddr ≠ answer.base := by
  intro other value isValue same
  obtain ⟨found, isFound, placed⟩ := inv.live other value isValue
  have sameMapping := spares.mappings other value isValue
  rw [isFound, same, isMapping] at sameMapping
  cases sameMapping
  unfold Placed at placed
  rw [isArena] at placed
  exact enabled.segment answer isAnswer _ placed rfl

theorem AllocEnabled.acquire
    (enabled : state.AllocEnabled heap answers)
    (pBuf : Address) :
    (state.acquire (.buf pBuf)).AllocEnabled heap answers :=
  ⟨enabled.pBuf, enabled.segment, enabled.imported, enabled.shared,
    fun subHandle isSub => ⟨(List.count_cons_of_ne (by simp)).trans
      (enabled.subHandle subHandle isSub).1,
      (enabled.subHandle subHandle isSub).2⟩,
    enabled.pMapping, enabled.few⟩

/-- `BM_Alloc` keeps the invariant, whatever fails. -/
theorem Inv.bmAlloc
    (inv : state.Inv)
    (enabled : state.AllocEnabled heap answers)
    (allocates : state.bmAlloc heap psDevVAddr uSize uFlags answers =
      some (after, result)) :
    after.Inv := by
  unfold BmState.bmAlloc at allocates
  cases isBuf : answers.pBuf with
  | none =>
    rw [isBuf] at allocates
    cases allocates
    exact inv
  | some pBuf =>
    rw [isBuf] at allocates
    have fresh := enabled.pBuf pBuf isBuf
    have start : Spares state (state.acquire (.buf pBuf)) :=
      (Spares.refl inv).recorded _ _
    have startInv := start.inv inv
    cases allocated : (state.acquire (.buf pBuf)).allocMemory heap
        psDevVAddr uSize uFlags answers with
    | none =>
      simp only [allocated, bind_eq_bind, bind_none]
        at allocates
      cases allocates
    | some outcome =>
      obtain ⟨middle, made⟩ := outcome
      simp only [allocated, bind_eq_bind, bind_some]
        at allocates
      have effect : Spares state middle ∧
          ∀ buf, made = some buf →
            buf.ui32RefCount = 0 ∧ buf.ui32ExportCount = 0 ∧
              ∃ mapping, middle.mappings buf.pMapping = some mapping ∧
                middle.Placed buf mapping ∧
                ∀ other value, state.bufs other = some value →
                  value.pMapping = buf.pMapping →
                  value.devVAddr ≠ buf.devVAddr ∧
                    mapping.pArena ≠ none := by
        unfold allocMemory at allocated
        by_cases ram : uFlags &&& pvrsrvMemRamBackedAllocation ≠ 0
        · rw [if_pos ram] at allocated
          rcases allocRamBacked_cases allocated with
            ⟨rfl, rfl⟩ | ⟨answer, mapping, areas, handle, backed, _, ends⟩
          · exact ⟨start, fun _ impossible => by cases impossible⟩
          · have both := start.trans
              (backed.spares startInv (enabled.acquire pBuf))
            refine ⟨both, fun buf isMade => ?_⟩
            rcases ends with ⟨none, _⟩ | ⟨isSegment, isMapping⟩
            · rw [none] at isMade
              cases isMade
            · rw [isSegment] at isMade
              cases isMade
              refine ⟨rfl, rfl, _, isMapping, backed.member, ?_⟩
              intro other value isValue same
              exact ⟨inv.segment_own enabled backed.isAnswer both
                isMapping rfl other value isValue same,
                Option.some_ne_none _⟩
        · rw [if_neg ram] at allocated
          obtain ⟨spares, made⟩ := allocUnbacked_spares startInv
            (fun pMapping isMapping => enabled.pMapping pMapping isMapping)
            allocated
          have both := start.trans spares
          refine ⟨both, fun buf isMade => ?_⟩
          obtain ⟨refs, exports, mapping, isMapping, isNone, free, apart⟩ :=
            made buf isMade
          refine ⟨refs, exports, mapping, isMapping, ?_, ?_⟩
          · unfold Placed
            rw [isNone]
            exact apart
          · intro other value isValue same
            obtain ⟨found, isFound, _⟩ := inv.live other value isValue
            rw [same] at isFound
            exact Option.noConfusion rfl
              (heq_of_eq (isFound.symm.trans free))
      obtain ⟨spares, isMade⟩ := effect
      have kept := spares.inv inv
      cases made with
      | none =>
        cases allocates
        exact kept.recorded _ _
      | some buf =>
        obtain ⟨refs, exports, mapping, isMapping, placed, own⟩ :=
          isMade buf rfl
        cases allocates
        refine kept.handOut ?_ ?_ rfl exports isMapping placed ?_ ?_
        · rw [spares.bufs]
          exact fresh
        · rw [spares.allocations]
          exact enabled.few
        · intro none
          exact absurd none (allocFlags_ramBacked heap uFlags)
        · rw [spares.bufs]
          exact own

/-! ## Freeing -/

theorem Inv.bmExport
    (inv : state.Inv)
    (few : state.exports.length + 1 < 2 ^ 32)
    (exports : state.bmExport hBuf = some after) :
    after.Inv := by
  unfold BmState.bmExport at exports
  cases isBuf : state.bufs hBuf with
  | none =>
    simp only [isBuf, bind_eq_bind, bind_none] at exports
    cases exports
  | some buf =>
    simp only [isBuf, bind_eq_bind, bind_some] at exports
    cases exports
    have small := (inv.counters_lt isBuf).2
    obtain ⟨refs, exports⟩ := inv.counted hBuf buf isBuf
    refine inv.update isBuf rfl ⟨rfl, rfl, rfl⟩ ⟨rfl, rfl, rfl⟩ ⟨refs, ?_⟩ ?_
      ⟨inv.few.1, few⟩ (refl _) ?_
    · rw [Nat.mod_eq_of_lt (by omega), exports, List.count_cons_self]
    · intro other different
      exact ⟨rfl, List.count_cons_of_ne (Ne.symm different)⟩
    · intro entry member isBuf
      rw [← isBuf]
      exact (inv.entries entry.1 entry.2 member).2.1

/-- `FreeBuf` frees a buffer without references. -/
theorem Inv.freeBuf
    (inv : state.Inv)
    {pBuf : Address}
    {buf : BmBuf}
    {ui32Flags : BitVec 32}
    {bFromAllocator : Bool}
    {removes : Address → Bool}
    (isBuf : state.bufs pBuf = some buf)
    (gives : state.GivesBack pBuf ui32Flags)
    (frees : state.freeBuf pBuf ui32Flags bFromAllocator removes =
      some after) :
    after.Inv := by
  by_cases ramBacked : ui32Flags &&& pvrsrvMemRamBackedAllocation = 0
  · have plain : state.Plain pBuf := gives.1.symm.trans ramBacked
    obtain ⟨mapping, isMapping, placed⟩ := inv.live pBuf buf isBuf
    obtain ⟨user, isArena, _⟩ :=
      inv.wrapped pBuf buf mapping isBuf plain isMapping
    rw [freeBuf_plain isBuf isMapping (gives.2.trans user) ramBacked] at frees
    by_cases last : buf.ui32ExportCount = 0 ∧ buf.ui32RefCount = 0
    · rw [if_pos last] at frees
      cases frees
      unfold Placed at placed
      rw [isArena] at placed
      refine inv.drop isBuf last rfl ⟨rfl, rfl, rfl, rfl⟩ ?_
        (fun _ _ _ _ _ _ placed => placed) ?_
      · intro other value isValue different
        refine update_of_ne ?_ _ _
        intro same
        rcases inv.exclusive pBuf other buf value isBuf isValue same.symm with
          isPBuf | ⟨_, found, isFound, arena⟩
        · exact different isPBuf.symm
        · rw [isMapping] at isFound
          cases isFound
          exact arena isArena
      · refine ⟨inv.segmented.distinct, inv.segmented.bases,
          inv.segmented.arenas, ?_⟩
        intro segment member
        simp only [update_of_ne (placed segment member)]
        exact inv.segmented.imports segment member
    · rw [if_neg last] at frees
      cases bFromAllocator with
      | true =>
        cases frees
        exact inv.recorded _ _
      | false =>
        cases frees
        exact inv
  · rcases freeBuf_allocated isBuf ramBacked frees with
      ⟨rfl, _⟩ | ⟨last, rfl | ⟨mapping, isMapping, rfl⟩⟩
    · exact inv
    · exact inv.drop isBuf last rfl ⟨rfl, rfl, rfl, rfl⟩
        (fun _ _ _ _ => rfl) (fun _ _ _ _ _ _ placed => placed)
        inv.segmented
    · -- the area of the buffer is only in the ledger
      obtain ⟨middle, released, isMiddle⟩ : ∃ middle released,
          (if buf.hOSMemHandle ≠ mapping.hOSMemHandle then
            state.releaseArea removes buf.hOSMemHandle else state) = middle ∧
          middle = { state with released } := by
        unfold releaseArea
        split_ifs
        · exact ⟨_, _, rfl, rfl⟩
        · exact ⟨_, state.released, rfl, rfl⟩
        · exact ⟨_, state.released, rfl, rfl⟩
      rw [isMiddle.1, isMiddle.2]
      obtain ⟨found, isFound, placed⟩ := inv.live pBuf buf isBuf
      rw [isMapping] at isFound
      cases isFound
      cases isArena : mapping.pArena with
      | none =>
        exact inv.drop isBuf last rfl ⟨rfl, rfl, rfl, rfl⟩
          (fun _ _ _ _ => rfl) (fun _ _ _ _ _ _ placed => placed)
          inv.segmented
      | some pArena =>
        unfold Placed at placed
        rw [isArena] at placed
        have freed := raFree_eq
          (inv.recorded state.acquired released).segmented placed
        simp only at freed
        rw [freed]
        -- another buffer of the import has a segment that is left
        have stays : ∀ other value, state.bufs other = some value →
            other ≠ pBuf → ∀ segment ∈ state.segments,
            segment.psMapping = value.pMapping →
            segment.base = value.devVAddr → segment ∈
              state.segments.erase ⟨pArena, buf.devVAddr, buf.pMapping⟩ := by
          rintro other value isValue different segment member isImport isBase
          refine (List.mem_erase_of_ne ?_).mpr member
          rintro rfl
          rcases inv.exclusive pBuf other buf value isBuf isValue
              isImport with isPBuf | ⟨apart, _⟩
          · exact different isPBuf.symm
          · exact apart isBase
        refine inv.drop isBuf last rfl ⟨rfl, rfl, rfl, rfl⟩ ?_ ?_
          (Segmented.erase inv.segmented _)
        · intro other value isValue different
          obtain ⟨found, isFound, wasPlaced⟩ := inv.live other value isValue
          simp only [freeBuffer, release]
          split_ifs with shared
          · rfl
          · refine update_of_ne ?_ _ _
            intro same
            rw [same, isMapping] at isFound
            cases isFound
            unfold Placed at wasPlaced
            rw [isArena] at wasPlaced
            have still := stays other value isValue different _ wasPlaced rfl
              rfl
            exact shared (List.any_eq_true.mpr
              ⟨_, still, decide_eq_true same⟩)
        · intro other value found isValue different isFound wasPlaced
          unfold Placed at wasPlaced ⊢
          cases isOther : found.pArena with
          | none =>
            rw [isOther] at wasPlaced
            exact fun segment member =>
              wasPlaced segment (List.mem_of_mem_erase member)
          | some otherArena =>
            rw [isOther] at wasPlaced
            exact stays other value isValue different _ wasPlaced rfl rfl

theorem oneLess_count
    {word : Nat}
    {list : List Address}
    (member : pBuf ∈ list)
    (counted : word = list.count pBuf) :
    oneLess word = (list.erase pBuf).count pBuf := by
  have positive := List.count_pos_iff.mpr member
  rw [oneLess, if_neg (by omega), List.count_erase_self, counted]

section

variable (inv : state.Inv)
include inv

/-- `BM_FreeExport` keeps the invariant. -/
theorem Inv.bmFreeExport
    (exported : hBuf ∈ state.exports)
    (gives : state.GivesBack hBuf ui32Flags)
    (frees : state.bmFreeExport hBuf ui32Flags removes = some after) :
    after.Inv := by
  obtain ⟨buf, isBuf⟩ :=
    Option.isSome_iff_exists.mp (inv.alive hBuf (Or.inr exported))
  obtain ⟨refs, exports⟩ := inv.counted hBuf buf isBuf
  unfold BmState.bmFreeExport at frees
  simp only [isBuf, bind_eq_bind, bind_some] at frees
  have lowered : ({ state.setBuf hBuf
      { buf with ui32ExportCount := oneLess buf.ui32ExportCount } with
      exports := state.exports.erase hBuf } : BmState).Inv := by
    refine inv.update isBuf rfl ⟨rfl, rfl, rfl⟩ ⟨rfl, rfl, rfl⟩
      ⟨refs, oneLess_count exported exports⟩ ?_ ?_ (refl _) ?_
    · exact fun other different => ⟨rfl, List.count_erase_of_ne different⟩
    · exact ⟨inv.few.1, Nat.lt_of_le_of_lt List.length_erase_le inv.few.2⟩
    · intro entry member isBuf
      rw [← isBuf]
      exact (inv.entries entry.1 entry.2 member).2.1
  exact lowered.freeBuf (update_self hBuf _ _) gives frees

/-- `BM_Free` keeps the invariant: the last wrap that is freed takes the entry
of its buffer along. -/
theorem Inv.bmFree
    (allocated : hBuf ∈ state.allocations)
    (gives : state.GivesBack hBuf ui32Flags)
    (frees : state.bmFree hBuf ui32Flags removes = some after) :
    after.Inv := by
  obtain ⟨buf, isBuf⟩ :=
    Option.isSome_iff_exists.mp (inv.alive hBuf (Or.inl allocated))
  obtain ⟨refs, exports⟩ := inv.counted hBuf buf isBuf
  have fewer := oneLess_count allocated refs
  -- the counter may be lowered with fewer entries in the table
  have lowered : ∀ pBufferHash : List (BitVec 64 × Address),
      pBufferHash.Sublist state.pBufferHash →
      (∀ entry ∈ pBufferHash, entry.2 = hBuf →
        hBuf ∈ state.allocations.erase hBuf) →
      ({ state.setBuf hBuf
          { buf with ui32RefCount := oneLess buf.ui32RefCount } with
        allocations := state.allocations.erase hBuf
        pBufferHash } : BmState).Inv := by
    intro pBufferHash sublist waiting
    refine inv.update isBuf rfl ⟨rfl, rfl, rfl⟩ ⟨rfl, rfl, rfl⟩
      ⟨fewer, exports⟩ ?_ ?_ sublist waiting
    · exact fun other different => ⟨List.count_erase_of_ne different, rfl⟩
    · exact ⟨Nat.lt_of_le_of_lt List.length_erase_le inv.few.1, inv.few.2⟩
  unfold BmState.bmFree at frees
  simp only [isBuf, bind_eq_bind, bind_some] at frees
  by_cases last : oneLess buf.ui32RefCount = 0
  · rw [if_pos last] at frees
    obtain ⟨mapping, isMapping, _⟩ := inv.live hBuf buf isBuf
    simp only [setBuf, isMapping, bind_some] at frees
    by_cases cached : mapping.eCpuMemoryOrigin.isCached = true
    · rw [if_pos cached] at frees
      refine (lowered _ List.filter_sublist ?_).freeBuf
        (update_self hBuf _ _) gives frees
      intro entry member isEntry
      obtain ⟨inHash, otherKey⟩ := List.mem_filter.mp member
      obtain ⟨_, _, value, _, isValue, _, _, atKey⟩ :=
        inv.entries entry.1 entry.2 inHash
      rw [isEntry, isBuf] at isValue
      cases isValue
      exact absurd atKey.symm (of_decide_eq_true otherKey)
    · rw [if_neg cached] at frees
      refine (lowered _ (refl _) ?_).freeBuf (update_self hBuf _ _) gives frees
      intro entry member isEntry
      obtain ⟨_, _, value, found, isValue, isFound, isCached, _⟩ :=
        inv.entries entry.1 entry.2 member
      rw [isEntry, isBuf] at isValue
      cases isValue
      rw [isMapping] at isFound
      cases isFound
      exact absurd isCached cached
  · rw [if_neg last] at frees
    cases frees
    refine lowered _ (refl _) fun _ _ _ => ?_
    rw [fewer] at last
    exact List.count_pos_iff.mp (Nat.pos_of_ne_zero last)

/-! ## Wrapping -/

/-- A new wrapped buffer keeps the invariant, if its key is new. -/
theorem Inv.wrapsNew
    {answers : WrapAnswers}
    {buf : BmBuf}
    (unusedBuf : ∀ pBuf, answers.pBuf = some pBuf → state.bufs pBuf = none)
    (unusedMapping : ∀ pMapping, answers.pMapping = some pMapping →
      state.mappings pMapping = none)
    (few : state.allocations.length + 1 < 2 ^ 32)
    (absent : ∀ entry ∈ state.pBufferHash,
      entry.1 ≠ sysAddr + ui32Offset.setWidth 64)
    (wraps : WrapsNew state after heap pui32Flags ui32Offset bPhysContig
      sysAddr pvCPUVAddr answers pBuf mapping areas buf) :
    after.Inv := by
  obtain ⟨middle, isMade, rfl⟩ := wraps.wrapped
  have free := unusedMapping buf.pMapping isMade.isMapping
  obtain ⟨spares, apart, others⟩ := inv.newMapping free mapping
  have isMapping : middle.mappings buf.pMapping = some mapping := by
    rw [isMade.same]
    exact update_self buf.pMapping _ _
  have middleInv : middle.Inv := by
    rw [isMade.same]
    exact (spares.inv inv).recorded _ _
  have ramBacked : (wrapFlags heap.ui32Attribs pui32Flags &&&
      ~~~pvrsrvHapMaptypeMask ||| pvrsrvHapMultiProcess) &&&
      pvrsrvMemRamBackedAllocation = 0 :=
    wrapNewFlags_and _ pui32Flags (by decide) (by decide) (by decide)
  have handed : (middle.handOut pBuf { buf with ui32RefCount := 1 }
      ((wrapFlags heap.ui32Attribs pui32Flags &&&
        ~~~pvrsrvHapMaptypeMask) ||| pvrsrvHapMultiProcess)).Inv := by
    refine middleInv.handOut ?_ ?_ rfl isMade.counters.2 isMapping ?_ ?_ ?_
    · rw [isMade.same]
      exact unusedBuf pBuf wraps.isBuf
    · rw [isMade.same]
      exact few
    · unfold Placed
      rw [isMade.pArena, isMade.same]
      exact apart
    · intro _
      refine ⟨wrapNewFlags_and _ pui32Flags (by decide) (by decide)
        (by decide), isMade.pArena, ?_⟩
      rw [isMade.origin]
      exact isWrapped_ofWrap _ _
    · intro other value isValue same
      rw [isMade.same] at isValue
      exact absurd same (others other value isValue)
  have hash : middle.pBufferHash = state.pBufferHash := by
    rw [isMade.same]
    rfl
  cases bPhysContig with
  | false =>
    rw [if_neg Bool.false_ne_true, ← hash]
    exact handed
  | true =>
    rw [if_pos rfl, ← hash]
    refine handed.insert ?_ ?_ mem_cons_self
      (update_self pBuf _ _) isMapping ?_ isMade.cpuPAddr
    · rw [← hash] at absent
      exact absent
    · unfold Plain
      rw [← ramBacked]
      exact congrArg (· &&& pvrsrvMemRamBackedAllocation)
        (update_self pBuf _ _)
    · rw [isMade.origin, isCached_ofWrap]

/-- `BM_Wrap` keeps the invariant: a buffer it finds in the hash table is
alive. -/
theorem Inv.bmWrap
    {ui32Size : BitVec 32}
    {answers : WrapAnswers}
    (enabled : state.WrapEnabled answers)
    (wraps : state.bmWrap heap ui32Size ui32Offset bPhysContig sysAddr
      pvCPUVAddr pui32Flags answers = some (after, result)) :
    after.Inv := by
  unfold BmState.bmWrap at wraps
  -- a new buffer is made with a key that the table does not have
  have made : ∀ {before : BmState}, before.Inv →
      before.bufs = state.bufs → before.mappings = state.mappings →
      before.allocations = state.allocations →
      (∀ entry ∈ before.pBufferHash,
        entry.1 ≠ sysAddr + ui32Offset.setWidth 64) →
      before.wrapNew ui32Size ui32Offset bPhysContig sysAddr pvCPUVAddr
        (wrapFlags heap.ui32Attribs pui32Flags) answers = some (after, result) →
      after.Inv := by
    intro before beforeInv bufs mappings allocations absent wraps
    have unusedBuf : ∀ pBuf, answers.pBuf = some pBuf →
        before.bufs pBuf = none := by
      rw [bufs]
      exact enabled.pBuf
    have unusedMapping : ∀ pMapping, answers.pMapping = some pMapping →
        before.mappings pMapping = none := by
      rw [mappings]
      exact enabled.pMapping
    rcases wrapNew_cases unusedBuf unusedMapping wraps with
      ⟨items, back, rfl, _⟩ | ⟨pBuf, mapping, areas, buf, isNew⟩
    · exact beforeInv.recorded _ _
    · refine beforeInv.wrapsNew unusedBuf unusedMapping ?_ absent isNew
      rw [allocations]
      exact enabled.few
  cases found : state.pBufferHash.lookup
      (sysAddr + ui32Offset.setWidth 64) with
  | none =>
    simp only [found] at wraps
    rw [List.lookup_eq_none_iff] at found
    refine made inv rfl rfl rfl ?_ wraps
    intro entry member
    exact (bne_iff_ne.mp (found entry member)).symm
  | some pBuf =>
    obtain ⟨before, rest, isHash, _⟩ := List.lookup_eq_some_iff.mp found
    have member : (sysAddr + ui32Offset.setWidth 64, pBuf) ∈
        state.pBufferHash := by
      rw [isHash]
      exact List.mem_append_right _ mem_cons_self
    obtain ⟨_, _, buf, mapping, isBuf, isMapping, isCached, _⟩ :=
      inv.entries _ pBuf member
    simp only [found, isBuf, isMapping, bind_eq_bind, bind_some] at wraps
    split_ifs at wraps with fits
    · cases wraps
      obtain ⟨refs, exports⟩ := inv.counted pBuf buf isBuf
      have small := (inv.counters_lt isBuf).1
      have few := enabled.few
      refine inv.update isBuf rfl ⟨rfl, rfl, rfl⟩ ⟨rfl, rfl, rfl⟩
        ⟨?_, exports⟩ ?_ ⟨few, inv.few.2⟩ (refl _)
        (fun _ _ _ => mem_cons_self)
      · rw [Nat.mod_eq_of_lt (by omega), refs, List.count_cons_self]
      · intro other different
        exact ⟨List.count_cons_of_ne (Ne.symm different), rfl⟩
    · refine made (inv.hashRemove _) rfl rfl rfl ?_ wraps
      intro entry member
      exact of_decide_eq_true (List.mem_filter.mp member).2

/-! ## Runs -/

theorem Inv.step
    {op : BmOp}
    (enabled : state.Enabled op)
    (steps : state.step op = some after) :
    after.Inv := by
  cases op with
  | alloc heap psDevVAddr uSize uFlags answers =>
    obtain ⟨⟨_, result⟩, allocates, rfl⟩ := Option.map_eq_some_iff.mp steps
    exact inv.bmAlloc enabled allocates
  | wrap heap ui32Size ui32Offset bPhysContig sysAddr pvCPUVAddr pui32Flags
      answers =>
    obtain ⟨⟨_, result⟩, wraps, rfl⟩ := Option.map_eq_some_iff.mp steps
    exact inv.bmWrap enabled wraps
  | «export» hBuf => exact inv.bmExport enabled.2 steps
  | freeExport hBuf ui32Flags removes =>
    exact inv.bmFreeExport enabled.1 enabled.2 steps
  | free hBuf ui32Flags removes => exact inv.bmFree enabled.1 enabled.2 steps

end

theorem inv_init : init.Inv where
  counted := nofun
  alive := fun _ impossible => by
    rcases impossible with impossible | impossible
    · exact absurd impossible not_mem_nil
    · exact absurd impossible not_mem_nil
  few := ⟨Nat.two_pow_pos 32, Nat.two_pow_pos 32⟩
  segmented :=
    ⟨List.nodup_nil, fun _ impossible => absurd impossible not_mem_nil,
      fun _ impossible => absurd impossible not_mem_nil,
      fun _ impossible => absurd impossible not_mem_nil⟩
  live := nofun
  wrapped := nofun
  exclusive := nofun
  keys := List.nodup_nil
  entries := fun _ _ impossible => absurd impossible not_mem_nil

theorem Inv.run
    (inv : state.Inv)
    {ops : List BmOp}
    (enabled : state.EnabledRun ops)
    (runs : state.run ops = some after) :
    after.Inv := by
  induction ops generalizing state with
  | nil =>
    cases runs
    exact inv
  | cons op ops ih =>
    obtain ⟨first, others⟩ := enabled
    obtain ⟨middle, steps, rest⟩ := Option.bind_eq_some_iff.mp runs
    exact ih (inv.step first steps) (others middle steps) rest

/-- After every run the entries of the hash table lead to live wrapped
contiguous buffers at their key, so that a wrap finds a live buffer or none. -/
theorem run_cached
    (ops : List BmOp)
    (after : BmState)
    (enabled : init.EnabledRun ops)
    (runs : init.run ops = some after) :
    after.Cached ∧ ∀ key pBuf, after.pBufferHash.lookup key = some pBuf →
      (after.bufs pBuf).isSome = true := by
  have inv := inv_init.run enabled runs
  refine ⟨inv.cached, fun key pBuf found => ?_⟩
  obtain ⟨before, rest, isHash, _⟩ := List.lookup_eq_some_iff.mp found
  have member : (key, pBuf) ∈ after.pBufferHash := by
    rw [isHash]
    exact List.mem_append_right before mem_cons_self
  obtain ⟨buf, _, isBuf, _⟩ := inv.cached key pBuf member
  rw [isBuf, Option.isSome_some]

/-! ## Memory that does not start at a page -/

/-- A heap of the device. -/
def generalHeap : BmHeap where
  ui32Attribs := 1 <<< 14 ||| pvrsrvMemRamBackedAllocation ||| 1 <<< 16 |||
    pvrsrvBackingstoreSysmemNoncontig
  pImportArena := 1
  ramBacked := by decide
  notUserSupplied := by decide

/-- A wrap of 32 bytes that start 16 bytes into a page. -/
def wrapInPage : BmOp :=
  .wrap generalHeap 32 16 true 0x10000 false none
    { pBuf := some 100
      pMapping := some 200
      hOSMemHandle := some 300
      mmuAlloc := some 0x1000
      subHandle := some 301
      zeroed := true
      inserted := true }

theorem wrapInPage_enabled : init.EnabledRun [wrapInPage] := by
  refine ⟨⟨fun _ _ => rfl, fun _ _ => rfl, fun _ _ => rfl, fun _ _ => rfl,
    ?_, by decide⟩, fun _ _ => trivial⟩
  rintro _ ⟨⟩
  exact ⟨rfl, by decide⟩

/-- What is left of a wrap in a page. -/
theorem wrapInPage_run :
    ∃ after buf mapping, init.run [wrapInPage] = some after ∧
      after.pBufferHash = [(0x10010, 100)] ∧ after.bufs 100 = some buf ∧
      after.mappings buf.pMapping = some mapping ∧
      mapping.cpuPAddr = 0x10000 :=
  ⟨_, _, _, rfl, rfl, rfl, rfl, rfl⟩

/-- The mapping of a wrap in a page does not start at the key. -/
theorem run_cached_inPage :
    ¬ ∀ ops after, init.EnabledRun ops → init.run ops = some after →
      ∀ key pBuf, (key, pBuf) ∈ after.pBufferHash →
        ∃ buf mapping, after.bufs pBuf = some buf ∧
          after.mappings buf.pMapping = some mapping ∧
          mapping.eCpuMemoryOrigin.isCached = true ∧
          mapping.cpuPAddr = key := by
  intro always
  obtain ⟨after, buf, mapping, runs, hash, isBuf, isMapping, start⟩ :=
    wrapInPage_run
  obtain ⟨other, found, isOther, isFound, _, atKey⟩ :=
    always _ after wrapInPage_enabled runs 0x10010 100 (by
      rw [hash]
      exact mem_cons_self)
  rw [isBuf] at isOther
  cases isOther
  rw [isMapping] at isFound
  cases isFound
  rw [start] at atKey
  exact absurd atKey (by decide)

theorem run_cached_wrapInPage :
    ∃ after, init.run [wrapInPage] = some after ∧ after.Cached := by
  obtain ⟨after, _, _, runs, _⟩ := wrapInPage_run
  exact ⟨after, runs,
    (run_cached [wrapInPage] after wrapInPage_enabled runs).1⟩

end BmState

end PvrServices.BufferManager
