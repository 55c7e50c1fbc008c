import PvrServices.BufferManager.Effects

/-!
# Buffers and their mappings

The counters of a buffer count its allocations, wraps and exports.  Its
mapping is alive, and shared with other segments of one arena at most.
-/

namespace PvrServices.BufferManager

namespace BmState

open Function (update_of_ne update_self)
open List (count_pos_iff mem_cons mem_of_mem_erase)

variable {state after : BmState} {buf : BmBuf} {mapping : BmMapping}
  {pBuf : Address} {segment : Segment}

/-! ## What the calls may rely on -/

/-- Nobody holds the resource. -/
def Unused (state : BmState) (resource : Resource) : Prop :=
  state.acquired.count resource = state.released.count resource

/-- Memory for buffers and mappings is unused.  A segment is disjoint from the
others, and part of an import that is new or has other segments. -/
structure AllocEnabled
    (state : BmState) (heap : BmHeap) (answers : AllocAnswers) : Prop where
  pBuf : ∀ pBuf, answers.pBuf = some pBuf → state.bufs pBuf = none
  segment : ∀ answer, answers.segment = some answer →
    ∀ segment ∈ state.segments, segment.pArena = heap.pImportArena →
      segment.base ≠ answer.base
  imported : ∀ answer mapping, answers.segment = some answer →
    answer.imported = some mapping → state.mappings answer.psMapping = none
  shared : ∀ answer, answers.segment = some answer →
    answer.imported = none →
    ∃ segment ∈ state.segments, segment.pArena = heap.pImportArena ∧
      segment.psMapping = answer.psMapping
  subHandle : ∀ subHandle, answers.subHandle = some subHandle →
    state.Unused (.area subHandle) ∧
      ∀ answer mapping, answers.segment = some answer →
        answer.imported = some mapping ∨
          state.mappings answer.psMapping = some mapping →
        subHandle ≠ mapping.hOSMemHandle
  pMapping : ∀ pMapping, answers.pMapping = some pMapping →
    state.mappings pMapping = none
  few : state.allocations.length + 1 < 2 ^ 32

/-- Memory for buffers and mappings, areas and device ranges are unused. -/
structure WrapEnabled (state : BmState) (answers : WrapAnswers) : Prop where
  pBuf : ∀ pBuf, answers.pBuf = some pBuf → state.bufs pBuf = none
  pMapping : ∀ pMapping, answers.pMapping = some pMapping →
    state.mappings pMapping = none
  area : ∀ hOSMemHandle, answers.hOSMemHandle = some hOSMemHandle →
    state.Unused (.area hOSMemHandle)
  range : ∀ devVAddr, answers.mmuAlloc = some devVAddr →
    state.Unused (.deviceRange devVAddr)
  subHandle : ∀ subHandle, answers.subHandle = some subHandle →
    state.Unused (.area subHandle) ∧ answers.hOSMemHandle ≠ some subHandle
  few : state.allocations.length + 1 < 2 ^ 32

/-- The flags tell `FreeBuf` what those that were handed out with the buffer
do. -/
def GivesBack (state : BmState) (hBuf : Address) (ui32Flags : BitVec 32) :
    Prop :=
  ui32Flags &&& pvrsrvMemRamBackedAllocation =
      state.handedFlags hBuf &&& pvrsrvMemRamBackedAllocation ∧
    ui32Flags &&& pvrsrvMemUserSuppliedDevvaddr =
      state.handedFlags hBuf &&& pvrsrvMemUserSuppliedDevvaddr

/-- Only outstanding allocations, wraps and exports are freed, with the flags
of their buffer, and there are fewer than 2^32 of them. -/
def Enabled (state : BmState) : BmOp → Prop
  | .alloc heap _ _ _ answers => state.AllocEnabled heap answers
  | .wrap _ _ _ _ _ _ _ answers => state.WrapEnabled answers
  | .export hBuf =>
    (hBuf ∈ state.allocations ∨ hBuf ∈ state.exports) ∧
      state.exports.length + 1 < 2 ^ 32
  | .freeExport hBuf ui32Flags _ =>
    hBuf ∈ state.exports ∧ state.GivesBack hBuf ui32Flags
  | .free hBuf ui32Flags _ =>
    hBuf ∈ state.allocations ∧ state.GivesBack hBuf ui32Flags

/-- The calls rely on what they may. -/
def EnabledRun : BmState → List BmOp → Prop
  | _, [] => True
  | state, op :: ops =>
    state.Enabled op ∧ ∀ after, state.step op = some after →
      after.EnabledRun ops

/-! ## The invariant -/

/-- The buffer was made by a wrap. -/
def Plain (state : BmState) (pBuf : Address) : Prop :=
  state.handedFlags pBuf &&& pvrsrvMemRamBackedAllocation = 0

/-- The segments of an arena differ in their bases, and an import belongs to
one arena, as long as it has segments. -/
structure Segmented
    (segments : List Segment) (mappings : Address → Option BmMapping) :
    Prop where
  distinct : segments.Nodup
  bases : ∀ first ∈ segments, ∀ second ∈ segments,
    first.pArena = second.pArena → first.base = second.base →
    first = second
  arenas : ∀ first ∈ segments, ∀ second ∈ segments,
    first.psMapping = second.psMapping → first.pArena = second.pArena
  imports : ∀ segment ∈ segments, (mappings segment.psMapping).isSome = true

/-- A buffer is a segment of the arena of its mapping, or its mapping is of no
arena. -/
def Placed (state : BmState) (buf : BmBuf) (mapping : BmMapping) : Prop :=
  match mapping.pArena with
  | none => ∀ segment ∈ state.segments, segment.psMapping ≠ buf.pMapping
  | some pArena => ⟨pArena, buf.devVAddr, buf.pMapping⟩ ∈ state.segments

/-- Counters count, buffers have live mappings, shared within arenas only, and
the hash table holds buffers whose wraps are outstanding. -/
structure Inv (state : BmState) : Prop where
  counted : ∀ pBuf buf, state.bufs pBuf = some buf →
    buf.ui32RefCount = state.allocations.count pBuf ∧
      buf.ui32ExportCount = state.exports.count pBuf
  alive : ∀ pBuf, pBuf ∈ state.allocations ∨ pBuf ∈ state.exports →
    (state.bufs pBuf).isSome = true
  few : state.allocations.length < 2 ^ 32 ∧ state.exports.length < 2 ^ 32
  segmented : Segmented state.segments state.mappings
  live : ∀ pBuf buf, state.bufs pBuf = some buf →
    ∃ mapping, state.mappings buf.pMapping = some mapping ∧
      state.Placed buf mapping
  wrapped : ∀ pBuf buf mapping, state.bufs pBuf = some buf →
    state.Plain pBuf → state.mappings buf.pMapping = some mapping →
    state.handedFlags pBuf &&& pvrsrvMemUserSuppliedDevvaddr = 0 ∧
      mapping.pArena = none ∧ mapping.eCpuMemoryOrigin.isWrapped = true
  exclusive : ∀ first second buf other, state.bufs first = some buf →
    state.bufs second = some other → buf.pMapping = other.pMapping →
    first = second ∨ buf.devVAddr ≠ other.devVAddr ∧
      ∃ mapping, state.mappings buf.pMapping = some mapping ∧
        mapping.pArena ≠ none
  keys : (state.pBufferHash.map Prod.fst).Nodup
  entries : ∀ key pBuf, (key, pBuf) ∈ state.pBufferHash →
    state.Plain pBuf ∧ pBuf ∈ state.allocations ∧
      ∃ buf mapping, state.bufs pBuf = some buf ∧
        state.mappings buf.pMapping = some mapping ∧
        mapping.eCpuMemoryOrigin.isCached = true ∧ buf.cpuPAddr = key

/-- The ledger is only a record. -/
theorem Inv.recorded
    (inv : state.Inv)
    (acquired released : List Resource) :
    ({ state with acquired, released } : BmState).Inv :=
  ⟨inv.counted, inv.alive, inv.few, inv.segmented, inv.live, inv.wrapped,
    inv.exclusive, inv.keys, inv.entries⟩

/-! ## Buffers come and go -/

theorem Placed.congr
    {old : BmBuf}
    (placed : state.Placed old mapping)
    (sameMapping : buf.pMapping = old.pMapping)
    (sameRange : buf.devVAddr = old.devVAddr) :
    state.Placed buf mapping := by
  unfold Placed at placed ⊢
  rw [sameMapping, sameRange]
  exact placed

section

variable (inv : state.Inv)
include inv

/-- Calls that make no buffers, and leave those that stay their mappings. -/
theorem Inv.keep
    (bufs : ∀ pBuf buf, after.bufs pBuf = some buf →
      ∃ old, state.bufs pBuf = some old ∧ buf.pMapping = old.pMapping ∧
        buf.devVAddr = old.devVAddr ∧ buf.cpuPAddr = old.cpuPAddr)
    (flags : after.handedFlags = state.handedFlags)
    (mappings : ∀ pBuf buf, after.bufs pBuf = some buf →
      after.mappings buf.pMapping = state.mappings buf.pMapping)
    (placed : ∀ pBuf buf mapping, after.bufs pBuf = some buf →
      state.mappings buf.pMapping = some mapping →
      state.Placed buf mapping → after.Placed buf mapping)
    (segmented : Segmented after.segments after.mappings)
    (counted : ∀ pBuf buf, after.bufs pBuf = some buf →
      buf.ui32RefCount = after.allocations.count pBuf ∧
        buf.ui32ExportCount = after.exports.count pBuf)
    (alive : ∀ pBuf, pBuf ∈ after.allocations ∨ pBuf ∈ after.exports →
      (after.bufs pBuf).isSome = true)
    (few : after.allocations.length < 2 ^ 32 ∧
      after.exports.length < 2 ^ 32)
    (hash : after.pBufferHash.Sublist state.pBufferHash)
    (waiting : ∀ entry ∈ after.pBufferHash, entry.2 ∈ after.allocations) :
    after.Inv where
  counted := counted
  alive := alive
  few := few
  segmented := segmented
  live := by
    intro pBuf buf isBuf
    obtain ⟨old, isOld, sameMapping, sameRange, _⟩ := bufs pBuf buf isBuf
    obtain ⟨mapping, isMapping, wasPlaced⟩ := inv.live pBuf old isOld
    rw [← sameMapping] at isMapping
    exact ⟨mapping, (mappings pBuf buf isBuf).trans isMapping,
      placed pBuf buf mapping isBuf isMapping
        (wasPlaced.congr sameMapping sameRange)⟩
  wrapped := by
    intro pBuf buf mapping isBuf plain isMapping
    obtain ⟨old, isOld, sameMapping, _⟩ := bufs pBuf buf isBuf
    rw [mappings pBuf buf isBuf, sameMapping] at isMapping
    rw [Plain, flags] at plain
    rw [flags]
    exact inv.wrapped pBuf old mapping isOld plain isMapping
  exclusive := by
    intro first second buf other isBuf isOther same
    obtain ⟨old, isOld, sameMapping, sameRange, _⟩ := bufs first buf isBuf
    obtain ⟨older, isOlder, otherMapping, otherRange, _⟩ :=
      bufs second other isOther
    rw [mappings first buf isBuf, sameMapping, sameRange, otherRange]
    apply inv.exclusive first second old older isOld isOlder
    rw [← sameMapping, ← otherMapping]
    exact same
  keys := inv.keys.sublist (hash.map Prod.fst)
  entries := by
    intro key pBuf member
    have outstanding := waiting _ member
    obtain ⟨plain, _, old, mapping, isOld, isMapping, isCached, atKey⟩ :=
      inv.entries key pBuf (hash.subset member)
    obtain ⟨buf, isBuf⟩ :=
      Option.isSome_iff_exists.mp (alive pBuf (Or.inl outstanding))
    obtain ⟨older, isOlder, sameMapping, _, sameAddr⟩ := bufs pBuf buf isBuf
    rw [isOld] at isOlder
    cases isOlder
    refine ⟨?_, outstanding, buf, mapping, isBuf, ?_, isCached, ?_⟩
    · rw [Plain, flags]
      exact plain
    · rw [mappings pBuf buf isBuf, sameMapping]
      exact isMapping
    · rw [sameAddr]
      exact atKey

variable {mapping : BmMapping} {pBuf : Address}

/-- A new buffer. -/
theorem Inv.handOut
    {buf : BmBuf}
    {flags : BitVec 32}
    (fresh : state.bufs pBuf = none)
    (few : state.allocations.length + 1 < 2 ^ 32)
    (one : buf.ui32RefCount = 1)
    (none : buf.ui32ExportCount = 0)
    (isMapping : state.mappings buf.pMapping = some mapping)
    (placed : state.Placed buf mapping)
    (wrapped : flags &&& pvrsrvMemRamBackedAllocation = 0 →
      flags &&& pvrsrvMemUserSuppliedDevvaddr = 0 ∧
        mapping.pArena = Option.none ∧
        mapping.eCpuMemoryOrigin.isWrapped = true)
    (own : ∀ other value, state.bufs other = some value →
      value.pMapping = buf.pMapping →
      value.devVAddr ≠ buf.devVAddr ∧ mapping.pArena ≠ Option.none) :
    (state.handOut pBuf buf flags).Inv := by
  have self : (state.handOut pBuf buf flags).bufs pBuf = some buf :=
    update_self pBuf _ _
  have selfFlags : (state.handOut pBuf buf flags).handedFlags pBuf = flags :=
    update_self pBuf _ _
  have others : ∀ other, other ≠ pBuf →
      (state.handOut pBuf buf flags).bufs other = state.bufs other :=
    fun _ different => update_of_ne different _ _
  have otherFlags : ∀ other, other ≠ pBuf →
      (state.handOut pBuf buf flags).handedFlags other =
        state.handedFlags other :=
    fun _ different => update_of_ne different _ _
  have newOrOld : ∀ other value,
      (state.handOut pBuf buf flags).bufs other = some value →
      other = pBuf ∧ value = buf ∨
        other ≠ pBuf ∧ state.bufs other = some value := by
    intro other value isValue
    by_cases isNew : other = pBuf
    · rw [isNew, self] at isValue
      exact Or.inl ⟨isNew, (Option.some.inj isValue).symm⟩
    · rw [others other isNew] at isValue
      exact Or.inr ⟨isNew, isValue⟩
  have absent : pBuf ∉ state.allocations ∧ pBuf ∉ state.exports := by
    refine not_or.mp fun outstanding => ?_
    have live := inv.alive pBuf outstanding
    rw [fresh] at live
    cases live
  constructor
  · intro other value isValue
    rcases newOrOld other value isValue with ⟨rfl, rfl⟩ | ⟨isOld, isValue⟩
    · rw [one, none]
      constructor
      · exact (List.count_cons_self.trans
          (by rw [List.count_eq_zero_of_not_mem absent.1])).symm
      · exact (List.count_eq_zero_of_not_mem absent.2).symm
    · obtain ⟨refs, exports⟩ := inv.counted other value isValue
      refine ⟨refs.trans ?_, exports⟩
      exact (List.count_cons_of_ne isOld.symm).symm
  · intro other outstanding
    by_cases isNew : other = pBuf
    · rw [isNew, self]
      rfl
    · rw [others other isNew]
      apply inv.alive other
      exact outstanding.imp_left fun allocated =>
        (mem_cons.mp allocated).resolve_left isNew
  · exact ⟨few, inv.few.2⟩
  · exact inv.segmented
  · intro other value isValue
    rcases newOrOld other value isValue with ⟨rfl, rfl⟩ | ⟨_, isValue⟩
    · exact ⟨mapping, isMapping, placed⟩
    · exact inv.live other value isValue
  · intro other value found isValue plain isFound
    rcases newOrOld other value isValue with ⟨rfl, rfl⟩ | ⟨isOld, isValue⟩
    · have same := Option.some.inj (isMapping.symm.trans isFound)
      rw [Plain, selfFlags] at plain
      rw [selfFlags, ← same]
      exact wrapped plain
    · rw [Plain, otherFlags other isOld] at plain
      rw [otherFlags other isOld]
      exact inv.wrapped other value found isValue plain isFound
  · intro first second value other isValue isOther same
    rcases newOrOld first value isValue with ⟨rfl, rfl⟩ | ⟨_, isOld⟩
    · rcases newOrOld second other isOther with ⟨rfl, _⟩ | ⟨_, isOther⟩
      · exact Or.inl rfl
      · obtain ⟨different, arena⟩ := own second other isOther same.symm
        exact Or.inr ⟨different.symm, mapping, isMapping, arena⟩
    · rcases newOrOld second other isOther with ⟨rfl, rfl⟩ | ⟨_, isOther⟩
      · obtain ⟨different, arena⟩ := own first value isOld same
        refine Or.inr ⟨different, mapping, ?_, arena⟩
        rw [same]
        exact isMapping
      · exact inv.exclusive first second value other isOld isOther same
  · exact inv.keys
  · intro key other member
    obtain ⟨plain, allocated, value, found, isValue, rest⟩ :=
      inv.entries key other member
    have isOld : other ≠ pBuf := by
      rintro rfl
      exact absent.1 allocated
    refine ⟨?_, List.mem_cons_of_mem pBuf allocated, value, found, ?_, rest⟩
    · rw [Plain, otherFlags other isOld]
      exact plain
    · rw [others other isOld]
      exact isValue

/-- A new entry of the hash table. -/
theorem Inv.insert
    {key : BitVec 64}
    {buf : BmBuf}
    (absent : ∀ entry ∈ state.pBufferHash, entry.1 ≠ key)
    (plain : state.Plain pBuf)
    (allocated : pBuf ∈ state.allocations)
    (isBuf : state.bufs pBuf = some buf)
    (isMapping : state.mappings buf.pMapping = some mapping)
    (cached : mapping.eCpuMemoryOrigin.isCached = true)
    (atKey : buf.cpuPAddr = key) :
    ({ state with
      pBufferHash := (key, pBuf) :: state.pBufferHash } : BmState).Inv where
  counted := inv.counted
  alive := inv.alive
  few := inv.few
  segmented := inv.segmented
  live := inv.live
  wrapped := inv.wrapped
  exclusive := inv.exclusive
  keys := by
    refine List.nodup_cons.mpr ⟨?_, inv.keys⟩
    intro member
    obtain ⟨entry, inHash, same⟩ := List.mem_map.mp member
    exact absent entry inHash same
  entries := by
    intro other address member
    rcases mem_cons.mp member with isNew | member
    · cases isNew
      exact ⟨plain, allocated, buf, mapping, isBuf, isMapping, cached, atKey⟩
    · exact inv.entries other address member

/-- Fewer entries of the hash table. -/
theorem Inv.hashRemove
    (key : BitVec 64) :
    (state.hashRemove key).Inv where
  counted := inv.counted
  alive := inv.alive
  few := inv.few
  segmented := inv.segmented
  live := inv.live
  wrapped := inv.wrapped
  exclusive := inv.exclusive
  keys := inv.keys.sublist (List.filter_sublist.map Prod.fst)
  entries := fun other pBuf member =>
    inv.entries other pBuf (List.mem_of_mem_filter member)

/-- Calls that count for one buffer. -/
theorem Inv.update
    {changed : BmBuf}
    (isBuf : state.bufs pBuf = some buf)
    (bufs : after.bufs = Function.update state.bufs pBuf (some changed))
    (same : changed.pMapping = buf.pMapping ∧
      changed.devVAddr = buf.devVAddr ∧ changed.cpuPAddr = buf.cpuPAddr)
    (rest : after.handedFlags = state.handedFlags ∧
      after.mappings = state.mappings ∧ after.segments = state.segments)
    (counted : changed.ui32RefCount = after.allocations.count pBuf ∧
      changed.ui32ExportCount = after.exports.count pBuf)
    (others : ∀ other, other ≠ pBuf →
      after.allocations.count other = state.allocations.count other ∧
        after.exports.count other = state.exports.count other)
    (few : after.allocations.length < 2 ^ 32 ∧
      after.exports.length < 2 ^ 32)
    (hash : after.pBufferHash.Sublist state.pBufferHash)
    (waiting : ∀ entry ∈ after.pBufferHash, entry.2 = pBuf →
      pBuf ∈ after.allocations) :
    after.Inv := by
  obtain ⟨flags, mappings, segments⟩ := rest
  have member_iff : ∀ other, other ≠ pBuf →
      (other ∈ after.allocations ↔ other ∈ state.allocations) ∧
        (other ∈ after.exports ↔ other ∈ state.exports) := by
    intro other different
    obtain ⟨allocations, exports⟩ := others other different
    rw [← count_pos_iff, ← count_pos_iff, allocations,
      ← count_pos_iff, ← count_pos_iff, exports]
    exact ⟨Iff.rfl, Iff.rfl⟩
  refine inv.keep ?_ flags (fun _ _ _ => by rw [mappings]) ?_ ?_ ?_ ?_ few
    hash ?_
  · intro other value isValue
    rw [bufs] at isValue
    by_cases isChanged : other = pBuf
    · rw [isChanged, update_self] at isValue
      cases isValue
      exact ⟨buf, isChanged ▸ isBuf, same⟩
    · rw [update_of_ne isChanged] at isValue
      exact ⟨value, isValue, rfl, rfl, rfl⟩
  · intro other value mapping _ _ placed
    unfold Placed
    rw [segments]
    exact placed
  · rw [segments, mappings]
    exact inv.segmented
  · intro other value isValue
    rw [bufs] at isValue
    by_cases isChanged : other = pBuf
    · rw [isChanged, update_self] at isValue
      cases isValue
      rw [isChanged]
      exact counted
    · rw [update_of_ne isChanged] at isValue
      rw [(others other isChanged).1, (others other isChanged).2]
      exact inv.counted other value isValue
  · intro other outstanding
    rw [bufs]
    by_cases isChanged : other = pBuf
    · rw [isChanged, update_self]
      rfl
    · rw [update_of_ne isChanged]
      rw [(member_iff other isChanged).1, (member_iff other isChanged).2]
        at outstanding
      exact inv.alive other outstanding
  · intro entry member
    by_cases isChanged : entry.2 = pBuf
    · rw [isChanged]
      exact waiting entry member isChanged
    · rw [(member_iff entry.2 isChanged).1]
      exact (inv.entries entry.1 entry.2 (hash.subset member)).2.1

/-- Calls that free a buffer without references. -/
theorem Inv.drop
    (isBuf : state.bufs pBuf = some buf)
    (last : buf.ui32ExportCount = 0 ∧ buf.ui32RefCount = 0)
    (bufs : after.bufs = Function.update state.bufs pBuf none)
    (rest : after.handedFlags = state.handedFlags ∧
      after.allocations = state.allocations ∧
        after.exports = state.exports ∧ after.pBufferHash = state.pBufferHash)
    (mappings : ∀ other value, state.bufs other = some value →
      other ≠ pBuf →
      after.mappings value.pMapping = state.mappings value.pMapping)
    (placed : ∀ other value mapping, state.bufs other = some value →
      other ≠ pBuf → state.mappings value.pMapping = some mapping →
      state.Placed value mapping → after.Placed value mapping)
    (segmented : Segmented after.segments after.mappings) :
    after.Inv := by
  obtain ⟨flags, allocations, exports, hash⟩ := rest
  have stays : ∀ other value, after.bufs other = some value →
      state.bufs other = some value ∧ other ≠ pBuf := by
    intro other value isValue
    rw [bufs] at isValue
    by_cases isGone : other = pBuf
    · rw [isGone, update_self] at isValue
      cases isValue
    · rw [update_of_ne isGone] at isValue
      exact ⟨isValue, isGone⟩
  refine inv.keep ?_ flags ?_ ?_ segmented ?_ ?_ ?_ ?_ ?_
  · exact fun other value isValue =>
      ⟨value, (stays other value isValue).1, rfl, rfl, rfl⟩
  · intro other value isValue
    obtain ⟨isOld, left⟩ := stays other value isValue
    exact mappings other value isOld left
  · intro other value mapping isValue
    obtain ⟨isOld, left⟩ := stays other value isValue
    exact placed other value mapping isOld left
  · rw [allocations, exports]
    exact fun other value isValue =>
      inv.counted other value (stays other value isValue).1
  · rw [allocations, exports]
    intro other outstanding
    obtain ⟨refs, exported⟩ := inv.counted pBuf buf isBuf
    rw [last.1] at exported
    rw [last.2] at refs
    have left : other ≠ pBuf := by
      rintro rfl
      exact outstanding.elim (List.count_eq_zero.mp refs.symm)
        (List.count_eq_zero.mp exported.symm)
    rw [bufs, update_of_ne left]
    exact inv.alive other outstanding
  · rw [allocations, exports]
    exact inv.few
  · rw [hash]
  · rw [hash, allocations]
    exact fun entry member => (inv.entries entry.1 entry.2 member).2.1

/-- The counters of a buffer are small. -/
theorem Inv.counters_lt
    (isBuf : state.bufs pBuf = some buf) :
    buf.ui32RefCount ≤ state.allocations.length ∧
      buf.ui32ExportCount ≤ state.exports.length := by
  obtain ⟨refs, exports⟩ := inv.counted pBuf buf isBuf
  rw [refs, exports]
  exact ⟨List.count_le_length, List.count_le_length⟩

end

/-! ## Segments and mappings -/

/-- What calls that hand out no buffer leave alone. -/
structure Spares (state after : BmState) : Prop where
  bufs : after.bufs = state.bufs
  pBufferHash : after.pBufferHash = state.pBufferHash
  allocations : after.allocations = state.allocations
  exports : after.exports = state.exports
  handedFlags : after.handedFlags = state.handedFlags
  mappings : ∀ pBuf buf, state.bufs pBuf = some buf →
    after.mappings buf.pMapping = state.mappings buf.pMapping
  placed : ∀ pBuf buf mapping, state.bufs pBuf = some buf →
    state.mappings buf.pMapping = some mapping →
    state.Placed buf mapping → after.Placed buf mapping
  segmented : Segmented after.segments after.mappings

theorem Spares.inv
    (spares : Spares state after)
    (inv : state.Inv) :
    after.Inv := by
  refine inv.keep ?_ spares.handedFlags ?_ ?_ spares.segmented ?_ ?_ ?_ ?_ ?_
  · intro pBuf buf isBuf
    rw [spares.bufs] at isBuf
    exact ⟨buf, isBuf, rfl, rfl, rfl⟩
  · rw [spares.bufs]
    exact spares.mappings
  · rw [spares.bufs]
    exact spares.placed
  · rw [spares.bufs, spares.allocations, spares.exports]
    exact inv.counted
  · rw [spares.bufs, spares.allocations, spares.exports]
    exact inv.alive
  · rw [spares.allocations, spares.exports]
    exact inv.few
  · rw [spares.pBufferHash]
  · rw [spares.pBufferHash, spares.allocations]
    intro entry member
    exact (inv.entries entry.1 entry.2 member).2.1

theorem Spares.refl
    (inv : state.Inv) :
    Spares state state :=
  ⟨rfl, rfl, rfl, rfl, rfl, fun _ _ _ => rfl, fun _ _ _ _ _ placed => placed,
    inv.segmented⟩

theorem Spares.trans
    {middle : BmState}
    (first : Spares state middle)
    (second : Spares middle after) :
    Spares state after where
  bufs := second.bufs.trans first.bufs
  pBufferHash := second.pBufferHash.trans first.pBufferHash
  allocations := second.allocations.trans first.allocations
  exports := second.exports.trans first.exports
  handedFlags := second.handedFlags.trans first.handedFlags
  mappings := by
    intro pBuf buf isBuf
    have still := first.mappings pBuf buf isBuf
    rw [← first.bufs] at isBuf
    exact (second.mappings pBuf buf isBuf).trans still
  placed := by
    intro pBuf buf mapping isBuf isMapping placed
    have isMiddle := first.mappings pBuf buf isBuf
    have once := first.placed pBuf buf mapping isBuf isMapping placed
    rw [← first.bufs] at isBuf
    exact second.placed pBuf buf mapping isBuf (isMiddle.trans isMapping) once
  segmented := second.segmented

theorem Spares.recorded
    (spares : Spares state after)
    (acquired released : List Resource) :
    Spares state { after with acquired, released } :=
  ⟨spares.bufs, spares.pBufferHash, spares.allocations, spares.exports,
    spares.handedFlags, spares.mappings, spares.placed, spares.segmented⟩

/-- One more segment, with a base of its own. -/
theorem Segmented.cons
    {segments : List Segment}
    {mappings changed : Address → Option BmMapping}
    {new : Segment}
    (segmented : Segmented segments mappings)
    (base : ∀ segment ∈ segments, segment.pArena = new.pArena →
      segment.base ≠ new.base)
    (arena : ∀ segment ∈ segments, segment.psMapping = new.psMapping →
      segment.pArena = new.pArena)
    (imports : ∀ segment ∈ new :: segments,
      (changed segment.psMapping).isSome = true) :
    Segmented (new :: segments) changed where
  distinct := by
    refine List.nodup_cons.mpr ⟨?_, segmented.distinct⟩
    exact fun member => base new member rfl rfl
  bases := by
    intro first inFirst second inSecond sameArena sameBase
    rcases mem_cons.mp inFirst with rfl | wasFirst
    · rcases mem_cons.mp inSecond with rfl | wasSecond
      · rfl
      · exact absurd sameBase.symm (base second wasSecond sameArena.symm)
    · rcases mem_cons.mp inSecond with rfl | wasSecond
      · exact absurd sameBase (base first wasFirst sameArena)
      · exact segmented.bases first wasFirst second wasSecond sameArena
          sameBase
  arenas := by
    intro first inFirst second inSecond same
    rcases mem_cons.mp inFirst with rfl | wasFirst
    · rcases mem_cons.mp inSecond with rfl | wasSecond
      · rfl
      · exact (arena second wasSecond same.symm).symm
    · rcases mem_cons.mp inSecond with rfl | wasSecond
      · exact arena first wasFirst same
      · exact segmented.arenas first wasFirst second wasSecond same
  imports := imports

/-- A new segment. -/
theorem Inv.raAlloc
    (inv : state.Inv)
    {heap : BmHeap}
    {answers : AllocAnswers}
    {answer : SegmentAnswer}
    (enabled : state.AllocEnabled heap answers)
    (isAnswer : answers.segment = some answer) :
    Spares state (state.raAlloc heap.pImportArena answer) := by
  -- nothing of no arena is part of the import
  have spares : ∀ mappings : Address → Option BmMapping,
      (state.raAlloc heap.pImportArena answer).mappings = mappings →
      (∀ pBuf buf, state.bufs pBuf = some buf →
        mappings buf.pMapping = state.mappings buf.pMapping) →
      (∀ pBuf buf mapping, state.bufs pBuf = some buf →
        state.mappings buf.pMapping = some mapping →
        state.Placed buf mapping → mapping.pArena = none →
        answer.psMapping ≠ buf.pMapping) →
      (∀ segment ∈ state.segments, segment.psMapping = answer.psMapping →
        segment.pArena = heap.pImportArena) →
      (∀ segment ∈ state.segments,
        (mappings segment.psMapping).isSome = true) →
      (mappings answer.psMapping).isSome = true →
      Spares state (state.raAlloc heap.pImportArena answer) := by
    intro mappings isMappings same apart arena imports new
    refine ⟨rfl, rfl, rfl, rfl, rfl, ?_, ?_, ?_⟩
    · rw [isMappings]
      exact same
    · intro pBuf buf mapping isBuf isMapping placed
      have away := apart pBuf buf mapping isBuf isMapping placed
      unfold Placed at placed ⊢
      cases isArena : mapping.pArena with
      | none =>
        rw [isArena] at placed
        intro segment member
        rcases mem_cons.mp member with rfl | member
        · exact away isArena
        · exact placed segment member
      | some pArena =>
        rw [isArena] at placed
        exact List.mem_cons_of_mem _ placed
    · rw [isMappings]
      refine inv.segmented.cons (enabled.segment answer isAnswer) arena ?_
      intro segment member
      rcases mem_cons.mp member with rfl | member
      · exact new
      · exact imports segment member
  cases imported : answer.imported with
  | none =>
    obtain ⟨shared, inSegments, sameArena, sameMapping⟩ :=
      enabled.shared answer isAnswer imported
    apply spares state.mappings
    · unfold BmState.raAlloc
      rw [imported]
    · exact fun _ _ _ => rfl
    · intro pBuf buf mapping isBuf isMapping placed isNone
      unfold Placed at placed
      rw [isNone] at placed
      rw [← sameMapping]
      exact placed shared inSegments
    · intro segment member same
      rw [← sameArena]
      exact inv.segmented.arenas segment member shared inSegments
        (same.trans sameMapping.symm)
    · exact inv.segmented.imports
    · rw [← sameMapping]
      exact inv.segmented.imports shared inSegments
  | some import' =>
    have isNew := enabled.imported answer import' isAnswer imported
    have apart : ∀ segment ∈ state.segments,
        segment.psMapping ≠ answer.psMapping := by
      intro segment member same
      have live := inv.segmented.imports segment member
      rw [same, isNew] at live
      cases live
    have others : ∀ pBuf buf, state.bufs pBuf = some buf →
        buf.pMapping ≠ answer.psMapping := by
      intro pBuf buf isBuf same
      obtain ⟨mapping, isMapping, _⟩ := inv.live pBuf buf isBuf
      rw [same, isNew] at isMapping
      cases isMapping
    apply spares (Function.update state.mappings answer.psMapping
      (some import'))
    · unfold BmState.raAlloc
      rw [imported]
    · exact fun pBuf buf isBuf => update_of_ne (others pBuf buf isBuf) _ _
    · exact fun pBuf buf _ isBuf _ _ _ => (others pBuf buf isBuf).symm
    · exact fun segment member same => absurd same (apart segment member)
    · intro segment member
      rw [update_of_ne (apart segment member)]
      exact inv.segmented.imports segment member
    · rw [update_self, Option.isSome_some]

/-- `AllocMemory` enters the arena into the mapping of a segment. -/
theorem Inv.setArena
    (inv : state.Inv)
    (member : segment ∈ state.segments)
    (isMapping : state.mappings segment.psMapping = some mapping) :
    Spares state (state.setMapping segment.psMapping
      { mapping with pArena := some segment.pArena }) := by
  refine ⟨rfl, rfl, rfl, rfl, rfl, ?_, fun _ _ _ _ _ placed => placed, ?_⟩
  · intro pBuf buf isBuf
    unfold setMapping
    by_cases same : buf.pMapping = segment.psMapping
    · -- the buffer is of the same arena
      obtain ⟨found, isFound, placed⟩ := inv.live pBuf buf isBuf
      rw [same, isMapping] at isFound
      cases isFound
      rw [same, isMapping]
      refine (update_self segment.psMapping _ _).trans ?_
      unfold Placed at placed
      cases isArena : mapping.pArena with
      | none =>
        rw [isArena] at placed
        exact absurd same.symm (placed segment member)
      | some pArena =>
        rw [isArena] at placed
        have sameArena : pArena = segment.pArena :=
          inv.segmented.arenas _ placed segment member same
        rw [← sameArena, ← isArena]
    · exact update_of_ne same _ _
  · refine ⟨inv.segmented.distinct, inv.segmented.bases,
      inv.segmented.arenas, ?_⟩
    intro other inSegments
    unfold setMapping
    by_cases same : other.psMapping = segment.psMapping
    · rw [same]
      simp only [update_self, Option.isSome_some]
    · simp only [update_of_ne same]
      exact inv.segmented.imports other inSegments

/-- A new mapping, for a buffer that is no segment. -/
theorem Inv.newMapping
    (inv : state.Inv)
    {pMapping : Address}
    (isNew : state.mappings pMapping = none)
    (mapping : BmMapping) :
    Spares state (state.setMapping pMapping mapping) ∧
      (∀ segment ∈ state.segments, segment.psMapping ≠ pMapping) ∧
      ∀ pBuf buf, state.bufs pBuf = some buf → buf.pMapping ≠ pMapping := by
  have apart : ∀ segment ∈ state.segments,
      segment.psMapping ≠ pMapping := by
    intro segment member same
    have live := inv.segmented.imports segment member
    rw [same, isNew] at live
    cases live
  have others : ∀ pBuf buf, state.bufs pBuf = some buf →
      buf.pMapping ≠ pMapping := by
    intro pBuf buf isBuf same
    obtain ⟨found, isFound, _⟩ := inv.live pBuf buf isBuf
    rw [same, isNew] at isFound
    cases isFound
  refine ⟨⟨rfl, rfl, rfl, rfl, rfl, ?_, fun _ _ _ _ _ placed => placed, ?_⟩,
    apart, others⟩
  · exact fun pBuf buf isBuf => update_of_ne (others pBuf buf isBuf) _ _
  · refine ⟨inv.segmented.distinct, inv.segmented.bases,
      inv.segmented.arenas, ?_⟩
    intro segment member
    unfold setMapping
    simp only [update_of_ne (apart segment member)]
    exact inv.segmented.imports segment member

/-- `RA_Free` finds the segment. -/
theorem raFree_eq
    (segmented : Segmented state.segments state.mappings)
    (member : segment ∈ state.segments) :
    state.raFree (some segment.pArena) segment.base =
      { state with
        segments := state.segments.erase segment
        mappings :=
          if (state.segments.erase segment).any fun other =>
              other.psMapping = segment.psMapping then
            state.mappings
          else Function.update state.mappings segment.psMapping none
        released := .segment segment.pArena segment.base ::
          state.released } := by
  have found : state.segments.find? (fun other =>
      other.pArena = segment.pArena ∧ other.base = segment.base) =
        some segment := by
    cases search : state.segments.find? fun other =>
        other.pArena = segment.pArena ∧ other.base = segment.base with
    | none =>
      have fails := List.find?_eq_none.mp search segment member
      exact absurd (decide_eq_true ⟨rfl, rfl⟩) fails
    | some other =>
      have test := List.find?_some search
      rw [decide_eq_true_iff] at test
      rw [segmented.bases other (List.mem_of_find?_eq_some search) segment
        member test.1 test.2]
  unfold raFree
  simp only [found]

/-- Freeing a segment leaves the other segments their imports. -/
theorem Segmented.erase
    (segmented : Segmented state.segments state.mappings)
    (segment : Segment) :
    Segmented (state.segments.erase segment)
      (if (state.segments.erase segment).any fun other =>
          other.psMapping = segment.psMapping then
        state.mappings
      else Function.update state.mappings segment.psMapping none) := by
  refine ⟨segmented.distinct.erase segment, ?_, ?_, ?_⟩
  · exact fun first inFirst second inSecond =>
      segmented.bases first (mem_of_mem_erase inFirst) second
        (mem_of_mem_erase inSecond)
  · exact fun first inFirst second inSecond =>
      segmented.arenas first (mem_of_mem_erase inFirst) second
        (mem_of_mem_erase inSecond)
  · intro other member
    have live := segmented.imports other (mem_of_mem_erase member)
    split_ifs with shared
    · exact live
    · rw [update_of_ne]
      · exact live
      · intro same
        exact shared (List.any_eq_true.mpr
          ⟨other, member, decide_eq_true same⟩)

end BmState

end PvrServices.BufferManager
