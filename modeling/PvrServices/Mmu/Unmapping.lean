import PvrServices.Mmu.Coverage
import Mathlib.Algebra.Order.BigOperators.Group.Finset

/-!
# Unmapping a range of pages

`MMU_UnmapPagesAndFreePTs` goes through a range page by page.  A page table of
the range that has no valid entry left is given back, and the pages after it
find no table.  Where a table's record has no page the loop goes on without
moving its address, so that what follows in the range is not unmapped.
-/

namespace PvrServices.Mmu

open Finset (card_le_card mem_filter mem_insert mem_range notMem_empty)

/-! ## Pages of a range -/

section

variable (heap : MmuHeap) (sDevVAddr : BitVec 32)

/-- The device address of a page of a range. -/
def MmuHeap.pageAddress
    (page : Nat) :
    BitVec 32 :=
  sDevVAddr + heap.ui32DataPageSize * BitVec.ofNat 32 page

/-- The directory slot of a page of a range. -/
def MmuHeap.pageSlot
    (page : Nat) :
    Nat :=
  heap.pdIndex (heap.pageAddress sDevVAddr page)

/-- The entry, in its page table, of a page of a range. -/
def MmuHeap.pageEntry
    (page : Nat) :
    Nat :=
  heap.ptIndex (heap.pageAddress sDevVAddr page)

/-- Some page of a range is in a directory slot. -/
def MmuHeap.Touches
    (count index : Nat) :
    Prop :=
  ∃ page < count, heap.pageSlot sDevVAddr page = index

/-- An entry of a page table is that of some page of a range. -/
def MmuHeap.InRange
    (count index entry : Nat) :
    Prop :=
  ∃ page < count, heap.pageSlot sDevVAddr page = index ∧
    heap.pageEntry sDevVAddr page = entry

end

instance
    (heap : MmuHeap)
    (sDevVAddr : BitVec 32)
    (count index : Nat) :
    Decidable (heap.Touches sDevVAddr count index) :=
  inferInstanceAs (Decidable (∃ page < count, _))

instance
    (heap : MmuHeap)
    (sDevVAddr : BitVec 32)
    (count index entry : Nat) :
    Decidable (heap.InRange sDevVAddr count index entry) :=
  inferInstanceAs (Decidable (∃ page < count, _))

/-- The valid entries of a page table. -/
def PtPage.validEntries (page : PtPage) : Finset Nat :=
  (Finset.range 1024).filter fun entry =>
    page.entries entry &&& sgxMmuPteValid ≠ 0

/-- The valid entries of a page table that are not in a range. -/
def MmuHeap.validLeft
    (heap : MmuHeap)
    (sDevVAddr : BitVec 32)
    (count index : Nat)
    (page : PtPage) :
    Finset Nat :=
  page.validEntries.filter
    fun entry => ¬ heap.InRange sDevVAddr count index entry

/-- The page table that a context has at an index. -/
def MmuState.ptPage
    (state : MmuState)
    (psMMUContext index : Nat) :
    Option PtPage :=
  (state.apsPTInfoList psMMUContext index).bind MmuPtInfo.page

/-- The slots of a range whose page tables are left without valid entries. -/
def MmuState.freedSlots
    (state : MmuState)
    (heap : MmuHeap)
    (sDevVAddr : BitVec 32)
    (count : Nat) :
    Finset Nat :=
  (Finset.range 1024).filter fun index =>
    heap.Touches sDevVAddr count index ∧
      ∃ page ∈ state.ptPage heap.psMMUContext index,
        heap.validLeft sDevVAddr count index page = ∅

/-! ## Exactness -/

/-- What unmapping a range is for: its entries are not valid any more, its page
tables without valid entries are given back, and nothing else changes. -/
structure RangeUnmapped
    (state next : MmuState)
    (heap : MmuHeap)
    (sDevVAddr : BitVec 32)
    (count : Nat) :
    Prop where
  freed : ∀ index ∈ state.freedSlots heap sDevVAddr count,
    next.apsPTInfoList heap.psMMUContext index = none
  unmapped : ∀ index page ui32ValidPTECount,
    heap.Touches sDevVAddr count index →
    index ∉ state.freedSlots heap sDevVAddr count →
    state.apsPTInfoList heap.psMMUContext index =
      some ⟨some page, ui32ValidPTECount⟩ →
    ∃ entries,
      next.apsPTInfoList heap.psMMUContext index =
        some ⟨some { page with entries },
          BitVec.ofNat 32 (heap.validLeft sDevVAddr count index page).card⟩ ∧
      ∀ entry, if heap.InRange sDevVAddr count index entry then
        entries entry &&& sgxMmuPteValid = 0
        else entries entry = page.entries entry
  untouched : ∀ index,
    ¬ heap.Touches sDevVAddr count index ∨
      state.ptPage heap.psMMUContext index = none →
    next.apsPTInfoList heap.psMMUContext index =
      state.apsPTInfoList heap.psMMUContext index
  elsewhere : ∀ context, context ≠ heap.psMMUContext →
    next.apsPTInfoList context = state.apsPTInfoList context
  directories : ∀ context index,
    next.pvPDCpuVAddr context index =
      if heap.Reaches state.pvMMUContextList context ∧
        index ∈ state.freedSlots heap sDevVAddr count then 0
      else state.pvPDCpuVAddr context index
  pages : (next.pageTables : Multiset (BitVec 64)) =
    state.pageTables - (state.freedSlots heap sDevVAddr count).val.filterMap
      (state.pageAt heap.psMMUContext)

section

variable (state : MmuState) (heap : MmuHeap) (sDevVAddr : BitVec 32)

/-- The counts of the page tables of a range are those of their valid entries,
which `CheckPT` tests. -/
def CountsRight
    (count : Nat) :
    Prop :=
  ∀ index page ui32ValidPTECount,
    heap.Touches sDevVAddr count index →
    state.apsPTInfoList heap.psMMUContext index =
      some ⟨some page, ui32ValidPTECount⟩ →
    ui32ValidPTECount = BitVec.ofNat 32 page.validEntries.card

/-- After a page whose table has a record and no page there is nothing to do:
the later entries of the range are not valid, and their page tables keep valid
entries. -/
def HolesHarmless
    (count : Nat) :
    Prop :=
  ∀ hole < count, ∀ later < count, hole < later →
    ∀ info ∈ state.apsPTInfoList heap.psMMUContext
      (heap.pageSlot sDevVAddr hole),
    info.page.isNone →
    ∀ page ∈ state.ptPage heap.psMMUContext (heap.pageSlot sDevVAddr later),
      page.entries (heap.pageEntry sDevVAddr later) &&& sgxMmuPteValid = 0 ∧
        (heap.validLeft sDevVAddr count (heap.pageSlot sDevVAddr later)
          page).Nonempty

end

/-! ## One more page -/

section Succ

variable
  {heap : MmuHeap}
  {sDevVAddr : BitVec 32}
  {count index entry : Nat}

theorem MmuHeap.touches_succ :
    heap.Touches sDevVAddr (count + 1) index ↔
      heap.Touches sDevVAddr count index ∨
        heap.pageSlot sDevVAddr count = index := by
  simp only [MmuHeap.Touches, Nat.lt_succ_iff_lt_or_eq, or_and_right, exists_or,
    exists_eq_left]

theorem MmuHeap.inRange_succ :
    heap.InRange sDevVAddr (count + 1) index entry ↔
      heap.InRange sDevVAddr count index entry ∨
        heap.pageSlot sDevVAddr count = index ∧
          heap.pageEntry sDevVAddr count = entry := by
  simp only [MmuHeap.InRange, Nat.lt_succ_iff_lt_or_eq, or_and_right, exists_or,
    exists_eq_left]

theorem MmuHeap.InRange.touches
    (inRange : heap.InRange sDevVAddr count index entry) :
    heap.Touches sDevVAddr count index := by
  obtain ⟨page, below, isSlot, _⟩ := inRange
  exact ⟨page, below, isSlot⟩

theorem MmuHeap.Touches.mono
    {more : Nat}
    (touches : heap.Touches sDevVAddr count index)
    (atMost : count ≤ more) :
    heap.Touches sDevVAddr more index := by
  obtain ⟨page, below, isSlot⟩ := touches
  exact ⟨page, lt_of_lt_of_le below atMost, isSlot⟩

theorem MmuHeap.mem_validLeft {page : PtPage} :
    entry ∈ heap.validLeft sDevVAddr count index page ↔
      entry ∈ page.validEntries ∧
        ¬ heap.InRange sDevVAddr count index entry :=
  mem_filter

variable (page : PtPage)

/-- Another page takes its own entry. -/
theorem MmuHeap.validLeft_succ :
    heap.validLeft sDevVAddr (count + 1) (heap.pageSlot sDevVAddr count) page =
      (heap.validLeft sDevVAddr count (heap.pageSlot sDevVAddr count)
        page).erase (heap.pageEntry sDevVAddr count) := by
  ext entry
  rw [Finset.mem_erase, MmuHeap.mem_validLeft, MmuHeap.mem_validLeft,
    MmuHeap.inRange_succ]
  constructor
  · rintro ⟨valid, outside⟩
    exact ⟨fun same => outside (.inr ⟨rfl, same.symm⟩), valid,
      fun inRange => outside (.inl inRange)⟩
  · rintro ⟨different, valid, outside⟩
    refine ⟨valid, ?_⟩
    rintro (inRange | ⟨-, same⟩)
    · exact outside inRange
    · exact different same.symm

/-- Another page takes nothing from other tables. -/
theorem MmuHeap.validLeft_succ_other
    (other : heap.pageSlot sDevVAddr count ≠ index) :
    heap.validLeft sDevVAddr (count + 1) index page =
      heap.validLeft sDevVAddr count index page := by
  ext entry
  simp only [MmuHeap.mem_validLeft, MmuHeap.inRange_succ, other, false_and,
    or_false]

/-- Outside the range all valid entries are left. -/
theorem MmuHeap.validLeft_untouched
    (untouched : ¬ heap.Touches sDevVAddr count index) :
    heap.validLeft sDevVAddr count index page = page.validEntries :=
  Finset.filter_true_of_mem fun _ _ inRange => untouched inRange.touches

/-- A page table without the entries of a range. -/
def MmuHeap.cleared
    (heap : MmuHeap)
    (sDevVAddr : BitVec 32)
    (count index : Nat)
    (page : PtPage) :
    PtPage :=
  { page with
    entries := fun entry =>
      if heap.InRange sDevVAddr count index entry then 0
      else page.entries entry }

theorem MmuHeap.cleared_succ :
    heap.cleared sDevVAddr (count + 1) (heap.pageSlot sDevVAddr count) page =
      { heap.cleared sDevVAddr count (heap.pageSlot sDevVAddr count) page with
        entries := Function.update
          (heap.cleared sDevVAddr count (heap.pageSlot sDevVAddr count)
            page).entries (heap.pageEntry sDevVAddr count) 0 } := by
  unfold MmuHeap.cleared
  congr 1
  funext entry
  rw [Function.update_apply]
  by_cases isEntry : heap.pageEntry sDevVAddr count = entry
  · simp [MmuHeap.inRange_succ, isEntry]
  · simp [MmuHeap.inRange_succ, isEntry, Ne.symm isEntry]

theorem MmuHeap.cleared_succ_other
    (other : heap.pageSlot sDevVAddr count ≠ index) :
    heap.cleared sDevVAddr (count + 1) index page =
      heap.cleared sDevVAddr count index page := by
  simp only [MmuHeap.cleared, MmuHeap.inRange_succ, other, false_and, or_false]

theorem MmuHeap.cleared_untouched
    (untouched : ¬ heap.Touches sDevVAddr count index) :
    heap.cleared sDevVAddr count index page = page := by
  have outside : ∀ entry, ¬ heap.InRange sDevVAddr count index entry :=
    fun entry inRange => untouched inRange.touches
  simp only [MmuHeap.cleared, outside, if_false]

end Succ

/-! ## Records of a range -/

/-- The record of a slot once the pages of a range are unmapped. -/
def MmuState.unmappedRecord
    (state : MmuState)
    (heap : MmuHeap)
    (sDevVAddr : BitVec 32)
    (count index : Nat) :
    Option MmuPtInfo :=
  match state.apsPTInfoList heap.psMMUContext index with
  | some ⟨some page, ui32ValidPTECount⟩ =>
    if heap.Touches sDevVAddr count index then
      if heap.validLeft sDevVAddr count index page = ∅ then none
      else some ⟨some (heap.cleared sDevVAddr count index page),
        BitVec.ofNat 32 (heap.validLeft sDevVAddr count index page).card⟩
    else some ⟨some page, ui32ValidPTECount⟩
  | other => other

section Records

variable
  {state : MmuState}
  {heap : MmuHeap}
  {sDevVAddr : BitVec 32}
  {count index : Nat}
  {page : PtPage}
  {ui32ValidPTECount : BitVec 32}

theorem ptPage_of_record
    (isRecord : state.apsPTInfoList heap.psMMUContext index =
      some ⟨some page, ui32ValidPTECount⟩) :
    state.ptPage heap.psMMUContext index = some page := by
  rw [MmuState.ptPage, isRecord]
  rfl

theorem mem_freedSlots_of_record
    (isRecord : state.apsPTInfoList heap.psMMUContext index =
      some ⟨some page, ui32ValidPTECount⟩) :
    index ∈ state.freedSlots heap sDevVAddr count ↔
      index < 1024 ∧ heap.Touches sDevVAddr count index ∧
        heap.validLeft sDevVAddr count index page = ∅ := by
  rw [MmuState.freedSlots, mem_filter, mem_range,
    ptPage_of_record isRecord]
  simp

theorem notMem_freedSlots_of_noPage
    (noPage : state.ptPage heap.psMMUContext index = none) :
    index ∉ state.freedSlots heap sDevVAddr count := by
  rw [MmuState.freedSlots, mem_filter, noPage]
  simp

theorem unmappedRecord_of_noPage
    (noPage : state.ptPage heap.psMMUContext index = none) :
    state.unmappedRecord heap sDevVAddr count index =
      state.apsPTInfoList heap.psMMUContext index := by
  unfold MmuState.ptPage at noPage
  unfold MmuState.unmappedRecord
  split
  · next isRecord =>
    rw [isRecord] at noPage
    cases noPage
  · rfl

theorem unmappedRecord_of_untouched
    (untouched : ¬ heap.Touches sDevVAddr count index) :
    state.unmappedRecord heap sDevVAddr count index =
      state.apsPTInfoList heap.psMMUContext index := by
  unfold MmuState.unmappedRecord
  split
  · next isRecord => rw [if_neg untouched, isRecord]
  · rfl

/-- A record whose page is not given back lost its entries of the range. -/
theorem unmappedRecord_of_kept
    (isRecord : state.apsPTInfoList heap.psMMUContext index =
      some ⟨some page, ui32ValidPTECount⟩)
    (right : ui32ValidPTECount = BitVec.ofNat 32 page.validEntries.card)
    (kept : ¬ (heap.Touches sDevVAddr count index ∧
      heap.validLeft sDevVAddr count index page = ∅)) :
    state.unmappedRecord heap sDevVAddr count index =
      some ⟨some (heap.cleared sDevVAddr count index page),
        BitVec.ofNat 32 (heap.validLeft sDevVAddr count index page).card⟩ := by
  unfold MmuState.unmappedRecord
  rw [isRecord]
  simp only
  by_cases touched : heap.Touches sDevVAddr count index
  · rw [if_pos touched, if_neg fun empty => kept ⟨touched, empty⟩]
  · rw [if_neg touched, heap.cleared_untouched page touched,
      heap.validLeft_untouched page touched, right]

theorem unmappedRecord_of_freed
    (isRecord : state.apsPTInfoList heap.psMMUContext index =
      some ⟨some page, ui32ValidPTECount⟩)
    (touched : heap.Touches sDevVAddr count index)
    (empty : heap.validLeft sDevVAddr count index page = ∅) :
    state.unmappedRecord heap sDevVAddr count index = none := by
  unfold MmuState.unmappedRecord
  rw [isRecord]
  simp only
  rw [if_pos touched, if_pos empty]

/-- A page in another slot changes nothing. -/
theorem unmappedRecord_succ_other
    (other : heap.pageSlot sDevVAddr count ≠ index) :
    state.unmappedRecord heap sDevVAddr (count + 1) index =
      state.unmappedRecord heap sDevVAddr count index := by
  have same : heap.Touches sDevVAddr (count + 1) index ↔
      heap.Touches sDevVAddr count index := by
    rw [MmuHeap.touches_succ]
    exact or_iff_left other
  unfold MmuState.unmappedRecord
  simp only [same, heap.cleared_succ_other _ other,
    heap.validLeft_succ_other _ other]

theorem mem_freedSlots_succ_other
    (other : heap.pageSlot sDevVAddr count ≠ index) :
    index ∈ state.freedSlots heap sDevVAddr (count + 1) ↔
      index ∈ state.freedSlots heap sDevVAddr count := by
  have same : heap.Touches sDevVAddr (count + 1) index ↔
      heap.Touches sDevVAddr count index := by
    rw [MmuHeap.touches_succ]
    exact or_iff_left other
  simp only [MmuState.freedSlots, mem_filter, same,
    heap.validLeft_succ_other _ other]

/-- The slots given back change at the slot of the page alone. -/
theorem freedSlots_succ
    (unchanged : heap.pageSlot sDevVAddr count ∈
        state.freedSlots heap sDevVAddr (count + 1) ↔
      heap.pageSlot sDevVAddr count ∈ state.freedSlots heap sDevVAddr count) :
    state.freedSlots heap sDevVAddr (count + 1) =
      state.freedSlots heap sDevVAddr count := by
  ext index
  by_cases isSlot : heap.pageSlot sDevVAddr count = index
  · rw [← isSlot]
    exact unchanged
  · exact mem_freedSlots_succ_other isSlot

theorem freedSlots_succ_insert
    (freed : heap.pageSlot sDevVAddr count ∈
      state.freedSlots heap sDevVAddr (count + 1)) :
    state.freedSlots heap sDevVAddr (count + 1) =
      insert (heap.pageSlot sDevVAddr count)
        (state.freedSlots heap sDevVAddr count) := by
  ext index
  rw [mem_insert]
  by_cases isSlot : heap.pageSlot sDevVAddr count = index
  · rw [← isSlot]
    exact iff_of_true freed (.inl rfl)
  · rw [mem_freedSlots_succ_other isSlot]
    exact ⟨.inr, fun either => either.resolve_left fun same =>
      isSlot same.symm⟩

end Records

/-! ## Addresses -/

section Addresses

variable
  {psMMUContext : Nat}
  {psDevArena : DevArenaDescriptor}
  {heap : MmuHeap}

section

variable (made : mmuHeap psMMUContext psDevArena = some heap)
include made

/-- A page table's page has 1024 entries. -/
theorem ptIndex_lt
    (DevVAddr : BitVec 32) :
    heap.ptIndex DevVAddr < 1024 := by
  obtain ⟨⟨scale, ctrl⟩, supported, rfl⟩ := Option.map_eq_some_iff.mp made
  show ((DevVAddr &&& (sgxMmuPtMask &&& sgxMmuPtMask <<< scale)) >>>
    (12 + scale)).toNat < 1024
  have masked : (DevVAddr &&& (sgxMmuPtMask &&&
      sgxMmuPtMask <<< scale)).toNat ≤ 0x003FF000 := by
    rw [BitVec.toNat_and, BitVec.toNat_and]
    exact Nat.and_le_right.trans Nat.and_le_left
  rw [BitVec.toNat_ushiftRight, Nat.shiftRight_eq_div_pow]
  calc
    _ ≤ 0x003FF000 / 2 ^ (12 + scale) := Nat.div_le_div_right masked
    _ ≤ 0x003FF000 / 2 ^ 12 :=
      Nat.div_le_div_left
        (Nat.pow_le_pow_right (by decide) (Nat.le_add_right 12 scale))
        (by decide)
    _ < 1024 := by decide

theorem pdIndex_lt
    (DevVAddr : BitVec 32) :
    heap.pdIndex DevVAddr < 1024 := by
  have bound := DevVAddr.isLt
  rw [(mmuHeap_slots made).pdIndex_eq]
  omega

theorem dataPageSize_pos :
    0 < heap.ui32DataPageSize.toNat := by
  obtain ⟨⟨scale, ctrl⟩, supported, rfl⟩ := Option.map_eq_some_iff.mp made
  obtain ⟨_, pageSize, _⟩ := dataPageScale_eq_some supported
  show 0 < psDevArena.ui32DataPageSize.toNat
  rw [pageSize]
  exact Nat.two_pow_pos _

/-- The address of a page of a range that ends in the address space. -/
theorem pageAddress_toNat
    {sDevVAddr : BitVec 32}
    {count page : Nat}
    (within : sDevVAddr.toNat + count * heap.ui32DataPageSize.toNat ≤ 2 ^ 32)
    (below : page < count) :
    (heap.pageAddress sDevVAddr page).toNat =
      sDevVAddr.toNat + page * heap.ui32DataPageSize.toNat := by
  have positive := dataPageSize_pos made
  have next : (page + 1) * heap.ui32DataPageSize.toNat ≤
      count * heap.ui32DataPageSize.toNat :=
    Nat.mul_le_mul_right _ below
  rw [Nat.add_mul, Nat.one_mul] at next
  have small : page ≤ page * heap.ui32DataPageSize.toNat :=
    Nat.le_mul_of_pos_right page positive
  rw [MmuHeap.pageAddress, BitVec.toNat_add, BitVec.toNat_mul,
    BitVec.toNat_ofNat, Nat.mod_eq_of_lt (a := page) (by omega), Nat.mul_comm,
    Nat.mod_eq_of_lt (a := page * _) (by omega)]
  exact Nat.mod_eq_of_lt (by omega)

end

theorem pageAddress_succ
    (heap : MmuHeap)
    (sDevVAddr : BitVec 32)
    (page : Nat) :
    heap.pageAddress sDevVAddr (page + 1) =
      heap.pageAddress sDevVAddr page + heap.ui32DataPageSize := by
  rw [MmuHeap.pageAddress, MmuHeap.pageAddress, BitVec.ofNat_add,
    BitVec.mul_add, BitVec.add_assoc]
  congr 2
  exact BitVec.mul_one _

/-- Later pages are in later slots. -/
theorem pageSlot_mono
    (made : mmuHeap psMMUContext psDevArena = some heap)
    {sDevVAddr : BitVec 32}
    {count page later : Nat}
    (within : sDevVAddr.toNat + count * heap.ui32DataPageSize.toNat ≤ 2 ^ 32)
    (below : later < count)
    (ordered : page ≤ later) :
    heap.pageSlot sDevVAddr page ≤ heap.pageSlot sDevVAddr later := by
  rw [MmuHeap.pageSlot, MmuHeap.pageSlot, (mmuHeap_slots made).pdIndex_eq,
    (mmuHeap_slots made).pdIndex_eq,
    pageAddress_toNat made within (lt_of_le_of_lt ordered below),
    pageAddress_toNat made within below]
  exact Nat.div_le_div_right
    (Nat.add_le_add_left (Nat.mul_le_mul_right _ ordered) _)

/-- The table that is given back is the one of the address. -/
theorem freedIndex
    (made : mmuHeap psMMUContext psDevArena = some heap)
    {DevVAddr : BitVec 32}
    (aboveBase : psDevArena.BaseDevVAddr.toNat ≤ DevVAddr.toNat) :
    heap.pdIndex heap.psDevArena.BaseDevVAddr +
        (DevVAddr >>> heap.ui32PDShift - heap.ui32PDBaseIndex).toNat =
      heap.pdIndex DevVAddr := by
  have slots := mmuHeap_slots made
  have arena : heap.psDevArena = psDevArena ∧
      heap.ui32PDBaseIndex =
        (psDevArena.BaseDevVAddr &&& sgxMmuPdMask) >>> heap.ui32PDShift := by
    obtain ⟨⟨scale, ctrl⟩, supported, rfl⟩ := Option.map_eq_some_iff.mp made
    exact ⟨rfl, rfl⟩
  have base : heap.ui32PDBaseIndex.toNat =
      psDevArena.BaseDevVAddr.toNat / 2 ^ 22 := by
    rw [arena.2, slots.pdShift]
    exact directoryPart_toNat _
  have own : (DevVAddr >>> heap.ui32PDShift).toNat =
      DevVAddr.toNat / 2 ^ 22 := by
    rw [slots.pdShift, BitVec.toNat_ushiftRight, Nat.shiftRight_eq_div_pow]
  have ordered : psDevArena.BaseDevVAddr.toNat / 2 ^ 22 ≤
      DevVAddr.toNat / 2 ^ 22 :=
    Nat.div_le_div_right aboveBase
  rw [slots.pdIndex_eq, slots.pdIndex_eq, arena.1, BitVec.toNat_sub_of_le,
    base, own]
  · omega
  · rw [BitVec.le_def, base, own]
    exact ordered

end Addresses

/-! ## The loop -/

variable {index count psMMUContext total : Nat} {heap : MmuHeap}
  {sDevVAddr : BitVec 32} {psDevArena : DevArenaDescriptor} {state : MmuState}
  {cursor : UnmapCursor}

/-- What giving back a page table leaves. -/
theorem deferredFreePageTable_frame
    (state : MmuState)
    (pMMUHeap : Nat)
    (heap : MmuHeap)
    {ui32PTIndex : BitVec 32}
    (isIndex :
      heap.pdIndex heap.psDevArena.BaseDevVAddr + ui32PTIndex.toNat = index) :
    let next := deferredFreePageTable state pMMUHeap heap ui32PTIndex true
    next.pvMMUContextList = state.pvMMUContextList ∧
      next.apsPTInfoList =
        (state.setPTInfo heap.psMMUContext index none).apsPTInfoList ∧
      (∀ context i, next.pvPDCpuVAddr context i =
        if heap.Reaches state.pvMMUContextList context ∧ i = index then 0
        else state.pvPDCpuVAddr context i) ∧
      next.pageTables =
        ((state.pageAt heap.psMMUContext index).map
          state.pageTables.erase).getD state.pageTables := by
  subst isIndex
  unfold deferredFreePageTable
  simp only [if_true]
  rw [writePDEntry_eq]
  obtain ⟨contexts, -, directories, lists, pages⟩ := freePageTableInfo_frame
    { state with
      pvPDCpuVAddr := fun context i =>
        if heap.Reaches state.pvMMUContextList context ∧
          i = heap.pdIndex heap.psDevArena.BaseDevVAddr + ui32PTIndex.toNat
        then 0 else state.pvPDCpuVAddr context i }
    pMMUHeap heap
    (heap.pdIndex heap.psDevArena.BaseDevVAddr + ui32PTIndex.toNat)
  refine ⟨contexts, lists, ?_, pages⟩
  intro context i
  rw [directories]

/-- The state of the loop when the first pages of the range are unmapped. -/
structure UnmappedUpTo
    (state : MmuState)
    (heap : MmuHeap)
    (sDevVAddr : BitVec 32)
    (count : Nat)
    (cursor : UnmapCursor) :
    Prop where
  address : cursor.sTmpDevVAddr = heap.pageAddress sDevVAddr count
  contexts : cursor.state.pvMMUContextList = state.pvMMUContextList
  records : ∀ index,
    cursor.state.apsPTInfoList heap.psMMUContext index =
      state.unmappedRecord heap sDevVAddr count index
  elsewhere : ∀ context, context ≠ heap.psMMUContext →
    cursor.state.apsPTInfoList context = state.apsPTInfoList context
  directories : ∀ context index,
    cursor.state.pvPDCpuVAddr context index =
      if heap.Reaches state.pvMMUContextList context ∧
        index ∈ state.freedSlots heap sDevVAddr count then 0
      else state.pvPDCpuVAddr context index
  pages : (cursor.state.pageTables : Multiset (BitVec 64)) =
    state.pageTables - (state.freedSlots heap sDevVAddr count).val.filterMap
      (state.pageAt heap.psMMUContext)

namespace UnmappedUpTo

variable
  {state : MmuState}
  {heap : MmuHeap}
  {sDevVAddr : BitVec 32}
  {count : Nat}
  {cursor : UnmapCursor}

theorem start
    (state : MmuState)
    (heap : MmuHeap)
    (sDevVAddr : BitVec 32)
    (bInvalidateDirectoryCache : Bool) :
    UnmappedUpTo state heap sDevVAddr 0
      ⟨state, sDevVAddr, bInvalidateDirectoryCache⟩ := by
  have untouched : ∀ index, ¬ heap.Touches sDevVAddr 0 index := by
    rintro index ⟨page, below, -⟩
    exact Nat.not_lt_zero page below
  have none_freed : state.freedSlots heap sDevVAddr 0 = ∅ :=
    Finset.filter_false_of_mem fun index _ freed => untouched index freed.1
  refine ⟨?_, rfl, fun index => ?_, fun _ _ => rfl, fun context index => ?_, ?_⟩
  · rw [MmuHeap.pageAddress]
    show sDevVAddr = sDevVAddr + heap.ui32DataPageSize * 0#32
    rw [BitVec.mul_zero, BitVec.add_zero]
  · exact (unmappedRecord_of_untouched (untouched index)).symm
  · rw [none_freed, if_neg fun both => notMem_empty index both.2]
  · rw [none_freed]
    exact (Multiset.sub_zero _).symm

section

variable (upTo : UnmappedUpTo state heap sDevVAddr count cursor)
include upTo

/-- A page whose table is missing, or was given back, is passed over. -/
theorem skip
    (sameRecord :
      state.unmappedRecord heap sDevVAddr (count + 1)
          (heap.pageSlot sDevVAddr count) =
        state.unmappedRecord heap sDevVAddr count
          (heap.pageSlot sDevVAddr count))
    (sameFreed :
      heap.pageSlot sDevVAddr count ∈
          state.freedSlots heap sDevVAddr (count + 1) ↔
        heap.pageSlot sDevVAddr count ∈
          state.freedSlots heap sDevVAddr count) :
    UnmappedUpTo state heap sDevVAddr (count + 1)
      { cursor with
        sTmpDevVAddr := cursor.sTmpDevVAddr + heap.ui32DataPageSize } where
  address := by
    rw [pageAddress_succ, upTo.address]
  contexts := upTo.contexts
  records index := by
    show cursor.state.apsPTInfoList heap.psMMUContext index = _
    rw [upTo.records]
    by_cases isSlot : heap.pageSlot sDevVAddr count = index
    · rw [← isSlot, sameRecord]
    · exact (unmappedRecord_succ_other isSlot).symm
  elsewhere := upTo.elsewhere
  directories := by
    rw [freedSlots_succ sameFreed]
    exact upTo.directories
  pages := by
    rw [freedSlots_succ sameFreed]
    exact upTo.pages

/-- A page whose table keeps valid entries loses its entry. -/
theorem keep
    {info : MmuPtInfo}
    (record :
      state.unmappedRecord heap sDevVAddr (count + 1)
        (heap.pageSlot sDevVAddr count) = some info)
    (sameFreed :
      heap.pageSlot sDevVAddr count ∈
          state.freedSlots heap sDevVAddr (count + 1) ↔
        heap.pageSlot sDevVAddr count ∈ state.freedSlots heap sDevVAddr count) :
    UnmappedUpTo state heap sDevVAddr (count + 1)
      ⟨cursor.state.setPTInfo heap.psMMUContext
          (heap.pageSlot sDevVAddr count) (some info),
        cursor.sTmpDevVAddr + heap.ui32DataPageSize,
        cursor.bInvalidateDirectoryCache⟩ where
  address := by
    rw [pageAddress_succ, upTo.address]
  contexts := upTo.contexts
  records index := by
    rw [MmuState.setPTInfo_apply]
    by_cases isSlot : heap.pageSlot sDevVAddr count = index
    · rw [if_pos ⟨rfl, isSlot.symm⟩, ← isSlot, record]
    · rw [if_neg fun both => isSlot both.2.symm, upTo.records]
      exact (unmappedRecord_succ_other isSlot).symm
  elsewhere context other := by
    funext index
    rw [MmuState.setPTInfo_apply, if_neg fun both => other both.1,
      upTo.elsewhere context other]
  directories := by
    rw [freedSlots_succ sameFreed]
    exact upTo.directories
  pages := by
    rw [freedSlots_succ sameFreed]
    exact upTo.pages

/-- A page whose table has no valid entry left takes the table with it. -/
theorem free
    (page : PtPage)
    {ui32ValidPTECount : BitVec 32}
    (isPage : state.pageAt heap.psMMUContext (heap.pageSlot sDevVAddr count) =
      some page.devPAddr)
    (record :
      state.unmappedRecord heap sDevVAddr (count + 1)
        (heap.pageSlot sDevVAddr count) = none)
    (freed : heap.pageSlot sDevVAddr count ∈
      state.freedSlots heap sDevVAddr (count + 1))
    (notYet : heap.pageSlot sDevVAddr count ∉
      state.freedSlots heap sDevVAddr count)
    (pMMUHeap : Nat)
    {ui32PTIndex : BitVec 32}
    (isIndex :
      heap.pdIndex heap.psDevArena.BaseDevVAddr + ui32PTIndex.toNat =
        heap.pageSlot sDevVAddr count) :
    UnmappedUpTo state heap sDevVAddr (count + 1)
      ⟨deferredFreePageTable (cursor.state.setPTInfo heap.psMMUContext
          (heap.pageSlot sDevVAddr count)
          (some ⟨some page, ui32ValidPTECount⟩)) pMMUHeap heap ui32PTIndex true,
        cursor.sTmpDevVAddr + heap.ui32DataPageSize, true⟩ := by
  obtain ⟨contexts, lists, directories, pages⟩ :=
    deferredFreePageTable_frame (cursor.state.setPTInfo heap.psMMUContext
      (heap.pageSlot sDevVAddr count) (some ⟨some page, ui32ValidPTECount⟩))
      pMMUHeap heap isIndex
  have inserted := freedSlots_succ_insert freed
  have lists_apply : ∀ context index,
      (deferredFreePageTable (cursor.state.setPTInfo heap.psMMUContext
        (heap.pageSlot sDevVAddr count)
        (some ⟨some page, ui32ValidPTECount⟩)) pMMUHeap heap ui32PTIndex
        true).apsPTInfoList context index =
      if context = heap.psMMUContext ∧ index = heap.pageSlot sDevVAddr count
      then none else cursor.state.apsPTInfoList context index := by
    intro context index
    rw [lists, MmuState.setPTInfo_apply, MmuState.setPTInfo_apply]
    split_ifs
    · rfl
    · rfl
  refine ⟨?_, contexts.trans upTo.contexts, fun index => ?_,
    fun context other => ?_, fun context index => ?_, ?_⟩
  · rw [pageAddress_succ, upTo.address]
  · rw [lists_apply]
    by_cases isSlot : heap.pageSlot sDevVAddr count = index
    · rw [if_pos ⟨rfl, isSlot.symm⟩, ← isSlot, record]
    · rw [if_neg fun both => isSlot both.2.symm, upTo.records]
      exact (unmappedRecord_succ_other isSlot).symm
  · funext index
    rw [lists_apply, if_neg fun both => other both.1,
      upTo.elsewhere context other]
  · have before : (cursor.state.setPTInfo heap.psMMUContext
        (heap.pageSlot sDevVAddr count)
        (some ⟨some page, ui32ValidPTECount⟩)).pvPDCpuVAddr context index =
          cursor.state.pvPDCpuVAddr context index := rfl
    have sameContexts : (cursor.state.setPTInfo heap.psMMUContext
        (heap.pageSlot sDevVAddr count)
        (some ⟨some page, ui32ValidPTECount⟩)).pvMMUContextList =
          state.pvMMUContextList := upTo.contexts
    rw [directories, before, sameContexts, upTo.directories, inserted]
    simp only [mem_insert]
    by_cases reached : heap.Reaches state.pvMMUContextList context
    · by_cases isSlot : index = heap.pageSlot sDevVAddr count
      · simp [reached, isSlot]
      · simp [reached, isSlot]
    · simp [reached]
  · have taken : (cursor.state.setPTInfo heap.psMMUContext
        (heap.pageSlot sDevVAddr count)
        (some ⟨some page, ui32ValidPTECount⟩)).pageAt heap.psMMUContext
          (heap.pageSlot sDevVAddr count) = some page.devPAddr := by
      rw [MmuState.pageAt_setPTInfo, if_pos ⟨rfl, rfl⟩]
      rfl
    rw [pages, taken, inserted, Finset.insert_val_of_notMem notYet,
      Multiset.filterMap_cons_some _ _ _ isPage, Multiset.sub_cons]
    show ((cursor.state.pageTables.erase page.devPAddr :
      List (BitVec 64)) : Multiset (BitVec 64)) = _
    rw [← Multiset.coe_erase, upTo.pages, ← Multiset.sub_singleton,
      ← Multiset.sub_singleton]
    exact tsub_right_comm

end

end UnmappedUpTo

theorem MmuHeap.card_validLeft_le
    (heap : MmuHeap)
    (sDevVAddr : BitVec 32)
    (count index : Nat)
    (page : PtPage) :
    (heap.validLeft sDevVAddr count index page).card ≤ 1024 :=
  calc
    (heap.validLeft sDevVAddr count index page).card ≤
        page.validEntries.card :=
      card_le_card (Finset.filter_subset _ _)
    _ ≤ (Finset.range 1024).card :=
      card_le_card (Finset.filter_subset _ _)
    _ = 1024 := Finset.card_range 1024

/-- The number of valid entries counts one entry less. -/
theorem countWithout_eq
    (page : PtPage)
    (small : heap.pageEntry sDevVAddr count < 1024) :
    (heap.cleared sDevVAddr count (heap.pageSlot sDevVAddr count)
        page).countWithout (heap.pageEntry sDevVAddr count)
        (BitVec.ofNat 32 (heap.validLeft sDevVAddr count
          (heap.pageSlot sDevVAddr count) page).card) =
      BitVec.ofNat 32 (heap.validLeft sDevVAddr (count + 1)
        (heap.pageSlot sDevVAddr count) page).card := by
  have valid_iff :
      (heap.cleared sDevVAddr count (heap.pageSlot sDevVAddr count)
          page).entries (heap.pageEntry sDevVAddr count) &&&
            sgxMmuPteValid ≠ 0 ↔
        heap.pageEntry sDevVAddr count ∈ heap.validLeft sDevVAddr count
          (heap.pageSlot sDevVAddr count) page := by
    rw [heap.mem_validLeft, PtPage.validEntries, mem_filter,
      mem_range]
    by_cases inRange : heap.InRange sDevVAddr count
        (heap.pageSlot sDevVAddr count) (heap.pageEntry sDevVAddr count)
    · simp [MmuHeap.cleared, inRange]
    · simp [MmuHeap.cleared, inRange, small]
  rw [heap.validLeft_succ page, PtPage.countWithout]
  simp only [valid_iff]
  split_ifs with left
  · have positive := Finset.card_pos.mpr ⟨_, left⟩
    rw [Finset.card_erase_of_mem left]
    apply BitVec.eq_of_toNat_eq
    have few := heap.card_validLeft_le sDevVAddr count
      (heap.pageSlot sDevVAddr count) page
    rw [BitVec.toNat_sub, BitVec.toNat_ofNat, BitVec.toNat_ofNat]
    show (2 ^ 32 - 1 + _) % 2 ^ 32 = _
    omega
  · rw [Finset.erase_eq_of_notMem left]

/-- The count is zero when no valid entry is left. -/
theorem ofNat_validLeft_eq_zero
    (page : PtPage) :
    BitVec.ofNat 32 (heap.validLeft sDevVAddr count index page).card = 0 ↔
      heap.validLeft sDevVAddr count index page = ∅ := by
  have few := heap.card_validLeft_le sDevVAddr count index page
  rw [← Finset.card_eq_zero, ← BitVec.toNat_inj, BitVec.toNat_ofNat,
    Nat.mod_eq_of_lt (by omega)]
  rfl

/-- One iteration of the loop at a page whose table is missing or has a
page. -/
theorem UnmappedUpTo.step
    {psMMUContext : Nat}
    {psDevArena : DevArenaDescriptor}
    {heap : MmuHeap}
    (made : mmuHeap psMMUContext psDevArena = some heap)
    {state : MmuState}
    {sDevVAddr : BitVec 32}
    {count total : Nat}
    (counts : CountsRight state heap sDevVAddr total)
    (below : count < total)
    (aboveBase : psDevArena.BaseDevVAddr.toNat ≤
      (heap.pageAddress sDevVAddr count).toNat)
    {cursor : UnmapCursor}
    (upTo : UnmappedUpTo state heap sDevVAddr count cursor)
    (noHole : ∀ info ∈ state.apsPTInfoList heap.psMMUContext
      (heap.pageSlot sDevVAddr count), info.page.isSome)
    (pMMUHeap : Nat) :
    UnmappedUpTo state heap sDevVAddr (count + 1)
      (unmapPageAndFreePT pMMUHeap heap cursor) := by
  have touched : heap.Touches sDevVAddr (count + 1)
      (heap.pageSlot sDevVAddr count) :=
    ⟨count, Nat.lt_succ_self count, rfl⟩
  have isRecord := upTo.records (heap.pageSlot sDevVAddr count)
  have small : heap.pageSlot sDevVAddr count < 1024 := pdIndex_lt made _
  have smallEntry : heap.pageEntry sDevVAddr count < 1024 := ptIndex_lt made _
  have isSlot : heap.pdIndex cursor.sTmpDevVAddr =
      heap.pageSlot sDevVAddr count := by
    rw [upTo.address]
    rfl
  have isEntry : heap.ptIndex cursor.sTmpDevVAddr =
      heap.pageEntry sDevVAddr count := by
    rw [upTo.address]
    rfl
  unfold unmapPageAndFreePT
  simp only [isSlot, isEntry, isRecord]
  rcases original : state.apsPTInfoList heap.psMMUContext
      (heap.pageSlot sDevVAddr count)
    with _ | ⟨_ | page, ui32ValidPTECount⟩
  · -- no record, before as now
    have noPage : state.ptPage heap.psMMUContext
        (heap.pageSlot sDevVAddr count) = none := by
      rw [MmuState.ptPage, original]
      rfl
    rw [unmappedRecord_of_noPage noPage, original]
    refine upTo.skip ?_ ?_
    · rw [unmappedRecord_of_noPage noPage, unmappedRecord_of_noPage noPage]
    · exact iff_of_false (notMem_freedSlots_of_noPage noPage)
        (notMem_freedSlots_of_noPage noPage)
  · have isThere := noHole _ original
    cases isThere
  · have right := counts _ _ _ (touched.mono below) original
    have emptied : heap.validLeft sDevVAddr count
          (heap.pageSlot sDevVAddr count) page = ∅ →
        heap.validLeft sDevVAddr (count + 1)
          (heap.pageSlot sDevVAddr count) page = ∅ := by
      intro empty
      rw [heap.validLeft_succ page, empty, Finset.erase_empty]
    by_cases already : heap.Touches sDevVAddr count
          (heap.pageSlot sDevVAddr count) ∧
        heap.validLeft sDevVAddr count (heap.pageSlot sDevVAddr count) page = ∅
    · -- the table went with an earlier page
      obtain ⟨touchedBefore, empty⟩ := already
      rw [unmappedRecord_of_freed original touchedBefore empty]
      refine upTo.skip ?_ ?_
      · rw [unmappedRecord_of_freed original touchedBefore empty,
          unmappedRecord_of_freed original touched (emptied empty)]
      · rw [mem_freedSlots_of_record original,
          mem_freedSlots_of_record original]
        exact iff_of_true ⟨small, touched, emptied empty⟩
          ⟨small, touchedBefore, empty⟩
    · have notYet : heap.pageSlot sDevVAddr count ∉
          state.freedSlots heap sDevVAddr count := by
        rw [mem_freedSlots_of_record original]
        exact fun freed => already freed.2
      rw [unmappedRecord_of_kept original right already]
      simp only [countWithout_eq page smallEntry, ofNat_validLeft_eq_zero]
      split_ifs with empty
      · exact upTo.free
          { heap.cleared sDevVAddr count
              (heap.pageSlot sDevVAddr count) page with
            entries := _ }
          (by rw [MmuState.pageAt, original]; rfl)
          (unmappedRecord_of_freed original touched empty)
          ((mem_freedSlots_of_record original).mpr ⟨small, touched, empty⟩)
          notYet pMMUHeap
          (by
            rw [upTo.address]
            exact freedIndex made aboveBase)
      · have kept : ¬ (heap.Touches sDevVAddr (count + 1)
              (heap.pageSlot sDevVAddr count) ∧
            heap.validLeft sDevVAddr (count + 1)
              (heap.pageSlot sDevVAddr count) page = ∅) :=
          fun both => empty both.2
        refine upTo.keep ?_ (iff_of_false ?_ notYet)
        · rw [unmappedRecord_of_kept original right kept, heap.cleared_succ]
        · rw [mem_freedSlots_of_record original]
          exact fun freed => kept freed.2

/-- The loop up to the first page whose table has a record and no page. -/
theorem unmappedUpTo_iterate
    (made : mmuHeap psMMUContext psDevArena = some heap)
    (aboveBase : psDevArena.BaseDevVAddr.toNat ≤ sDevVAddr.toNat)
    (within : sDevVAddr.toNat + total * heap.ui32DataPageSize.toNat ≤ 2 ^ 32)
    (counts : CountsRight state heap sDevVAddr total)
    (pMMUHeap : Nat)
    (atMost : count ≤ total)
    (noHole : ∀ page < count,
      ∀ info ∈ state.apsPTInfoList heap.psMMUContext
        (heap.pageSlot sDevVAddr page), info.page.isSome) :
    UnmappedUpTo state heap sDevVAddr count
      ((unmapPageAndFreePT pMMUHeap heap)^[count]
        ⟨state, sDevVAddr, false⟩) := by
  induction count with
  | zero => exact .start state heap sDevVAddr false
  | succ count ih =>
    have upTo := ih (Nat.le_of_succ_le atMost)
      fun page below => noHole page (Nat.lt_succ_of_lt below)
    rw [Function.iterate_succ_apply']
    refine upTo.step made counts atMost ?_
      (noHole count (Nat.lt_succ_self count)) pMMUHeap
    rw [pageAddress_toNat made within atMost]
    exact aboveBase.trans (Nat.le_add_right _ _)

/-- The loop does not leave a page whose table has a record and no page. -/
theorem unmapPageAndFreePT_hole
    (upTo : UnmappedUpTo state heap sDevVAddr count cursor)
    {info : MmuPtInfo}
    (isRecord : state.apsPTInfoList heap.psMMUContext
      (heap.pageSlot sDevVAddr count) = some info)
    (hole : info.page.isNone)
    (pMMUHeap : Nat) :
    unmapPageAndFreePT pMMUHeap heap cursor = cursor := by
  obtain ⟨page, ui32ValidPTECount⟩ := info
  obtain rfl := Option.isNone_iff_eq_none.mp hole
  have noPage : state.ptPage heap.psMMUContext
      (heap.pageSlot sDevVAddr count) = none := by
    rw [MmuState.ptPage, isRecord]
    rfl
  have there : cursor.state.apsPTInfoList heap.psMMUContext
      (heap.pdIndex cursor.sTmpDevVAddr) = some ⟨none, ui32ValidPTECount⟩ := by
    rw [upTo.address]
    show cursor.state.apsPTInfoList heap.psMMUContext
      (heap.pageSlot sDevVAddr count) = _
    rw [upTo.records, unmappedRecord_of_noPage noPage, isRecord]
  unfold unmapPageAndFreePT
  simp only [there]

/-! ## Around a hole -/

section Hole

variable
  {psMMUContext : Nat}
  {psDevArena : DevArenaDescriptor}
  {heap : MmuHeap}
  {state : MmuState}
  {sDevVAddr : BitVec 32}
  {hole total index entry : Nat}

section

variable (made : mmuHeap psMMUContext psDevArena = some heap)
  (within : sDevVAddr.toNat + total * heap.ui32DataPageSize.toNat ≤ 2 ^ 32)
  (below : hole < total)
include made within below

/-- The pages in a slot below the hole's come before it. -/
theorem inRange_before
    (before : index < heap.pageSlot sDevVAddr hole) :
    heap.InRange sDevVAddr total index entry ↔
      heap.InRange sDevVAddr hole index entry := by
  constructor
  · rintro ⟨page, inTotal, isSlot, isEntry⟩
    refine ⟨page, Nat.lt_of_not_le fun after => ?_, isSlot, isEntry⟩
    exact absurd (pageSlot_mono made within inTotal after) (by omega)
  · rintro ⟨page, beforeHole, isSlot, isEntry⟩
    exact ⟨page, beforeHole.trans below, isSlot, isEntry⟩

theorem touches_before
    (before : index < heap.pageSlot sDevVAddr hole) :
    heap.Touches sDevVAddr total index ↔
      heap.Touches sDevVAddr hole index := by
  constructor
  · rintro ⟨page, inTotal, isSlot⟩
    refine ⟨page, Nat.lt_of_not_le fun after => ?_, isSlot⟩
    exact absurd (pageSlot_mono made within inTotal after) (by omega)
  · intro touched
    exact touched.mono below.le

/-- No page before the hole is in a slot above its own. -/
theorem not_touches_after
    (after : heap.pageSlot sDevVAddr hole < index) :
    ¬ heap.Touches sDevVAddr hole index := by
  rintro ⟨page, beforeHole, isSlot⟩
  have ordered := pageSlot_mono made within below beforeHole.le
  omega

/-- A page in a slot above the hole's comes after it. -/
theorem later_of_after
    {later : Nat}
    (after : heap.pageSlot sDevVAddr hole < heap.pageSlot sDevVAddr later) :
    hole < later := by
  refine Nat.lt_of_not_le fun atMost => ?_
  have ordered := pageSlot_mono made within below atMost
  omega

end

end Hole

/-- Unmapping a range up to some page leaves nothing to do in a slot: all pages
of the range in the slot come before, or none does and the slot's table would
only lose entries that are not valid. -/
def NothingLeft
    (state : MmuState)
    (heap : MmuHeap)
    (sDevVAddr : BitVec 32)
    (count total index : Nat) :
    Prop :=
  (heap.Touches sDevVAddr total index ↔ heap.Touches sDevVAddr count index) ∧
      (∀ entry, heap.InRange sDevVAddr total index entry ↔
        heap.InRange sDevVAddr count index entry) ∨
    ¬ heap.Touches sDevVAddr count index ∧
      ∀ page ∈ state.ptPage heap.psMMUContext index,
        heap.Touches sDevVAddr total index →
        (∀ entry, heap.InRange sDevVAddr total index entry →
          page.entries entry &&& sgxMmuPteValid = 0) ∧
        (heap.validLeft sDevVAddr total index page).Nonempty

/-- A record without page is not the slot of a page table. -/
theorem record_of_ptPage
    {page : PtPage}
    (isPage : state.ptPage psMMUContext index = some page) :
    ∃ ui32ValidPTECount, state.apsPTInfoList psMMUContext index =
      some ⟨some page, ui32ValidPTECount⟩ := by
  obtain ⟨⟨_, ui32ValidPTECount⟩, isRecord, isIt⟩ :=
    Option.bind_eq_some_iff.mp isPage
  exact ⟨ui32ValidPTECount, isIt ▸ isRecord⟩

section

variable (nothingLeft : ∀ index,
  (state.ptPage heap.psMMUContext index).isSome →
    NothingLeft state heap sDevVAddr count total index)
include nothingLeft

/-- When nothing is left to do the same tables are given back. -/
theorem freedSlots_of_nothingLeft :
    state.freedSlots heap sDevVAddr count =
      state.freedSlots heap sDevVAddr total := by
  ext index
  cases isPage : state.ptPage heap.psMMUContext index with
  | none =>
    exact iff_of_false (notMem_freedSlots_of_noPage isPage)
      (notMem_freedSlots_of_noPage isPage)
  | some page =>
    obtain ⟨ui32ValidPTECount, isRecord⟩ := record_of_ptPage isPage
    rw [mem_freedSlots_of_record isRecord, mem_freedSlots_of_record isRecord]
    rcases nothingLeft index (by rw [isPage]; rfl)
      with ⟨sameSlots, sameEntries⟩ | ⟨notYet, harmless⟩
    · simp only [MmuHeap.validLeft, sameSlots, sameEntries]
    · refine iff_of_false (fun freed => notYet freed.2.1) fun freed => ?_
      obtain ⟨entry, left⟩ := (harmless page isPage freed.2.1).2
      rw [freed.2.2] at left
      exact absurd left (notMem_empty entry)

/-- The loop that left nothing to do unmapped the range. -/
theorem UnmappedUpTo.rangeUnmapped
    (made : mmuHeap psMMUContext psDevArena = some heap)
    (upTo : UnmappedUpTo state heap sDevVAddr count cursor)
    (atMost : count ≤ total)
    (counts : CountsRight state heap sDevVAddr total) :
    RangeUnmapped state cursor.state heap sDevVAddr total := by
  have sameFreed := freedSlots_of_nothingLeft nothingLeft
  refine ⟨fun index freed => ?_, ?_, fun index outside => ?_, upTo.elsewhere,
    sameFreed ▸ upTo.directories, sameFreed ▸ upTo.pages⟩
  · rw [upTo.records]
    rw [← sameFreed, MmuState.freedSlots, mem_filter] at freed
    obtain ⟨-, touched, page, isPage, empty⟩ := freed
    obtain ⟨ui32ValidPTECount, isRecord⟩ := record_of_ptPage isPage
    exact unmappedRecord_of_freed isRecord touched empty
  · intro index page ui32ValidPTECount touched notFreed isRecord
    have right := counts index page ui32ValidPTECount touched isRecord
    have isPage := ptPage_of_record isRecord
    rw [upTo.records]
    rcases nothingLeft index (by rw [isPage]; rfl)
      with ⟨sameSlots, sameEntries⟩ | ⟨notYet, harmless⟩
    · have sameLeft : heap.validLeft sDevVAddr total index page =
          heap.validLeft sDevVAddr count index page := by
        simp only [MmuHeap.validLeft, sameEntries]
      have inDirectory : index < 1024 := by
        obtain ⟨_, _, isSlot⟩ := touched
        rw [← isSlot]
        exact pdIndex_lt made _
      refine ⟨(heap.cleared sDevVAddr count index page).entries, ?_, ?_⟩
      · rw [sameLeft]
        refine unmappedRecord_of_kept isRecord right fun both => notFreed ?_
        rw [mem_freedSlots_of_record isRecord, sameLeft]
        exact ⟨inDirectory, touched, both.2⟩
      · intro entry
        simp only [MmuHeap.cleared, sameEntries]
        split_ifs
        · rfl
        · rfl
    · obtain ⟨invalid, -⟩ := harmless page isPage touched
      have allLeft : heap.validLeft sDevVAddr total index page =
          page.validEntries := by
        refine Finset.filter_true_of_mem fun entry valid inRange => ?_
        exact (mem_filter.mp valid).2 (invalid entry inRange)
      refine ⟨page.entries, ?_, fun entry => ?_⟩
      · rw [unmappedRecord_of_untouched notYet, isRecord, allLeft, right]
      · split_ifs with inRange
        · exact invalid entry inRange
        · rfl
  · rw [upTo.records]
    rcases outside with untouched | noPage
    · exact unmappedRecord_of_untouched fun touched =>
        untouched (touched.mono atMost)
    · exact unmappedRecord_of_noPage noPage

end

section AtHole

variable
  {psMMUContext : Nat}
  {psDevArena : DevArenaDescriptor}
  {heap : MmuHeap}
  {state : MmuState}
  {sDevVAddr : BitVec 32}
  {hole total : Nat}
  {cursor : UnmapCursor}
  {info : MmuPtInfo}

theorem ptPage_of_hole
    (isRecord : state.apsPTInfoList heap.psMMUContext index = some info)
    (isHole : info.page.isNone) :
    state.ptPage heap.psMMUContext index = none := by
  rw [MmuState.ptPage, isRecord]
  exact Option.isNone_iff_eq_none.mp isHole

section

variable (made : mmuHeap psMMUContext psDevArena = some heap)
  (within : sDevVAddr.toNat + total * heap.ui32DataPageSize.toNat ≤ 2 ^ 32)
include made within

/-- A loop that stops at a hole leaves the tables after it as they are, so that
a range it unmapped had nothing to do in them. -/
theorem UnmappedUpTo.harmless_after
    (upTo : UnmappedUpTo state heap sDevVAddr hole cursor)
    (below : hole < total)
    (rangeUnmapped : RangeUnmapped state cursor.state heap sDevVAddr total)
    {later : Nat}
    (inTotal : later < total)
    (after : heap.pageSlot sDevVAddr hole < heap.pageSlot sDevVAddr later)
    {page : PtPage}
    (isPage : state.ptPage heap.psMMUContext
      (heap.pageSlot sDevVAddr later) = some page) :
    page.entries (heap.pageEntry sDevVAddr later) &&& sgxMmuPteValid = 0 ∧
      (heap.validLeft sDevVAddr total (heap.pageSlot sDevVAddr later)
        page).Nonempty := by
  obtain ⟨ui32ValidPTECount, isRecord⟩ := record_of_ptPage isPage
  have unchanged : cursor.state.apsPTInfoList heap.psMMUContext
      (heap.pageSlot sDevVAddr later) =
        some ⟨some page, ui32ValidPTECount⟩ := by
    rw [upTo.records, unmappedRecord_of_untouched
      (not_touches_after made within below after), isRecord]
  have touched : heap.Touches sDevVAddr total
      (heap.pageSlot sDevVAddr later) :=
    ⟨later, inTotal, rfl⟩
  have notFreed : heap.pageSlot sDevVAddr later ∉
      state.freedSlots heap sDevVAddr total := by
    intro freed
    have gone := rangeUnmapped.freed _ freed
    rw [unchanged] at gone
    cases gone
  obtain ⟨entries, record, unmapped⟩ :=
    rangeUnmapped.unmapped _ page ui32ValidPTECount touched notFreed isRecord
  rw [unchanged] at record
  obtain ⟨samePage, -⟩ := MmuPtInfo.mk.inj (Option.some.inj record)
  have sameEntries : page.entries = entries :=
    congrArg PtPage.entries (Option.some.inj samePage)
  have invalid := unmapped (heap.pageEntry sDevVAddr later)
  rw [if_pos ⟨later, inTotal, rfl, rfl⟩, ← sameEntries] at invalid
  refine ⟨invalid, Finset.nonempty_iff_ne_empty.mpr fun empty => notFreed ?_⟩
  rw [mem_freedSlots_of_record isRecord]
  exact ⟨pdIndex_lt made _, touched, empty⟩

/-- With a harmless hole there is nothing left to do after it. -/
theorem HolesHarmless.nothingLeft
    (harmless : HolesHarmless state heap sDevVAddr total)
    (below : hole < total)
    (isRecord : state.apsPTInfoList heap.psMMUContext
      (heap.pageSlot sDevVAddr hole) = some info)
    (isHole : info.page.isNone)
    (isSome : (state.ptPage heap.psMMUContext index).isSome) :
    NothingLeft state heap sDevVAddr hole total index := by
  rcases lt_trichotomy index (heap.pageSlot sDevVAddr hole)
    with before | same | after
  · exact .inl ⟨touches_before made within below before,
      fun entry => inRange_before made within below before⟩
  · rw [same, ptPage_of_hole isRecord isHole] at isSome
    cases isSome
  · refine .inr ⟨not_touches_after made within below after, ?_⟩
    have done : ∀ later < total, heap.pageSlot sDevVAddr later = index →
        ∀ page ∈ state.ptPage heap.psMMUContext index,
          page.entries (heap.pageEntry sDevVAddr later) &&&
              sgxMmuPteValid = 0 ∧
            (heap.validLeft sDevVAddr total index page).Nonempty := by
      rintro later laterInTotal rfl page isPage
      exact harmless hole below later laterInTotal
        (later_of_after made within below after) info isRecord isHole page
        isPage
    intro page isPage touched
    obtain ⟨first, inTotal, isSlot⟩ := touched
    refine ⟨?_, (done first inTotal isSlot page isPage).2⟩
    rintro entry ⟨later, laterInTotal, laterSlot, rfl⟩
    exact (done later laterInTotal laterSlot page isPage).1

/-- The loop that stops at a hole unmapped the range if and only if there was
nothing to do after the hole. -/
theorem UnmappedUpTo.rangeUnmapped_iff_of_hole
    (counts : CountsRight state heap sDevVAddr total)
    (upTo : UnmappedUpTo state heap sDevVAddr hole cursor)
    (below : hole < total)
    (isRecord : state.apsPTInfoList heap.psMMUContext
      (heap.pageSlot sDevVAddr hole) = some info)
    (isHole : info.page.isNone)
    (noHole : ∀ page < hole,
      ∀ info ∈ state.apsPTInfoList heap.psMMUContext
        (heap.pageSlot sDevVAddr page), info.page.isSome) :
    RangeUnmapped state cursor.state heap sDevVAddr total ↔
      HolesHarmless state heap sDevVAddr total := by
  constructor
  · intro rangeUnmapped other inTotal later laterInTotal ordered info
      otherRecord isOther page isPage
    have notBefore : hole ≤ other := by
      refine Nat.le_of_not_lt fun before => ?_
      have isSome := noHole other before info otherRecord
      rw [Option.isNone_iff_eq_none.mp isOther] at isSome
      cases isSome
    have after : heap.pageSlot sDevVAddr hole <
        heap.pageSlot sDevVAddr later := by
      refine lt_of_le_of_ne (pageSlot_mono made within laterInTotal
        (notBefore.trans ordered.le)) fun same => ?_
      rw [← same, ptPage_of_hole isRecord isHole] at isPage
      cases isPage
    exact upTo.harmless_after made within below rangeUnmapped laterInTotal
      after isPage
  · intro harmless
    refine upTo.rangeUnmapped ?_ made below.le counts
    intro index isSome
    exact harmless.nothingLeft made within below isRecord isHole isSome

end

end AtHole

/-- The caches that the loop asks to invalidate are not part of the tables. -/
theorem rangeUnmapped_iff_iterate
    (state : MmuState)
    (pMMUHeap : Nat)
    (heap : MmuHeap)
    (sDevVAddr ui32PageCount : BitVec 32) :
    RangeUnmapped state
        (mmuUnmapPagesAndFreePTs state pMMUHeap heap sDevVAddr ui32PageCount)
        heap sDevVAddr ui32PageCount.toNat ↔
      RangeUnmapped state
        ((unmapPageAndFreePT pMMUHeap heap)^[ui32PageCount.toNat]
          ⟨state, sDevVAddr, false⟩).state
        heap sDevVAddr ui32PageCount.toNat := by
  unfold mmuUnmapPagesAndFreePTs
  simp only
  split_ifs
  · exact ⟨fun ⟨a, b, c, d, e, f⟩ => ⟨a, b, c, d, e, f⟩,
      fun ⟨a, b, c, d, e, f⟩ => ⟨a, b, c, d, e, f⟩⟩
  · exact ⟨fun ⟨a, b, c, d, e, f⟩ => ⟨a, b, c, d, e, f⟩,
      fun ⟨a, b, c, d, e, f⟩ => ⟨a, b, c, d, e, f⟩⟩

/-- The range is unmapped exactly if and only if nothing is to be done after a
page whose table has a record and no page. -/
theorem mmuUnmapPagesAndFreePTs_rangeUnmapped_iff
    {psMMUContext : Nat}
    {psDevArena : DevArenaDescriptor}
    {heap : MmuHeap}
    (made : mmuHeap psMMUContext psDevArena = some heap)
    {state : MmuState}
    {sDevVAddr ui32PageCount : BitVec 32}
    (aboveBase : psDevArena.BaseDevVAddr.toNat ≤ sDevVAddr.toNat)
    (within : sDevVAddr.toNat +
      ui32PageCount.toNat * heap.ui32DataPageSize.toNat ≤ 2 ^ 32)
    (counts : CountsRight state heap sDevVAddr ui32PageCount.toNat)
    (pMMUHeap : Nat) :
    RangeUnmapped state
        (mmuUnmapPagesAndFreePTs state pMMUHeap heap sDevVAddr ui32PageCount)
        heap sDevVAddr ui32PageCount.toNat ↔
      HolesHarmless state heap sDevVAddr ui32PageCount.toNat := by
  rw [rangeUnmapped_iff_iterate]
  by_cases holes : ∃ page < ui32PageCount.toNat,
      ∃ info ∈ state.apsPTInfoList heap.psMMUContext
        (heap.pageSlot sDevVAddr page), info.page.isNone
  · -- the loop stays at the first of them
    classical
    obtain ⟨below, info, isRecord, isHole⟩ := Nat.find_spec holes
    have noHole : ∀ page < Nat.find holes,
        ∀ info ∈ state.apsPTInfoList heap.psMMUContext
          (heap.pageSlot sDevVAddr page), info.page.isSome := by
      intro page before info isThere
      refine Option.isSome_iff_ne_none.mpr fun noPage => ?_
      exact Nat.find_min holes before ⟨before.trans below, info, isThere,
        Option.isNone_iff_eq_none.mpr noPage⟩
    have upTo := unmappedUpTo_iterate made aboveBase within counts pMMUHeap
      below.le noHole
    have stays := Function.iterate_fixed
      (unmapPageAndFreePT_hole upTo isRecord isHole pMMUHeap)
      (ui32PageCount.toNat - Nat.find holes)
    rw [← Function.iterate_add_apply, Nat.sub_add_cancel below.le] at stays
    rw [stays]
    exact upTo.rangeUnmapped_iff_of_hole made within counts below isRecord
      isHole noHole
  · have noHole : ∀ page < ui32PageCount.toNat,
        ∀ info ∈ state.apsPTInfoList heap.psMMUContext
          (heap.pageSlot sDevVAddr page), info.page.isSome := by
      intro page before info isThere
      refine Option.isSome_iff_ne_none.mpr fun noPage => ?_
      exact holes ⟨page, before, info, isThere,
        Option.isNone_iff_eq_none.mpr noPage⟩
    have upTo := unmappedUpTo_iterate made aboveBase within counts pMMUHeap
      le_rfl noHole
    refine iff_of_true (upTo.rangeUnmapped
      (fun index _ => .inl ⟨Iff.rfl, fun _ => Iff.rfl⟩) made le_rfl counts) ?_
    intro hole below _ _ _ info isThere isHole
    exact absurd ⟨hole, below, info, isThere, isHole⟩ holes

/-! ## A table without a page -/

/-- A context whose heap of textures has a record without a page at its first
slot, where the allocator had no page, and a page table with one valid entry at
its second. -/
def holedContext (heap : MmuHeap) : MmuState :=
  let state := (mmuAlloc freshContext heap 0x1000 (some 0xF0000000)
    fun _ => ⟨true, none⟩).1
  let state := (mmuAlloc state heap 0x1000 (some 0xF0400000)
    (onePage 0x5000)).1
  (mmuMapPage state heap 0xF0400000 0x8000 pvrsrvMemRead).getD state

/-- The page that is mapped is unmapped, and its table given back. -/
theorem mmuUnmapPagesAndFreePTs_rangeUnmapped_iff_mapped :
    ∃ heap, mmuHeap 0 textureArena = some heap ∧
      RangeUnmapped (holedContext heap)
        (mmuUnmapPagesAndFreePTs (holedContext heap) 7 heap 0xF0400000 1)
        heap 0xF0400000 1 := by
  have made : mmuHeap 0 textureArena = some _ := rfl
  refine ⟨_, made, (mmuUnmapPagesAndFreePTs_rangeUnmapped_iff made
    (by decide) (by decide) ?_ 7).mpr ?_⟩
  · rintro index page ui32ValidPTECount ⟨_, below, rfl⟩ isRecord
    obtain rfl := Nat.lt_one_iff.mp below
    obtain ⟨samePage, rfl⟩ := MmuPtInfo.mk.inj (Option.some.inj isRecord)
    cases samePage
    have single : PtPage.validEntries
        ⟨0x5000, Function.update (fun _ => 0) 0 0x8005⟩ = {0} := by
      ext entry
      rw [PtPage.validEntries, mem_filter, mem_range,
        Finset.mem_singleton]
      by_cases isFirst : entry = 0
      · simp [isFirst]
      · simp [isFirst]
    exact congrArg (fun valid => BitVec.ofNat 32 (Finset.card valid))
      single.symm
  · intro hole _ later below ordered
    exact absurd (Nat.lt_one_iff.mp below ▸ ordered) (Nat.not_lt_zero _)

/-- With the last page of the slot before, which has no page table, the mapped
page stays mapped. -/
theorem rangeUnmapped_holed :
    ∃ heap, mmuHeap 0 textureArena = some heap ∧
      ¬ RangeUnmapped (holedContext heap)
        (mmuUnmapPagesAndFreePTs (holedContext heap) 7 heap 0xF03FF000 2)
        heap 0xF03FF000 2 := by
  refine ⟨_, rfl, fun unmapped => ?_⟩
  have notFreed : 961 ∉ (holedContext _).freedSlots _ 0xF03FF000 2 :=
    fun freed => Option.some_ne_none _ (unmapped.freed 961 freed)
  obtain ⟨entries, record, invalid⟩ :=
    unmapped.unmapped 961 _ _ ⟨1, by decide, rfl⟩ notFreed rfl
  obtain ⟨samePage, -⟩ := MmuPtInfo.mk.inj (Option.some.inj record)
  obtain rfl : _ = entries :=
    congrArg PtPage.entries (Option.some.inj samePage)
  have firstEntry := invalid 0
  rw [if_pos ⟨1, by decide, rfl, rfl⟩] at firstEntry
  exact absurd firstEntry (by decide)

end PvrServices.Mmu
