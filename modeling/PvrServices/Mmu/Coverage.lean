import PvrServices.Mmu.Sharing
import Mathlib.Order.Interval.Finset.Nat

/-!
# Page tables for a range

`MMU_Alloc` asks for page tables for a range of device addresses.  The number
of directory slots is found from an end address that is rounded up in 32 bits,
and cut to the last address when it would wrap.  The slot of that last address
is then not counted.
-/

namespace PvrServices.Mmu

open Finset (Icc Ico mem_Ico mem_image)

/-! ## Slots of a range -/

variable {start size index : Nat} {answer : PtAllocation}
  {heap : MmuHeap} {state next : MmuState}

/-- The addresses below an end, by blocks of one size, fall into consecutive
blocks. -/
theorem image_div_Ico
    {stop : Nat}
    (nonempty : start < stop)
    (positive : 0 < size) :
    (Ico start stop).image (· / size) =
      Icc (start / size) ((stop - 1) / size) := by
  ext block
  rw [mem_image, Finset.mem_Icc]
  constructor
  · rintro ⟨address, inRange, rfl⟩
    rw [mem_Ico] at inRange
    exact ⟨Nat.div_le_div_right inRange.1, Nat.div_le_div_right (by omega)⟩
  · rintro ⟨atLeast, atMost⟩
    rcases Nat.lt_or_ge (block * size) start with before | inside
    · -- the first block, of which the range has its own first address
      refine ⟨start, mem_Ico.mpr ⟨le_rfl, nonempty⟩, ?_⟩
      have below : start / size ≤ block := atLeast
      have above : block ≤ start / size :=
        (Nat.le_div_iff_mul_le positive).mpr before.le
      exact le_antisymm below above
    · refine ⟨block * size, mem_Ico.mpr ⟨inside, ?_⟩,
        Nat.mul_div_cancel block positive⟩
      have reaches := (Nat.le_div_iff_mul_le positive).mp atMost
      omega

/-- The directory slots that a range of device addresses touches. -/
def MmuHeap.touched
    (heap : MmuHeap)
    (DevVAddr ui32Size : BitVec 32) :
    Finset Nat :=
  (Ico DevVAddr.toNat (DevVAddr.toNat + ui32Size.toNat)).image
    fun address => heap.pdIndex (BitVec.ofNat 32 address)

/-- What every page size has in common: a directory slot is four megabytes. -/
structure MmuHeap.FourMegabyteSlots (heap : MmuHeap) : Prop where
  pdShift : heap.ui32PDShift = 22
  masks : heap.ui32DataPageMask + heap.ui32PTMask = 0x003FFFFF

theorem mmuHeap_slots
    {psMMUContext : Nat}
    {psDevArena : DevArenaDescriptor}
    (made : mmuHeap psMMUContext psDevArena = some heap) :
    heap.FourMegabyteSlots := by
  obtain ⟨⟨scale, ctrl⟩, supported, rfl⟩ := Option.map_eq_some_iff.mp made
  obtain ⟨small, _, masks, _⟩ := dataPageScale_eq_some supported
  refine ⟨?_, masks⟩
  show 10 - scale + (12 + scale) = 22
  omega

namespace MmuHeap.FourMegabyteSlots

variable
  {heap : MmuHeap}
  {DevVAddr ui32Size : BitVec 32}
  (slots : heap.FourMegabyteSlots)
include slots

theorem pdIndex_eq
    (address : BitVec 32) :
    heap.pdIndex address = address.toNat / 2 ^ 22 := by
  rw [MmuHeap.pdIndex, slots.pdShift, BitVec.toNat_ushiftRight,
    Nat.shiftRight_eq_div_pow]

/-- The number of slots that a range touches. -/
theorem card_touched
    (range : DevVAddr.toNat + ui32Size.toNat ≤ 2 ^ 32) :
    (heap.touched DevVAddr ui32Size).card =
      if ui32Size.toNat = 0 then 0
      else (DevVAddr.toNat + ui32Size.toNat - 1) / 2 ^ 22 + 1 -
        DevVAddr.toNat / 2 ^ 22 := by
  have sameSlots : heap.touched DevVAddr ui32Size =
      (Ico DevVAddr.toNat (DevVAddr.toNat + ui32Size.toNat)).image
        (· / 2 ^ 22) := by
    apply Finset.image_congr
    intro address inRange
    rw [Finset.coe_Ico, Set.mem_Ico] at inRange
    show heap.pdIndex (BitVec.ofNat 32 address) = address / 2 ^ 22
    rw [slots.pdIndex_eq, BitVec.toNat_ofNat, Nat.mod_eq_of_lt (by omega)]
  rw [sameSlots]
  split_ifs with empty
  · rw [empty, Nat.add_zero, Finset.Ico_self, Finset.image_empty,
      Finset.card_empty]
  · rw [image_div_Ico (by omega) (by decide), Nat.card_Icc]

/-- The sum of the size and the masks, which may wrap. -/
theorem span_toNat
    (ui32Size : BitVec 32) :
    (ui32Size + heap.ui32DataPageMask + heap.ui32PTMask).toNat =
      (ui32Size.toNat + 0x3FFFFF) % 2 ^ 32 := by
  rw [BitVec.add_assoc, slots.masks, BitVec.toNat_add]
  rfl

/-- The end address that the slots are counted from. -/
theorem highDevVAddr_toNat
    (DevVAddr ui32Size : BitVec 32) :
    (heap.highDevVAddr DevVAddr ui32Size).toNat =
      min (2 ^ 32 - 1)
        (DevVAddr.toNat + (ui32Size.toNat + 0x3FFFFF) % 2 ^ 32) := by
  have bound := DevVAddr.isLt
  have span := slots.span_toNat ui32Size
  have room : (uint32MaxValue - DevVAddr).toNat =
      2 ^ 32 - 1 - DevVAddr.toNat := by
    bv_omega
  rw [MmuHeap.highDevVAddr]
  simp only [BitVec.lt_def, span, room]
  split_ifs with cut
  · show 2 ^ 32 - 1 = _
    omega
  · rw [BitVec.toNat_add, span, Nat.mod_eq_of_lt (by omega)]
    omega

/-- The number of slots that are processed, whatever the size. -/
theorem processed_toNat
    (DevVAddr ui32Size : BitVec 32) :
    (heap.deferredCount DevVAddr ui32Size).toNat =
      let high := (heap.highDevVAddr DevVAddr ui32Size).toNat / 2 ^ 22
      (if high = 0 then 1024 else high) - DevVAddr.toNat / 2 ^ 22 := by
  have bound := DevVAddr.isLt
  have high := slots.highDevVAddr_toNat DevVAddr ui32Size
  have quotient :
      (heap.highDevVAddr DevVAddr ui32Size >>> heap.ui32PDShift).toNat =
        (heap.highDevVAddr DevVAddr ui32Size).toNat / 2 ^ 22 := by
    rw [slots.pdShift, BitVec.toNat_ushiftRight, Nat.shiftRight_eq_div_pow]
  have first : (DevVAddr >>> heap.ui32PDShift).toNat =
      DevVAddr.toNat / 2 ^ 22 := by
    rw [slots.pdShift, BitVec.toNat_ushiftRight, Nat.shiftRight_eq_div_pow]
  have isZero : heap.highDevVAddr DevVAddr ui32Size >>> heap.ui32PDShift = 0 ↔
      (heap.highDevVAddr DevVAddr ui32Size).toNat / 2 ^ 22 = 0 := by
    rw [← quotient, ← BitVec.toNat_inj]
    rfl
  rw [MmuHeap.deferredCount]
  simp only [isZero]
  split_ifs with wrapped
  · rw [BitVec.toNat_sub_of_le, first]
    · rfl
    · rw [BitVec.le_def, first]
      show DevVAddr.toNat / 2 ^ 22 ≤ 1024
      omega
  · rw [BitVec.toNat_sub_of_le, first, quotient]
    rw [BitVec.le_def, first, quotient, high]
    exact Nat.div_le_div_right (by omega)

end MmuHeap.FourMegabyteSlots

/-! ## Installed page tables -/

variable {slots : Nat → Prop}

/-- The heap's context has a page table at a slot, and its directory has the
entry for it. -/
def MmuState.Installed
    (state : MmuState)
    (heap : MmuHeap)
    (index : Nat) :
    Prop :=
  ∃ address, state.pageAt heap.psMMUContext index = some address ∧
    state.pvPDCpuVAddr heap.psMMUContext index = heap.pdEntry address

/-- The directory of the heap's context has the entries for the page tables of
some slots. -/
structure TablesEntered
    (state : MmuState)
    (heap : MmuHeap)
    (slots : Nat → Prop) :
    Prop where
  listed : heap.psMMUContext ∈ state.pvMMUContextList
  entered : ∀ index address, slots index →
    state.pageAt heap.psMMUContext index = some address →
    state.pvPDCpuVAddr heap.psMMUContext index = heap.pdEntry address

/-- The invariant of the directories gives it for the slots of a live heap. -/
theorem Coherent.tablesEntered
    {table : HeapTable}
    {heaps : Nat → Option MmuHeap}
    {inserted : List (Nat × DevArenaDescriptor)}
    {pMMUHeap : Nat}
    (coherent : Coherent table heaps inserted state)
    (isHeap : heaps pMMUHeap = some heap)
    (covered : ∀ index, slots index → heap.psDevArena.Covers index) :
    TablesEntered state heap slots where
  listed := (coherent.made pMMUHeap heap isHeap).2.1
  entered := by
    intro index address isSlot isPage
    have entry := coherent.own pMMUHeap heap index isHeap (covered index isSlot)
    rwa [isPage] at entry

/-- A step of the allocation that succeeds finds the page table, or makes it
and writes its entry. -/
theorem deferredAllocPagetable_done
    (done : deferredAllocPagetable state heap index answer = (next, true)) :
    ((state.pageAt heap.psMMUContext index).isSome ∧ next = state) ∨
      ∃ address,
        next.pvMMUContextList = state.pvMMUContextList ∧
        (∀ context i, next.pageAt context i =
          if context = heap.psMMUContext ∧ i = index then some address
          else state.pageAt context i) ∧
        ∀ context i, next.pvPDCpuVAddr context i =
          if heap.Reaches state.pvMMUContextList context ∧ i = index then
            heap.pdEntry address
          else state.pvPDCpuVAddr context i := by
  unfold deferredAllocPagetable at done
  split at done
  · cases done
  · next info isInfo =>
    split at done
    · next page isPage =>
      obtain ⟨rfl, -⟩ := Prod.mk.inj done
      refine .inl ⟨?_, rfl⟩
      unfold MmuState.pageAt
      cases isThere : state.apsPTInfoList heap.psMMUContext index with
      | none =>
        -- a record made here has no page yet
        rw [isThere] at isInfo
        change (if answer.infoAllocated = true then some ⟨none, 0⟩
          else none) = some info at isInfo
        split_ifs at isInfo
        cases isInfo
        cases isPage
      | some there =>
        rw [isThere] at isInfo
        obtain rfl : there = info := Option.some.inj isInfo
        simp [isPage]
    · cases done
    · next address noPage isAddress =>
      have next_eq := (Prod.mk.inj done).1
      rw [writePDEntry_eq] at next_eq
      subst next_eq
      refine .inr ⟨address, rfl, ?_, fun context i => rfl⟩
      intro context i
      exact MmuState.pageAt_setPTInfo _ _ _ _ _ _

/-- A step that succeeds leaves its slot installed. -/
theorem deferredAllocPagetable_installs
    (entered : TablesEntered state heap slots)
    (inSlots : slots index)
    (done : deferredAllocPagetable state heap index answer = (next, true)) :
    TablesEntered next heap slots ∧ next.Installed heap index ∧
      ∀ other, state.Installed heap other → next.Installed heap other := by
  rcases deferredAllocPagetable_done done
    with ⟨present, rfl⟩ | ⟨address, contexts, pages, entries⟩
  · obtain ⟨address, isPage⟩ := Option.isSome_iff_exists.mp present
    exact ⟨entered, ⟨address, isPage,
      entered.entered index address inSlots isPage⟩, fun _ isIn => isIn⟩
  · have own : heap.Reaches state.pvMMUContextList heap.psMMUContext :=
      MmuHeap.reaches_own entered.listed
    have installed : next.Installed heap index :=
      ⟨address, by rw [pages, if_pos ⟨rfl, rfl⟩],
        by rw [entries, if_pos ⟨own, rfl⟩]⟩
    have elsewhere : ∀ other, other ≠ index →
        next.pageAt heap.psMMUContext other =
            state.pageAt heap.psMMUContext other ∧
          next.pvPDCpuVAddr heap.psMMUContext other =
            state.pvPDCpuVAddr heap.psMMUContext other := by
      intro other different
      rw [pages, entries, if_neg fun both => different both.2,
        if_neg fun both => different both.2]
      exact ⟨rfl, rfl⟩
    refine ⟨⟨by rw [contexts]; exact entered.listed, ?_⟩, installed, ?_⟩
    · intro other page isSlot isPage
      by_cases same : other = index
      · subst same
        obtain ⟨_, isAddress, entry⟩ := installed
        rw [isAddress] at isPage
        cases isPage
        exact entry
      · rw [(elsewhere other same).1] at isPage
        rw [(elsewhere other same).2]
        exact entered.entered other page isSlot isPage
    · intro other isIn
      by_cases same : other = index
      · rw [same]
        exact installed
      · obtain ⟨page, isPage, entry⟩ := isIn
        exact ⟨page, (elsewhere other same).1.trans isPage,
          (elsewhere other same).2.trans entry⟩

/-- The loop that succeeds leaves every slot that it visited installed. -/
theorem deferredAllocPagetablesFrom_installs
    {ui32PDIndex count : Nat}
    {answers : Nat → PtAllocation}
    (entered : TablesEntered state heap slots)
    (inSlots : ∀ i < count, slots (ui32PDIndex + i))
    (done : deferredAllocPagetablesFrom state heap ui32PDIndex answers count =
      (next, true)) :
    TablesEntered next heap slots ∧
      ∀ i < count, next.Installed heap (ui32PDIndex + i) := by
  induction count generalizing next with
  | zero =>
    obtain ⟨rfl, -⟩ := Prod.mk.inj done
    exact ⟨entered, fun i below => absurd below (Nat.not_lt_zero i)⟩
  | succ count ih =>
    rw [deferredAllocPagetablesFrom] at done
    split at done
    · next before isBefore =>
      obtain ⟨beforeEntered, beforeInstalled⟩ := ih
        (fun i below => inSlots i (Nat.lt_succ_of_lt below)) isBefore
      obtain ⟨nextEntered, installed, kept⟩ :=
        deferredAllocPagetable_installs beforeEntered
          (inSlots count (Nat.lt_succ_self count)) done
      refine ⟨nextEntered, fun i below => ?_⟩
      rcases Nat.lt_succ_iff_lt_or_eq.mp below with earlier | rfl
      · exact kept _ (beforeInstalled i earlier)
      · exact installed
    · cases done

/-! ## Coverage -/

/-- What an allocation is for: when it succeeds each address of the range has
its page table, and no more slots are processed than the range touches. -/
structure RangeCovered
    (state : MmuState)
    (heap : MmuHeap)
    (DevVAddr ui32Size : BitVec 32)
    (answers : Nat → PtAllocation) :
    Prop where
  installed : ∀ next,
    deferredAllocPagetables state heap DevVAddr ui32Size answers =
      (next, true) →
    ∀ address : BitVec 32, DevVAddr.toNat ≤ address.toNat →
      address.toNat < DevVAddr.toNat + ui32Size.toNat →
      next.Installed heap (heap.pdIndex address)
  processed : (heap.deferredCount DevVAddr ui32Size).toNat =
    (heap.touched DevVAddr ui32Size).card

/-- The ranges for which the slots are counted right: those that end below the
last directory slot, or are so long that the rounded size wraps; an empty
range that starts at a boundary other than zero, or in the last slot. -/
def CountedRight (DevVAddr ui32Size : BitVec 32) : Prop :=
  if ui32Size.toNat = 0 then
    DevVAddr.toNat ≠ 0 ∧ DevVAddr.toNat % 2 ^ 22 = 0 ∨
      0xFFC00000 ≤ DevVAddr.toNat
  else
    DevVAddr.toNat + ui32Size.toNat ≤ 0xFFC00000 ∨
      0xFFC00000 < ui32Size.toNat

instance (DevVAddr ui32Size : BitVec 32) :
    Decidable (CountedRight DevVAddr ui32Size) :=
  by unfold CountedRight; infer_instance

/-- Rounding up in 32 bits, and cutting, against counting the slots. -/
private theorem rounded_eq_counted_iff
    (bound : start < 2 ^ 32)
    (range : start + size ≤ 2 ^ 32) :
    ((if min (2 ^ 32 - 1) (start + (size + 0x3FFFFF) % 2 ^ 32) / 2 ^ 22 = 0
        then 1024
        else min (2 ^ 32 - 1) (start + (size + 0x3FFFFF) % 2 ^ 32) / 2 ^ 22) -
          start / 2 ^ 22 =
      if size = 0 then 0
      else (start + size - 1) / 2 ^ 22 + 1 - start / 2 ^ 22) ↔
      if size = 0 then start ≠ 0 ∧ start % 2 ^ 22 = 0 ∨ 0xFFC00000 ≤ start
      else start + size ≤ 0xFFC00000 ∨ 0xFFC00000 < size := by
  split_ifs <;> omega

/-- The slots are counted right for these ranges and for no others. -/
theorem processed_eq_card_iff
    (slots : heap.FourMegabyteSlots)
    {DevVAddr ui32Size : BitVec 32}
    (range : DevVAddr.toNat + ui32Size.toNat ≤ 2 ^ 32) :
    (heap.deferredCount DevVAddr ui32Size).toNat =
        (heap.touched DevVAddr ui32Size).card ↔
      CountedRight DevVAddr ui32Size := by
  rw [slots.processed_toNat, slots.card_touched range,
    slots.highDevVAddr_toNat]
  exact rounded_eq_counted_iff DevVAddr.isLt range

/-- An allocation covers its range if and only if its slots are counted
right. -/
theorem deferredAllocPagetables_rangeCovered_iff
    {psMMUContext : Nat}
    {psDevArena : DevArenaDescriptor}
    {heap : MmuHeap}
    (made : mmuHeap psMMUContext psDevArena = some heap)
    {state : MmuState}
    {DevVAddr ui32Size : BitVec 32}
    (range : DevVAddr.toNat + ui32Size.toNat ≤ 2 ^ 32)
    (entered : TablesEntered state heap
      (· ∈ heap.touched DevVAddr ui32Size))
    (answers : Nat → PtAllocation) :
    RangeCovered state heap DevVAddr ui32Size answers ↔
      CountedRight DevVAddr ui32Size := by
  have slots := mmuHeap_slots made
  constructor
  · intro covered
    exact (processed_eq_card_iff slots range).mp covered.processed
  · intro right
    have processed := (processed_eq_card_iff slots range).mpr right
    refine ⟨?_, processed⟩
    intro next done address above below
    rw [slots.card_touched range, if_neg (by omega)] at processed
    have visited : ∀ i < (heap.deferredCount DevVAddr ui32Size).toNat,
        heap.pdIndex DevVAddr + i ∈ heap.touched DevVAddr ui32Size := by
      intro i isVisited
      rw [processed] at isVisited
      rw [slots.pdIndex_eq, MmuHeap.touched, mem_image]
      refine ⟨max DevVAddr.toNat
        ((DevVAddr.toNat / 2 ^ 22 + i) * 2 ^ 22), ?_, ?_⟩
      · rw [mem_Ico]
        omega
      · rw [slots.pdIndex_eq, BitVec.toNat_ofNat]
        omega
    obtain ⟨-, installed⟩ :=
      deferredAllocPagetablesFrom_installs entered visited done
    have isSlot := installed
      (address.toNat / 2 ^ 22 - DevVAddr.toNat / 2 ^ 22) (by omega)
    rw [slots.pdIndex_eq] at isSlot ⊢
    rwa [Nat.add_sub_cancel' (Nat.div_le_div_right above)] at isSlot

/-! ## The heap of textures -/

/-- The heap that ends with the last whole page of the address space. -/
def textureArena : DevArenaDescriptor :=
  ⟨.perContext, 0xF0000000, 0x10000000 - 0x1000, 0x1000⟩

/-- A context without page tables. -/
def freshContext : MmuState :=
  mmuInitialise emptySystem.mmu 0

theorem freshContext_entered
    (heap : MmuHeap)
    (own : heap.psMMUContext = 0)
    (slots : Nat → Prop) :
    TablesEntered freshContext heap slots where
  listed := by
    rw [own]
    exact List.mem_cons_self
  entered index address _ isPage := by
    rw [own] at isPage
    cases isPage

/-- The first page of the heap is covered. -/
theorem deferredAllocPagetables_rangeCovered_iff_firstPage :
    ∃ heap, mmuHeap 0 textureArena = some heap ∧
      RangeCovered freshContext heap 0xF0000000 0x1000 (onePage 0x5000) :=
  have made : mmuHeap 0 textureArena = some _ := rfl
  ⟨_, made, (deferredAllocPagetables_rangeCovered_iff made (by decide)
    (freshContext_entered _ rfl _) (onePage 0x5000)).mpr (by decide)⟩

/-- In the last four megabytes no page table is made, and the allocation
succeeds. -/
theorem rangeCovered_lastSlot :
    ∃ heap, mmuHeap 0 textureArena = some heap ∧
      deferredAllocPagetables freshContext heap 0xFFC00000 0x1000
        (onePage 0x5000) = (freshContext, true) ∧
      ¬ RangeCovered freshContext heap 0xFFC00000 0x1000 (onePage 0x5000) := by
  refine ⟨_, rfl, rfl, fun covered => ?_⟩
  obtain ⟨address, isPage, _⟩ :=
    covered.installed freshContext rfl 0xFFC00000 le_rfl (by decide)
  cases isPage

end PvrServices.Mmu
