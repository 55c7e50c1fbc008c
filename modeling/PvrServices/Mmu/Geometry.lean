import PvrServices.Mmu.Calls
import Mathlib.Data.List.Pairwise
import Mathlib.Tactic.IntervalCases

/-!
# Heaps and directory indices

Whatever its page size, a heap spends one directory entry on each four
megabytes.  The heaps of a device start at such a boundary and share none of
them, so each has its own run of directory indices.
-/

namespace PvrServices.Mmu

open BitVec (le_def lt_def toNat_add toNat_sub_of_le toNat_ushiftRight)

/-! ## Tables of heaps -/

namespace DevArenaDescriptor

/-- The first directory index of a heap. -/
def firstIndex (arena : DevArenaDescriptor) : Nat :=
  arena.BaseDevVAddr.toNat / 2 ^ 22

/-- The number of its directory indices. -/
def indexCount (arena : DevArenaDescriptor) : Nat :=
  (arena.ui32Size.toNat + 2 ^ 22 - 1) / 2 ^ 22

/-- A directory index belongs to a heap. -/
def Covers (arena : DevArenaDescriptor) (index : Nat) : Prop :=
  arena.firstIndex ≤ index ∧ index < arena.firstIndex + arena.indexCount

instance (arena : DevArenaDescriptor) (index : Nat) :
    Decidable (arena.Covers index) :=
  inferInstanceAs (Decidable (_ ∧ _))

/-- A range of device addresses lies in a heap. -/
def Contains
    (arena : DevArenaDescriptor)
    (start stop : Nat) :
    Prop :=
  arena.BaseDevVAddr.toNat ≤ start ∧ start ≤ stop ∧
    stop ≤ arena.BaseDevVAddr.toNat + arena.ui32Size.toNat

/-- Two heaps share no directory index. -/
def Apart (left right : DevArenaDescriptor) : Prop :=
  left.firstIndex + left.indexCount ≤ right.firstIndex ∨
    right.firstIndex + right.indexCount ≤ left.firstIndex

instance (left right : DevArenaDescriptor) : Decidable (left.Apart right) :=
  inferInstanceAs (Decidable (_ ∨ _))

/-- The placement of a heap: its base is at a boundary and not at zero, it
fits into the address space, and it is made of whole pages. -/
structure Placed (arena : DevArenaDescriptor) : Prop where
  aligned : arena.BaseDevVAddr.toNat % 2 ^ 22 = 0
  positive : arena.BaseDevVAddr.toNat ≠ 0
  fits : arena.BaseDevVAddr.toNat + arena.ui32Size.toNat ≤ 2 ^ 32
  whole : arena.ui32Size.toNat % arena.ui32DataPageSize.toNat = 0

instance (arena : DevArenaDescriptor) : Decidable arena.Placed :=
  decidable_of_iff
    (arena.BaseDevVAddr.toNat % 2 ^ 22 = 0 ∧
      arena.BaseDevVAddr.toNat ≠ 0 ∧
      arena.BaseDevVAddr.toNat + arena.ui32Size.toNat ≤ 2 ^ 32 ∧
      arena.ui32Size.toNat % arena.ui32DataPageSize.toNat = 0)
    ⟨fun ⟨aligned, positive, fits, whole⟩ => ⟨aligned, positive, fits, whole⟩,
      fun ⟨aligned, positive, fits, whole⟩ => ⟨aligned, positive, fits, whole⟩⟩

end DevArenaDescriptor

/-- The heaps of a device. -/
structure HeapTable where
  arenas : List DevArenaDescriptor
  placed : ∀ arena ∈ arenas, arena.Placed
  apart : arenas.Pairwise DevArenaDescriptor.Apart

/-- `psDeviceMemoryHeap` of `SGXRegisterDevice`, without the workaround for
the sample cache. -/
def sgxHeaps : HeapTable where
  arenas :=
    [ ⟨.perContext, 0x10000000, 0xC2000000 - 0x1000, 0x1000⟩
    , ⟨.perContext, 0xE2000000, 0x0D000000 - 0x1000, 0x1000⟩
    , ⟨.sharedExported, 0xF2000000, 0x00080000 - 0x1000, 0x1000⟩
    , ⟨.sharedExported, 0xF4000000, 0x05000000 - 0x1000, 0x1000⟩
    , ⟨.perContext, 0xF9000000, (10 <<< 19) - 0x1000, 0x1000⟩
    , ⟨.perContext, 0xFE000000, (4 <<< 19) - 0x1000, 0x1000⟩
    , ⟨.perContext, 0xF0000000, 0x02000000 - 0x1000, 0x1000⟩
    , ⟨.perContext, 0xF2400000, 0x01C00000 - 0x1000, 0x1000⟩
    , ⟨.sharedExported, 0xEF000000, 0x01000000 - 0x1000, 0x1000⟩
    , ⟨.sharedExported, 0xD2000000, 0, 0x1000⟩
    , ⟨.perContext, 0xD2000000, 0x10000000 - 0x1000, 0x1000⟩ ]
  placed := by decide
  apart := by decide

instance : Std.Symm DevArenaDescriptor.Apart :=
  ⟨fun _ _ apart => apart.symm⟩

/-- A directory index belongs to one heap only. -/
theorem HeapTable.covers_unique
    (table : HeapTable)
    {left right : DevArenaDescriptor}
    {index : Nat}
    (isLeft : left ∈ table.arenas)
    (isRight : right ∈ table.arenas)
    (inLeft : left.Covers index)
    (inRight : right.Covers index) :
    left = right := by
  by_contra different
  have apart : left.Apart right := table.apart.forall isLeft isRight different
  obtain ⟨leftStart, leftStop⟩ := inLeft
  obtain ⟨rightStart, rightStop⟩ := inRight
  rcases apart with before | after
  · omega
  · omega

/-! ## The fields of a heap -/

variable {scale : Nat}

/-- The scale is at most ten, and says what the page size is. -/
theorem dataPageScale_eq_some
    {ui32DataPageSize : BitVec 32}
    {sizeCtrl : BitVec 32}
    (supported :
      dataPageScale ui32DataPageSize = some (scale, sizeCtrl)) :
    scale ≤ 10 ∧ ui32DataPageSize.toNat = 2 ^ (12 + scale) ∧
      ui32DataPageSize - 1 + (sgxMmuPtMask &&& sgxMmuPtMask <<< scale) =
        0x003FFFFF ∧
      sizeCtrl &&& sgxMmuPdeAddrMask = 0 := by
  unfold dataPageScale at supported
  split_ifs at supported with is4K is16K is64K is256K is1M is4M
  all_goals
    cases supported
    subst ui32DataPageSize
    decide

/-- The page tables of a number of bytes, counted in pages first. -/
theorem tables_of_pages
    {size : Nat}
    (small : scale ≤ 10)
    (whole : size % 2 ^ (12 + scale) = 0) :
    (size / 2 ^ (12 + scale) + 2 ^ (10 - scale) - 1) / 2 ^ (10 - scale) =
      (size + 2 ^ 22 - 1) / 2 ^ 22 := by
  interval_cases scale
  all_goals
    simp only [Nat.reduceAdd, Nat.reduceSub] at whole ⊢
    omega

/-- Adding and taking one without leaving 32 bits. -/
theorem toNat_add_sub_one
    {left right : BitVec 32}
    (positive : 0 < right.toNat)
    (fits : left.toNat + right.toNat < 2 ^ 32) :
    (left + right - 1).toNat = left.toNat + right.toNat - 1 := by
  bv_omega

/-- The directory part of an address is its directory index. -/
theorem directoryPart_toNat (DevVAddr : BitVec 32) :
    ((DevVAddr &&& sgxMmuPdMask) >>> 22).toNat = DevVAddr.toNat / 2 ^ 22 := by
  rw [toNat_ushiftRight, BitVec.toNat_and, Nat.shiftRight_and_distrib,
    show sgxMmuPdMask.toNat >>> 22 = 2 ^ 10 - 1 from rfl,
    Nat.and_two_pow_sub_one_eq_mod, Nat.shiftRight_eq_div_pow]
  have bound := DevVAddr.isLt
  have inRange : DevVAddr.toNat / 2 ^ 22 < 2 ^ 10 := by
    omega
  exact Nat.mod_eq_of_lt inRange

/-- What a heap made from an arena looks like. -/
structure HeapOf
    (psMMUContext : Nat)
    (psDevArena : DevArenaDescriptor)
    (heap : MmuHeap) :
    Prop where
  context : heap.psMMUContext = psMMUContext
  arena : heap.psDevArena = psDevArena
  pdShift : heap.ui32PDShift = 22
  pageSize : heap.ui32DataPageSize.toNat = 2 ^ heap.ui32PTShift
  masks : heap.ui32DataPageMask + heap.ui32PTMask = 0x003FFFFF
  baseIndex :
    heap.ui32PDBaseIndex.toNat = psDevArena.firstIndex
  tableCount :
    heap.ui32PageTableCount.toNat = psDevArena.indexCount
  sizeCtrl : heap.ui32PDEPageSizeCtrl &&& sgxMmuPdeAddrMask = 0

/-- `MMU_Create` makes such a heap. -/
theorem mmuHeap_heapOf
    {psMMUContext : Nat}
    {psDevArena : DevArenaDescriptor}
    {heap : MmuHeap}
    (placed : psDevArena.Placed)
    (made : mmuHeap psMMUContext psDevArena = some heap) :
    HeapOf psMMUContext psDevArena heap := by
  obtain ⟨⟨scale, ctrl⟩, supported, rfl⟩ := Option.map_eq_some_iff.mp made
  obtain ⟨small, pageSize, masks, sizeCtrl⟩ := dataPageScale_eq_some supported
  have shift : sgxMmuPtShift - scale + (sgxMmuPageShift + scale) = 22 := by
    show 10 - scale + (12 + scale) = 22
    omega
  have whole := placed.whole
  rw [pageSize] at whole
  refine ⟨rfl, rfl, shift, pageSize, masks, ?_, ?_, sizeCtrl⟩
  · show ((psDevArena.BaseDevVAddr &&& sgxMmuPdMask) >>>
      (sgxMmuPtShift - scale + (sgxMmuPageShift + scale))).toNat = _
    rw [shift]
    exact directoryPart_toNat psDevArena.BaseDevVAddr
  · show ((psDevArena.ui32Size >>> (12 + scale) +
      (1 : BitVec 32) <<< (10 - scale) - 1) >>> (10 - scale)).toNat = _
    have entries :
        ((1 : BitVec 32) <<< (10 - scale)).toNat = 2 ^ (10 - scale) := by
      interval_cases scale <;> rfl
    have pages :
        (psDevArena.ui32Size >>> (12 + scale)).toNat =
          psDevArena.ui32Size.toNat / 2 ^ (12 + scale) := by
      rw [toNat_ushiftRight, Nat.shiftRight_eq_div_pow]
    have few : psDevArena.ui32Size.toNat / 2 ^ (12 + scale) ≤ 2 ^ 20 :=
      (Nat.div_le_div_left
        (Nat.pow_le_pow_right (by decide) (Nat.le_add_right 12 scale))
        (by decide)).trans (by have := psDevArena.ui32Size.isLt; omega)
    have atLeastOne : 0 < 2 ^ (10 - scale) := Nat.two_pow_pos _
    have atMost : 2 ^ (10 - scale) ≤ 2 ^ 10 :=
      Nat.pow_le_pow_right (by decide) (Nat.sub_le 10 scale)
    rw [← pages] at few
    rw [← entries] at atLeastOne atMost
    rw [toNat_ushiftRight, Nat.shiftRight_eq_div_pow,
      toNat_add_sub_one atLeastOne (by omega), pages, entries]
    exact tables_of_pages small whole

/-! ## Directory indices of addresses -/

namespace HeapOf

variable {psMMUContext : Nat} {arena : DevArenaDescriptor} {heap : MmuHeap}
  {DevVAddr ui32Size : BitVec 32}

section

variable (isHeap : HeapOf psMMUContext arena heap)
include isHeap

/-- The directory index of an address. -/
theorem pdIndex_eq
    (DevVAddr : BitVec 32) :
    heap.pdIndex DevVAddr = DevVAddr.toNat / 2 ^ 22 := by
  rw [MmuHeap.pdIndex, isHeap.pdShift, toNat_ushiftRight,
    Nat.shiftRight_eq_div_pow]

/-- The heap's first index is that of its base. -/
theorem pdIndex_base :
    heap.pdIndex heap.psDevArena.BaseDevVAddr = arena.firstIndex := by
  rw [isHeap.pdIndex_eq, isHeap.arena]
  rfl

/-- An address of the heap has one of the heap's indices. -/
theorem covers_pdIndex
    (placed : arena.Placed)
    (contained : arena.Contains DevVAddr.toNat (DevVAddr.toNat + 1)) :
    arena.Covers (heap.pdIndex DevVAddr) := by
  obtain ⟨aboveBase, _, belowEnd⟩ := contained
  have aligned := placed.aligned
  rw [isHeap.pdIndex_eq]
  simp only [DevArenaDescriptor.Covers, DevArenaDescriptor.firstIndex,
    DevArenaDescriptor.indexCount]
  omega

/-- The table that `MMU_UnmapPagesAndFreePTs` frees is the one of the
address. -/
theorem freed_index
    (aboveBase : arena.BaseDevVAddr.toNat ≤ DevVAddr.toNat) :
    heap.pdIndex heap.psDevArena.BaseDevVAddr +
        (DevVAddr >>> heap.ui32PDShift - heap.ui32PDBaseIndex).toNat =
      heap.pdIndex DevVAddr := by
  have index : (DevVAddr >>> heap.ui32PDShift).toNat =
      heap.pdIndex DevVAddr := rfl
  have base := isHeap.baseIndex
  have ordered : arena.firstIndex ≤ heap.pdIndex DevVAddr := by
    rw [isHeap.pdIndex_eq]
    exact Nat.div_le_div_right aboveBase
  rw [isHeap.pdIndex_base, toNat_sub_of_le, index, base]
  · omega
  · rw [le_def, base, index]
    exact ordered

/-- The number of page tables that an allocation visits. -/
theorem deferredCount_toNat
    (positive : 0 < ui32Size.toNat)
    (small : ui32Size.toNat ≤ 2 ^ 32 - 2 ^ 22) :
    (heap.deferredCount DevVAddr ui32Size).toNat =
      (if 2 ^ 32 - 1 - DevVAddr.toNat < ui32Size.toNat + 0x3FFFFF then 1023
        else (DevVAddr.toNat + (ui32Size.toNat + 0x3FFFFF)) / 2 ^ 22) -
        DevVAddr.toNat / 2 ^ 22 := by
  have bound := DevVAddr.isLt
  have span : (ui32Size + heap.ui32DataPageMask + heap.ui32PTMask).toNat =
      ui32Size.toNat + 0x3FFFFF := by
    rw [BitVec.add_assoc, isHeap.masks, toNat_add]
    exact Nat.mod_eq_of_lt (by
      show ui32Size.toNat + 0x3FFFFF < 2 ^ 32
      omega)
  have room : (uint32MaxValue - DevVAddr).toNat =
      2 ^ 32 - 1 - DevVAddr.toNat := by
    bv_omega
  by_cases high : 2 ^ 32 - 1 - DevVAddr.toNat < ui32Size.toNat + 0x3FFFFF
  · have isHigh : heap.highDevVAddr DevVAddr ui32Size = uint32MaxValue :=
      if_pos (by rw [lt_def, span, room]; exact high)
    have last : (uint32MaxValue >>> 22 : BitVec 32) = 1023 := rfl
    rw [if_pos high, MmuHeap.deferredCount, isHigh, isHeap.pdShift, last,
      if_neg (by decide), toNat_sub_of_le, toNat_ushiftRight,
      Nat.shiftRight_eq_div_pow]
    · rfl
    · rw [le_def, toNat_ushiftRight, Nat.shiftRight_eq_div_pow]
      show DevVAddr.toNat / 2 ^ 22 ≤ 1023
      omega
  · have isHigh : heap.highDevVAddr DevVAddr ui32Size =
        DevVAddr + (ui32Size + heap.ui32DataPageMask + heap.ui32PTMask) :=
      if_neg (by rw [lt_def, span, room]; exact high)
    have highNat : (heap.highDevVAddr DevVAddr ui32Size).toNat =
        DevVAddr.toNat + (ui32Size.toNat + 0x3FFFFF) := by
      rw [isHigh, toNat_add, span]
      exact Nat.mod_eq_of_lt (by omega)
    have countNat : (heap.highDevVAddr DevVAddr ui32Size >>> 22).toNat =
        (DevVAddr.toNat + (ui32Size.toNat + 0x3FFFFF)) / 2 ^ 22 := by
      rw [toNat_ushiftRight, Nat.shiftRight_eq_div_pow, highNat]
    have nonzero : heap.highDevVAddr DevVAddr ui32Size >>> 22 ≠ 0 := by
      intro isZero
      rw [isZero] at countNat
      change 0 = _ at countNat
      omega
    rw [if_neg high, MmuHeap.deferredCount, isHeap.pdShift,
      if_neg nonzero, toNat_sub_of_le, countNat,
      toNat_ushiftRight, Nat.shiftRight_eq_div_pow]
    rw [le_def, toNat_ushiftRight, Nat.shiftRight_eq_div_pow,
      countNat]
    omega

/-- Every index that an allocation visits belongs to the heap. -/
theorem covers_deferred
    (placed : arena.Placed)
    (positive : 0 < ui32Size.toNat)
    (contained :
      arena.Contains DevVAddr.toNat (DevVAddr.toNat + ui32Size.toNat))
    {i : Nat}
    (visited : i < (heap.deferredCount DevVAddr ui32Size).toNat) :
    arena.Covers (heap.pdIndex DevVAddr + i) := by
  obtain ⟨aboveBase, _, belowEnd⟩ := contained
  have aligned := placed.aligned
  have nonzero := placed.positive
  have fits := placed.fits
  rw [isHeap.deferredCount_toNat positive (by omega)] at visited
  rw [isHeap.pdIndex_eq]
  simp only [DevArenaDescriptor.Covers, DevArenaDescriptor.firstIndex,
    DevArenaDescriptor.indexCount]
  split_ifs at visited with high
  · omega
  · omega

end

end HeapOf

end PvrServices.Mmu
