import PvrServices.BufferManager.XProc

/-!
# Shared slots and their allocations

A slot's count is that of its live allocations, and its memory is there exactly
while the count is not zero, in every run that keeps clear of four defects: a
mapping of an arena's segment that fails, a mapping without a kernel address,
an area that is still mapped when it is freed, and a count or a table that
wraps.
-/

namespace PvrServices.XProc

open Function (update update_of_ne update_self)
open Resman
open ShareTable (adopt setSlot)

/-! ## The contract -/

/-- The memory a used slot stands for. -/
def ShareSlot.memory (slot : ShareSlot) : List Backing :=
  if slot.psArena ≠ 0 then
    [.segment slot.psArena slot.ui32Size slot.sSysPAddr,
      .mapping slot.ui32AllocFlags slot.ui32Size slot.pvCpuVAddr
        slot.hOSMemHandle]
  else
    [.pages slot.ui32AllocFlags slot.ui32Size slot.pvCpuVAddr
      slot.hOSMemHandle]

/-- The live allocations of an index. -/
def ShareTable.liveAt (table : ShareTable) (index : Nat) : Nat :=
  table.live.countP fun allocation => decide (allocation.index = index)

/-- Every slot counts its live allocations.  The memory obtained for it and not
given back is what the slot stands for while it is used, and nothing when it is
not: so it is obtained with the first allocation, given back with the last, and
obtained again only after that. -/
structure Sound (table : ShareTable) : Prop where
  counts : ∀ index, (table.slots index).ui32RefCount.toNat = table.liveAt index
  backed : ∀ index, table.backing index =
    if (table.slots index).ui32RefCount = 0 then []
    else (table.slots index).memory

/-- The memory of the table reads as unused slots. -/
def Cleared (contents : Nat → ShareSlot) : Prop :=
  ∀ index < xprocWorkaroundNumShareables, (contents index).ui32RefCount = 0

/-- When a call is right.  A first allocation from an arena gets its mapping
once it has its segment, and a table that grows does not wrap its size; the
count of a shared slot is not its largest; and the area of a last allocation is
mapped by no process, and has a kernel address if it maps a segment. -/
def Admitted (table : ShareTable) : ShareCall → Prop
  | .allocNew request services =>
    (request.psArena ≠ 0 → services.raAlloc.isSome →
      ∃ pvCpuVAddr hOSMemHandle,
        services.osReservePhys = .mapped pvCpuVAddr hOSMemHandle) ∧
      (table.shareCount + 1 = table.shareSize →
        (table.shareSize + table.shareSize / 2) * sizeofXProcWorkaround <
          2 ^ 32)
  | .allocShared source _ _ =>
    (table.slots source.index).ui32RefCount.toNat + 1 < 2 ^ 32
  | .free allocation removed =>
    let slot := table.slots allocation.index
    slot.ui32RefCount = 1 →
      removed = true ∧ (slot.psArena ≠ 0 → slot.pvCpuVAddr ≠ 0)

/-! ## The invariant -/

/-- What every call keeps. -/
structure Invariant (table : ShareTable) : Prop extends Sound table where
  handles : ∀ allocation ∈ table.live,
    allocation.hOSMemHandle = (table.slots allocation.index).hOSMemHandle
  distinct : ∀ first second,
    (table.slots first).ui32RefCount ≠ 0 →
      (table.slots second).ui32RefCount ≠ 0 →
        (table.slots first).hOSMemHandle =
            (table.slots second).hOSMemHandle →
          first = second
  beyond : ∀ index, table.shareSize ≤ index →
    table.slots index = ShareSlot.zero
  fits : table.shareSize * sizeofXProcWorkaround < 2 ^ 32

theorem Invariant.init
    {contents : Nat → ShareSlot}
    (cleared : Cleared contents) :
    Invariant (ShareTable.init contents) := by
  have unused : ∀ index,
      ((ShareTable.init contents).slots index).ui32RefCount = 0 := by
    intro index
    by_cases inside : index < xprocWorkaroundNumShareables
    · simp only [ShareTable.init, if_pos inside]
      exact cleared index inside
    · simp only [ShareTable.init, if_neg inside]
      rfl
  constructor
  · constructor
    · intro index
      rw [unused]
      rfl
    · intro index
      rw [unused]
      rfl
  · intro allocation live
    exact absurd live List.not_mem_nil
  · intro first second used
    exact absurd (unused first) used
  · intro index outside
    exact if_neg (Nat.not_lt.mpr outside)
  · exact (by decide : 4096 * 48 < 2 ^ 32)

variable {table after : ShareTable} {allocation : Allocation} {index : Nat}
  {slot : ShareSlot} {request : Request} {services : AllocServices}
  {result : AllocResult}

section

variable (invariant : Invariant table)
include invariant

/-- The share index plays no part. -/
theorem Invariant.withShareIndex
    (shareIndex : BitVec 32) :
    Invariant { table with shareIndex := shareIndex } :=
  ⟨⟨invariant.counts, invariant.backed⟩, invariant.handles,
    invariant.distinct, invariant.beyond, invariant.fits⟩

/-- A table may be longer. -/
theorem Invariant.withShareSize
    {shareSize : Nat}
    (longer : table.shareSize ≤ shareSize)
    (fits : shareSize * sizeofXProcWorkaround < 2 ^ 32) :
    Invariant { table with shareSize := shareSize } :=
  ⟨⟨invariant.counts, invariant.backed⟩, invariant.handles,
    invariant.distinct,
    fun index outside => invariant.beyond index (Nat.le_trans longer outside),
    fits⟩

/-- The slot of a live allocation is used. -/
theorem Invariant.used_of_live
    (live : allocation ∈ table.live) :
    (table.slots allocation.index).ui32RefCount ≠ 0 := by
  intro unused
  have count := invariant.counts allocation.index
  rw [unused] at count
  have positive : 0 < table.liveAt allocation.index :=
    List.countP_pos_iff.mpr ⟨allocation, live, decide_eq_true rfl⟩
  rw [← count] at positive
  exact absurd positive (by decide)

/-- A used slot is one of the table. -/
theorem Invariant.index_lt
    (used : (table.slots index).ui32RefCount ≠ 0) :
    index < table.shareSize := by
  by_contra outside
  rw [invariant.beyond index (Nat.not_lt.mp outside)] at used
  exact used rfl

/-- An index of the table is the share index it is set as. -/
theorem Invariant.index_toNat
    (inside : index < table.shareSize) :
    (BitVec.ofNat 32 index).toNat = index := by
  have fits := invariant.fits
  rw [show sizeofXProcWorkaround = 48 from rfl] at fits
  rw [BitVec.toNat_ofNat]
  exact Nat.mod_eq_of_lt (by omega)

/-- A slot that is not used may change its other fields. -/
theorem Invariant.setUnused
    (inside : index < table.shareSize)
    (unused : (table.slots index).ui32RefCount = 0)
    (stillUnused : slot.ui32RefCount = 0) :
    Invariant (table.setSlot index slot) := by
  have counts : ∀ other,
      ((table.setSlot index slot).slots other).ui32RefCount =
        (table.slots other).ui32RefCount := by
    intro other
    by_cases same : other = index
    · subst same
      simp only [setSlot, update_self, stillUnused, unused]
    · simp only [setSlot, update_of_ne same]
  have kept : ∀ other, (table.slots other).ui32RefCount ≠ 0 →
      (table.setSlot index slot).slots other = table.slots other := by
    intro other used
    have apart : other ≠ index := fun same => used (same ▸ unused)
    exact update_of_ne apart _ _
  constructor
  · constructor
    · intro other
      rw [counts]
      exact invariant.counts other
    · intro other
      rw [counts]
      by_cases used : (table.slots other).ui32RefCount = 0
      · rw [if_pos used]
        have empty := invariant.backed other
        rwa [if_pos used] at empty
      · rw [if_neg used, kept other used]
        have full := invariant.backed other
        rwa [if_neg used] at full
  · intro allocation live
    rw [kept _ (invariant.used_of_live live)]
    exact invariant.handles allocation live
  · intro first second usedFirst usedSecond same
    rw [counts] at usedFirst usedSecond
    rw [kept first usedFirst, kept second usedSecond] at same
    exact invariant.distinct first second usedFirst usedSecond same
  · intro other outside
    have apart : other ≠ index := fun same =>
      absurd inside (Nat.not_lt.mpr (same ▸ outside))
    exact (update_of_ne apart _ _).trans (invariant.beyond other outside)
  · exact invariant.fits

end

/-! ## Counting -/

theorem liveAt_append
    (table : ShareTable) (allocation : Allocation) (index : Nat) :
    (table.live ++ [allocation]).countP
        (fun live => decide (live.index = index)) =
      table.liveAt index + if allocation.index = index then 1 else 0 := by
  rw [List.countP_append, List.countP_singleton, ShareTable.liveAt]
  simp only [decide_eq_true_eq]

theorem liveAt_erase
    (live : allocation ∈ table.live)
    (index : Nat) :
    (table.live.erase allocation).countP
        (fun live => decide (live.index = index)) +
        (if allocation.index = index then 1 else 0) =
      table.liveAt index := by
  have split := List.perm_cons_erase live
  rw [ShareTable.liveAt, split.countP_eq, List.countP_cons]
  simp only [decide_eq_true_eq]

/-- A used slot gets another count, and keeps what it stands for. -/
theorem Invariant.recount
    (invariant : Invariant table)
    (used : (table.slots index).ui32RefCount ≠ 0)
    {count : BitVec 32}
    (slots : after.slots = update table.slots index
      { table.slots index with ui32RefCount := count })
    (size : after.shareSize = table.shareSize)
    (counts : ∀ other, (if other = index then count
      else (table.slots other).ui32RefCount).toNat = after.liveAt other)
    (backed : after.backing = update table.backing index
      (if count = 0 then [] else (table.slots index).memory))
    (handles : ∀ live ∈ after.live, live ∈ table.live ∨
      live.hOSMemHandle = (table.slots live.index).hOSMemHandle) :
    Invariant after := by
  have self : after.slots index =
      { table.slots index with ui32RefCount := count } := by
    rw [slots, update_self]
  have others : ∀ other, other ≠ index →
      after.slots other = table.slots other := by
    intro other apart
    rw [slots, update_of_ne apart]
  have sameHandle : ∀ other, (after.slots other).hOSMemHandle =
      (table.slots other).hOSMemHandle := by
    intro other
    by_cases same : other = index
    · rw [same, self]
    · rw [others other same]
  have stays : ∀ other, (after.slots other).ui32RefCount ≠ 0 →
      (table.slots other).ui32RefCount ≠ 0 := by
    intro other usedAfter
    by_cases same : other = index
    · rw [same]
      exact used
    · rwa [others other same] at usedAfter
  constructor
  · constructor
    · intro other
      rw [← counts]
      by_cases same : other = index
      · rw [if_pos same, same, self]
      · rw [if_neg same, others other same]
    · intro other
      rw [backed]
      by_cases same : other = index
      · rw [same, update_self, self]
        rfl
      · rw [update_of_ne same, others other same]
        exact invariant.backed other
  · intro allocation live
    rw [sameHandle]
    exact (handles allocation live).elim (invariant.handles allocation) id
  · intro first second usedFirst usedSecond same
    exact invariant.distinct first second (stays first usedFirst)
      (stays second usedSecond)
      ((sameHandle first).symm.trans (same.trans (sameHandle second)))
  · intro other outside
    rw [size] at outside
    have apart : other ≠ index := fun same =>
      absurd (invariant.index_lt used) (Nat.not_lt.mpr (same ▸ outside))
    exact (others other apart).trans (invariant.beyond other outside)
  · rw [size]
    exact invariant.fits

/-- A used slot takes another allocation. -/
theorem Invariant.reuse
    (invariant : Invariant table)
    (used : (table.slots index).ui32RefCount ≠ 0)
    (noWrap : (table.slots index).ui32RefCount.toNat + 1 < 2 ^ 32) :
    let slot := table.slots index
    Invariant ((table.setSlot index
      { slot with ui32RefCount := slot.ui32RefCount + 1 }).adopt index
        (.ok (slot.pvCpuVAddr, slot.hOSMemHandle))) := by
  intro slot
  have next : (slot.ui32RefCount + 1).toNat = slot.ui32RefCount.toNat + 1 := by
    rw [BitVec.toNat_add]
    exact Nat.mod_eq_of_lt noWrap
  have nextUsed : slot.ui32RefCount + 1 ≠ 0 := by
    intro zero
    rw [zero] at next
    exact absurd next.symm (Nat.succ_ne_zero _)
  have full := invariant.backed index
  rw [if_neg used] at full
  refine invariant.recount used rfl rfl (fun other => ?_) ?_
    fun live member => ?_
  · change _ = (table.live ++ [_]).countP _
    rw [liveAt_append, ← invariant.counts]
    by_cases same : other = index
    · rw [if_pos same, same, if_pos rfl]
      exact next
    · rw [if_neg same, if_neg (Ne.symm same), Nat.add_zero]
  · rw [if_neg nextUsed, ← full]
    exact (Function.update_eq_self ..).symm
  · refine (List.mem_append.mp member).imp_right fun new => ?_
    rw [List.mem_singleton.mp new]

/-- An unused slot is used for memory with a fresh handle. -/
theorem Invariant.use
    (invariant : Invariant table)
    (inside : index < table.shareSize)
    (unused : (table.slots index).ui32RefCount = 0)
    (first : slot.ui32RefCount = 1)
    (fresh : ∀ other, (table.slots other).ui32RefCount ≠ 0 →
      (table.slots other).hOSMemHandle ≠ slot.hOSMemHandle)
    (shareCount : Nat) :
    Invariant (adopt index
      (.ok (slot.pvCpuVAddr, slot.hOSMemHandle))
      { (table.obtain index slot.memory).setSlot index slot with
        shareCount := shareCount }) := by
  let after := (table.obtain index slot.memory).setSlot index slot
  have self : after.slots index = slot := update_self _ _ _
  have others : ∀ other, other ≠ index →
      after.slots other = table.slots other :=
    fun other apart => update_of_ne apart _ _
  have notLive : ∀ allocation ∈ table.live, allocation.index ≠ index :=
    fun allocation live same => invariant.used_of_live live (same ▸ unused)
  have used : slot.ui32RefCount ≠ 0 := by
    rw [first]
    decide
  constructor
  · constructor
    · intro other
      change (after.slots other).ui32RefCount.toNat =
        (table.live ++ [_]).countP _
      rw [liveAt_append, ← invariant.counts]
      by_cases same : other = index
      · subst same
        rw [self, if_pos rfl, first, unused]
        rfl
      · rw [others other same, if_neg (Ne.symm same), Nat.add_zero]
    · intro other
      change update table.backing index _ other =
        if (after.slots other).ui32RefCount = 0 then []
        else (after.slots other).memory
      by_cases same : other = index
      · subst same
        have empty := invariant.backed other
        rw [if_pos unused] at empty
        rw [update_self, self, if_neg used, empty, List.nil_append]
      · rw [update_of_ne same, others other same]
        exact invariant.backed other
  · intro allocation live
    change allocation.hOSMemHandle =
      (after.slots allocation.index).hOSMemHandle
    rcases List.mem_append.mp live with old | new
    · rw [others _ (notLive allocation old)]
      exact invariant.handles allocation old
    · rw [List.mem_singleton.mp new, self]
  · intro one two usedOne usedTwo same
    change (after.slots one).ui32RefCount ≠ 0 at usedOne
    change (after.slots two).ui32RefCount ≠ 0 at usedTwo
    change (after.slots one).hOSMemHandle =
      (after.slots two).hOSMemHandle at same
    by_cases oneNew : one = index
    · by_cases twoNew : two = index
      · rw [oneNew, twoNew]
      · rw [others two twoNew] at usedTwo same
        rw [oneNew, self] at same
        exact absurd same.symm (fresh two usedTwo)
    · rw [others one oneNew] at usedOne same
      by_cases twoNew : two = index
      · rw [twoNew, self] at same
        exact absurd same (fresh one usedOne)
      · rw [others two twoNew] at usedTwo same
        exact invariant.distinct one two usedOne usedTwo same
  · intro other outside
    have apart : other ≠ index := fun same =>
      absurd inside (Nat.not_lt.mpr (same ▸ outside))
    exact (others other apart).trans (invariant.beyond other outside)
  · exact invariant.fits

/-! ## Freeing -/

/-- The handle of a live allocation is found at its index. -/
theorem handleToSI_live
    (invariant : Invariant table)
    (live : allocation ∈ table.live) :
    handleToSI allocation.hOSMemHandle table = some allocation.index := by
  have used := invariant.used_of_live live
  have inside := invariant.index_lt used
  have matched : ∀ index ∈ List.range table.shareSize,
      decide (0 < (table.slots index).ui32RefCount ∧
          (table.slots index).hOSMemHandle = allocation.hOSMemHandle) =
        (index == allocation.index) := by
    intro index _
    rw [Bool.eq_iff_iff, decide_eq_true_iff, beq_iff_eq]
    constructor
    · rintro ⟨positive, same⟩
      have usedHere : (table.slots index).ui32RefCount ≠ 0 := fun zero =>
        absurd (zero ▸ positive) (by decide)
      exact invariant.distinct index allocation.index usedHere used
        (same.trans (invariant.handles allocation live))
    · rintro rfl
      refine ⟨?_, (invariant.handles allocation live).symm⟩
      exact (BitVec.pos_iff_ne_zero _).mpr used
  have only : (List.range table.shareSize).filter (fun index =>
        decide (0 < (table.slots index).ui32RefCount ∧
          (table.slots index).hOSMemHandle = allocation.hOSMemHandle)) =
      [allocation.index] := by
    rw [List.filter_congr matched, List.filter_beq,
      List.count_eq_one_of_mem List.nodup_range (List.mem_range.mpr inside)]
    rfl
  rw [handleToSI, only]

/-- A release that is not refused gives all the memory back. -/
theorem releaseSlot_memory
    (mapped : slot.psArena ≠ 0 → slot.pvCpuVAddr ≠ 0) :
    releaseSlot slot true slot.memory = [] := by
  by_cases arena : slot.psArena = 0
  · rw [releaseSlot, ShareSlot.memory, if_neg (not_not.mpr arena),
      if_neg (not_not.mpr arena)]
    simp [releaseArea, Backing.isAreaOf]
  · rw [releaseSlot, ShareSlot.memory, if_pos arena, if_pos arena,
      if_pos (mapped arena)]
    simp [releaseArea, Backing.isAreaOf, Backing.isSegmentAt]

@[simp] theorem freeShareable_live
    (hOSMemHandle : Address) (removed : Bool) (table : ShareTable) :
    (freeShareable hOSMemHandle removed table).live = table.live := by
  rw [freeShareable]
  split
  · rfl
  · dsimp only
    split <;> rfl

/-- A free takes an allocation from its slot, and the memory with the last. -/
theorem Invariant.free
    (invariant : Invariant table)
    (live : allocation ∈ table.live)
    {removed : Bool}
    (admitted : Admitted table (.free allocation removed)) :
    let freed := freeShareable allocation.hOSMemHandle removed table
    Invariant { freed with live := freed.live.erase allocation } ∧
      freed.shareIndex = table.shareIndex := by
  intro freed
  let index := allocation.index
  let slot := table.slots index
  have used : slot.ui32RefCount ≠ 0 := invariant.used_of_live live
  have pred : (slot.ui32RefCount - 1).toNat + 1 = slot.ui32RefCount.toNat := by
    have positive : slot.ui32RefCount.toNat ≠ 0 := fun zero =>
      used (BitVec.eq_of_toNat_eq zero)
    have bound := slot.ui32RefCount.isLt
    rw [BitVec.toNat_sub, show (1 : BitVec 32).toNat = 1 from rfl]
    omega
  have slots : freed.slots = update table.slots index
      { slot with ui32RefCount := slot.ui32RefCount - 1 } := by
    simp only [freed, freeShareable, handleToSI_live invariant live]
    split <;> rfl
  have size : freed.shareSize = table.shareSize := by
    simp only [freed, freeShareable, handleToSI_live invariant live]
    split <;> rfl
  have lives : freed.live = table.live := freeShareable_live _ _ _
  have shareIndex : freed.shareIndex = table.shareIndex := by
    simp only [freed, freeShareable, handleToSI_live invariant live]
    split <;> rfl
  have backing : freed.backing = update table.backing index
      (if slot.ui32RefCount - 1 = 0 then
        releaseSlot slot removed (table.backing index)
      else
        table.backing index) := by
    simp only [freed, freeShareable, handleToSI_live invariant live]
    by_cases last : slot.ui32RefCount - 1 = 0
    · rw [if_pos last, if_pos last]
    · rw [if_neg last, if_neg last, Function.update_eq_self]
      rfl
  refine ⟨invariant.recount used slots size (fun other => ?_) ?_
    fun other liveAfter => ?_, shareIndex⟩
  · have erased := liveAt_erase live other
    rw [← invariant.counts] at erased
    change _ = (freed.live.erase allocation).countP _
    rw [lives]
    by_cases same : other = index
    · subst same
      rw [if_pos rfl] at erased
      rw [if_pos rfl]
      exact Nat.succ.inj (pred.trans erased.symm)
    · rw [if_neg (Ne.symm same), Nat.add_zero] at erased
      rw [if_neg same]
      exact erased.symm
  · change freed.backing = _
    have full := invariant.backed index
    rw [if_neg used] at full
    rw [backing, full]
    by_cases last : slot.ui32RefCount - 1 = 0
    · have one : slot.ui32RefCount = 1 := by
        apply BitVec.eq_of_toNat_eq
        rw [← pred, last]
        rfl
      obtain ⟨isRemoved, mapped⟩ := admitted one
      rw [if_pos last, if_pos last, isRemoved]
      exact congrArg _ (releaseSlot_memory mapped)
    · rw [if_neg last, if_neg last]
  · change other ∈ freed.live.erase allocation at liveAfter
    rw [lives] at liveAfter
    exact .inl (List.mem_of_mem_erase liveAfter)

/-! ## Allocating -/

/-- Growing the table makes it longer and changes nothing else. -/
theorem shareCheck_cases
    {growTable : Bool}
    (beyond : ∀ index, table.shareSize ≤ index →
      table.slots index = ShareSlot.zero)
    (fits : table.shareSize * sizeofXProcWorkaround < 2 ^ 32)
    (checked : shareCheck growTable table = some after) :
    ∃ shareSize, table.shareSize ≤ shareSize ∧
      shareSize * sizeofXProcWorkaround < 2 ^ 32 ∧
        after = { table with shareSize := shareSize } := by
  rw [shareCheck] at checked
  split at checked
  · split at checked
    · cases checked
      exact ⟨_, Nat.le_refl _, fits, rfl⟩
    · dsimp only at checked
      split at checked
      · rename_i longerFits
        have same : (fun index => if index < table.shareSize
            then table.slots index else ShareSlot.zero) = table.slots := by
          funext index
          split
          · rfl
          · rename_i outside
            exact (beyond index (Nat.not_lt.mp outside)).symm
        cases checked
        rw [same]
        exact ⟨_, Nat.le_add_right _ _, longerFits, rfl⟩
      · exact absurd checked (Option.some_ne_none _).symm
  · cases checked
    exact ⟨_, Nat.le_refl _, fits, rfl⟩

/-- The table does not run over when it does not have to grow too far. -/
theorem shareCheck_isSome
    (growTable : Bool)
    (fits : table.shareCount = table.shareSize →
      (table.shareSize + table.shareSize / 2) * sizeofXProcWorkaround <
        2 ^ 32) :
    (shareCheck growTable table).isSome := by
  rw [shareCheck]
  split
  · rename_i full
    split
    · rfl
    · rw [if_pos (fits full)]
      rfl
  · rfl

/-- A slot with one use more, for the request. -/
def usedSlot
    (request : Request) (ui32AllocFlags : BitVec 32) (slot : ShareSlot) :
    ShareSlot :=
  { slot with
    psArena := request.psArena
    ui32AllocFlags := ui32AllocFlags
    ui32Size := request.ui32Size
    ui32PageSize := request.ui32PageSize
    ui32RefCount := slot.ui32RefCount + 1 }

theorem adopt_withShareSize
    (table : ShareTable)
    (index shareSize : Nat)
    (result : AllocResult) :
    adopt index result { table with shareSize := shareSize } =
      { table.adopt index result with shareSize := shareSize } := by
  cases result with
  | error eError => rfl
  | ok memory => rfl

section

variable (invariant : Invariant table) (inside : index < table.shareSize)
  (unused : (table.slots index).ui32RefCount = 0)
include invariant inside unused

/-- The end of a first allocation. -/
theorem Invariant.useSlot
    {before : ShareTable}
    {ui32AllocFlags : BitVec 32}
    (ends : XProc.useSlot index request ui32AllocFlags services before =
      some (result, after))
    (count : (before.slots index).ui32RefCount = 0)
    (others : ∀ other, other ≠ index →
      before.slots other = table.slots other)
    (placed : before = { table.obtain index
        (usedSlot request ui32AllocFlags (before.slots index)).memory with
      slots := before.slots })
    (fresh : ∀ other, (table.slots other).ui32RefCount ≠ 0 →
      (table.slots other).hOSMemHandle ≠ (before.slots index).hOSMemHandle) :
    Invariant (after.adopt index result) ∧
      after.shareIndex = table.shareIndex := by
  obtain ⟨checked, checkedEq, pair⟩ := Option.map_eq_some_iff.mp ends
  cases pair
  let slot := usedSlot request ui32AllocFlags (before.slots index)
  have first : slot.ui32RefCount = 1 := by
    change (before.slots index).ui32RefCount + 1 = 1
    rw [count]
    rfl
  have slots : update before.slots index slot =
      update table.slots index slot := by
    funext other
    by_cases same : other = index
    · rw [same, update_self, update_self]
    · rw [update_of_ne same, update_of_ne same, others other same]
  let full : ShareTable :=
    { (table.obtain index slot.memory).setSlot index slot with
      shareCount := table.shareCount + 1 }
  have start : ({ before.setSlot index slot with
        shareCount := before.shareCount + 1 } : ShareTable) = full := by
    rw [placed]
    simp only [full, setSlot, ShareTable.obtain, slots]
    rfl
  have used := invariant.use inside unused first fresh (table.shareCount + 1)
  have grown : shareCheck services.growTable full = some after := by
    rw [← start]
    exact checkedEq
  have beyond : ∀ other, full.shareSize ≤ other →
      full.slots other = ShareSlot.zero := used.beyond
  obtain ⟨shareSize, longer, fits, afterEq⟩ :=
    shareCheck_cases beyond used.fits grown
  rw [afterEq, adopt_withShareSize]
  exact ⟨used.withShareSize longer fits, rfl⟩

/-- A handle that is not that of a used slot. -/
def FreshHandle (table : ShareTable) (result : OSResult) : Prop :=
  ∀ pvCpuVAddr hOSMemHandle, result = .mapped pvCpuVAddr hOSMemHandle →
    ∀ index, (table.slots index).ui32RefCount ≠ 0 →
      (table.slots index).hOSMemHandle ≠ hOSMemHandle

/-- A first allocation from an arena whose mapping succeeds. -/
theorem Invariant.allocLocal
    (arena : request.psArena ≠ 0)
    (mapped : services.raAlloc.isSome →
      ∃ pvCpuVAddr hOSMemHandle,
        services.osReservePhys = .mapped pvCpuVAddr hOSMemHandle)
    (fresh : FreshHandle table services.osReservePhys)
    (runs : XProc.allocLocal index request services table =
      some (result, after)) :
    Invariant (after.adopt index result) ∧
      after.shareIndex = table.shareIndex := by
  cases segment : services.raAlloc with
  | none =>
    simp only [XProc.allocLocal, segment] at runs
    cases runs
    exact ⟨invariant, rfl⟩
  | some sSysPAddr =>
    obtain ⟨pvCpuVAddr, hOSMemHandle, mapping⟩ := mapped (by rw [segment]; rfl)
    simp only [XProc.allocLocal, segment, mapping] at runs
    refine invariant.useSlot inside unused runs ?_ ?_ ?_ ?_
    · simp only [ShareTable.obtain, setSlot, OSResult.store, update_self,
        unused]
    · intro other apart
      simp only [ShareTable.obtain, setSlot, update_of_ne apart]
    · simp only [ShareTable.obtain, setSlot, OSResult.store, update_self,
        usedSlot, ShareSlot.memory, if_pos arena]
    · simp only [ShareTable.obtain, setSlot, OSResult.store, update_self]
      exact fresh pvCpuVAddr hOSMemHandle mapping

/-- A first allocation in pages. -/
theorem Invariant.allocPages
    (noArena : request.psArena = 0)
    (fresh : FreshHandle table services.osAllocPages)
    (runs : XProc.allocPages index request services table =
      some (result, after)) :
    Invariant (after.adopt index result) ∧
      after.shareIndex = table.shareIndex := by
  cases pages : services.osAllocPages with
  | mapped pvCpuVAddr hOSMemHandle =>
    simp only [XProc.allocPages, pages] at runs
    refine invariant.useSlot inside unused runs ?_ ?_ ?_ ?_
    · simp only [ShareTable.obtain, setSlot, OSResult.store, update_self,
        unused]
    · intro other apart
      simp only [ShareTable.obtain, setSlot, update_of_ne apart]
    · simp only [ShareTable.obtain, setSlot, OSResult.store, update_self,
        usedSlot, ShareSlot.memory, noArena, ne_eq, not_true_eq_false, if_false]
    · simp only [ShareTable.obtain, setSlot, OSResult.store, update_self]
      exact fresh pvCpuVAddr hOSMemHandle pages
  | failed | cleared =>
    simp only [XProc.allocPages, pages] at runs
    cases runs
    exact ⟨invariant.setUnused inside unused unused, rfl⟩

end

/-- An allocation at an index of the table stays in the table. -/
theorem allocShareable_isSome
    (indexEq : table.shareIndex.toNat = index)
    (inside : index < table.shareSize)
    (request : Request)
    (services : AllocServices)
    (grows : (table.slots index).ui32RefCount = 0 →
      table.shareCount + 1 = table.shareSize →
        (table.shareSize + table.shareSize / 2) * sizeofXProcWorkaround <
          2 ^ 32) :
    (allocShareable request services table).isSome := by
  have used : ∀ (before : ShareTable) (ui32AllocFlags : BitVec 32),
      (table.slots index).ui32RefCount = 0 →
        before.shareCount = table.shareCount →
          before.shareSize = table.shareSize →
            (useSlot index request ui32AllocFlags services before).isSome := by
    intro before ui32AllocFlags unused count size
    rw [useSlot, Option.isSome_map]
    apply shareCheck_isSome
    intro full
    simp only [setSlot, count, size] at full ⊢
    exact grows unused full
  rw [allocShareable]
  split
  · rfl
  · simp only [indexEq, if_pos inside]
    by_cases unused : (table.slots index).ui32RefCount = 0
    · have notUsed : ¬ 0 < (table.slots index).ui32RefCount := by
        rw [unused]
        decide
      rw [if_neg notUsed]
      split
      · rw [allocLocal]
        cases services.raAlloc with
        | none => rfl
        | some sSysPAddr =>
          cases mapping : services.osReservePhys with
          | mapped pvCpuVAddr hOSMemHandle => exact used _ _ unused rfl rfl
          | failed => rfl
          | cleared => rfl
      · rw [allocPages]
        cases pages : services.osAllocPages with
        | mapped pvCpuVAddr hOSMemHandle => exact used _ _ unused rfl rfl
        | failed => rfl
        | cleared => rfl
    · have positive : 0 < (table.slots index).ui32RefCount :=
        (BitVec.pos_iff_ne_zero _).mpr unused
      rw [if_pos positive]
      rfl

/-! ## Calls -/

/-- The share index is unset after an allocation. -/
theorem unsetShareIndex_unset (ui32Index : BitVec 32) (table : ShareTable)
    (set : table.shareIndex = ui32Index ∨
      table.shareIndex = xprocWorkaroundBadShareIndex) :
    (unsetShareIndex ui32Index table).2 =
      { table with shareIndex := xprocWorkaroundBadShareIndex } := by
  rw [unsetShareIndex]
  split
  · rename_i bad
    rw [← bad]
  · rename_i notBad
    rw [if_neg (not_not.mpr (set.resolve_right notBad))]

theorem adopt_withShareIndex
    (table : ShareTable)
    (index : Nat)
    (shareIndex : BitVec 32)
    (result : AllocResult) :
    adopt index result { table with shareIndex := shareIndex } =
      { table.adopt index result with shareIndex := shareIndex } := by
  cases result with
  | error eError => rfl
  | ok memory => rfl

section

variable
    (invariant : Invariant table)
    (inside : index < table.shareSize)
    (first : (table.slots index).ui32RefCount = 0 →
      FreshHandle table services.osReservePhys ∧
        FreshHandle table services.osAllocPages ∧
          (request.psArena ≠ 0 → services.raAlloc.isSome →
            ∃ pvCpuVAddr hOSMemHandle,
              services.osReservePhys = .mapped pvCpuVAddr hOSMemHandle))
    (another : (table.slots index).ui32RefCount ≠ 0 →
      (table.slots index).ui32RefCount.toNat + 1 < 2 ^ 32)
include invariant inside first another

/-- An allocation at a share index of the table. -/
theorem Invariant.allocShareable
    (indexEq : table.shareIndex.toNat = index)
    (runs : XProc.allocShareable request services table =
      some (result, after)) :
    Invariant (after.adopt index result) ∧
      after.shareIndex = table.shareIndex := by
  rw [XProc.allocShareable] at runs
  split at runs
  · cases runs
    exact ⟨invariant, rfl⟩
  · simp only [indexEq, if_pos inside] at runs
    by_cases unused : (table.slots index).ui32RefCount = 0
    · have notUsed : ¬ 0 < (table.slots index).ui32RefCount := by
        rw [unused]
        decide
      rw [if_neg notUsed] at runs
      obtain ⟨freshMapping, freshPages, mapped⟩ := first unused
      by_cases arena : request.psArena = 0
      · rw [if_neg (not_not.mpr arena)] at runs
        exact invariant.allocPages inside unused arena freshPages runs
      · rw [if_pos arena] at runs
        exact invariant.allocLocal inside unused arena (mapped arena)
          freshMapping runs
    · have positive : 0 < (table.slots index).ui32RefCount :=
        (BitVec.pos_iff_ne_zero _).mpr unused
      rw [if_pos positive] at runs
      have reused := invariant.reuse unused (another unused)
      have runs := Option.some.inj runs
      rw [reuseSlot] at runs
      split at runs
      · cases runs
        exact ⟨invariant, rfl⟩
      · split at runs
        · cases runs
          exact ⟨invariant, rfl⟩
        · split at runs
          · cases runs
            exact ⟨invariant, rfl⟩
          · cases runs
            exact ⟨reused, rfl⟩

/-- An allocation with its share index set before and unset after it. -/
theorem Invariant.allocAt
    (runs : XProc.allocAt index request services
      { table with shareIndex := BitVec.ofNat 32 index } = some after) :
    Invariant after ∧ after.shareIndex = xprocWorkaroundBadShareIndex := by
  obtain ⟨⟨result, between⟩, allocated, rfl⟩ := Option.map_eq_some_iff.mp runs
  have indexEq := invariant.index_toNat inside
  obtain ⟨kept, shareIndex⟩ :=
    (invariant.withShareIndex (BitVec.ofNat 32 index)).allocShareable inside
      first another indexEq allocated
  dsimp only
  rw [unsetShareIndex_unset _ _ (.inl shareIndex), adopt_withShareIndex]
  refine ⟨kept.withShareIndex _, ?_⟩
  cases result with
  | error eError => rfl
  | ok memory => rfl

end

theorem Invariant.allocAt_isSome
    (invariant : Invariant table)
    (inside : index < table.shareSize)
    (request : Request)
    (services : AllocServices)
    (grows : (table.slots index).ui32RefCount = 0 →
      table.shareCount + 1 = table.shareSize →
        (table.shareSize + table.shareSize / 2) * sizeofXProcWorkaround <
          2 ^ 32) :
    (XProc.allocAt index request services
      { table with shareIndex := BitVec.ofNat 32 index }).isSome := by
  let set : ShareTable := { table with shareIndex := BitVec.ofNat 32 index }
  have indexEq : set.shareIndex.toNat = index := invariant.index_toNat inside
  have inTable : (XProc.allocShareable request services set).isSome :=
    allocShareable_isSome indexEq inside request services grows
  rwa [XProc.allocAt, Option.isSome_map]

/-- The slot that is found for a new allocation. -/
theorem findNewBufferAndSetShareIndex_ok
    {set : ShareTable}
    (found : findNewBufferAndSetShareIndex table = .ok (index, set)) :
    index < table.shareSize ∧ (table.slots index).ui32RefCount = 0 ∧
      set = { table with shareIndex := BitVec.ofNat 32 index } := by
  rw [findNewBufferAndSetShareIndex] at found
  split at found
  · exact absurd found (by simp)
  · cases search : (List.range table.shareSize).find? fun index =>
        (table.slots index).ui32RefCount = 0 with
    | none =>
      rw [search] at found
      exact absurd found (by simp)
    | some slot =>
      rw [search] at found
      cases found
      have unused := List.find?_some search
      refine ⟨?_, of_decide_eq_true unused, rfl⟩
      exact List.mem_range.mp (List.mem_of_find?_eq_some search)

/-- The share index that is unset is set. -/
theorem setShareIndex_unset
    (unset : table.shareIndex = xprocWorkaroundBadShareIndex)
    (ui32Index : BitVec 32) :
    setShareIndex ui32Index table =
      (pvrsrvOk, { table with shareIndex := ui32Index }) := by
  rw [setShareIndex, if_neg (not_not.mpr unset)]

section

variable {made : ShareCall} (invariant : Invariant table)
  (unset : table.shareIndex = xprocWorkaroundBadShareIndex)
  (valid : made.Valid table) (admitted : Admitted table made)
include invariant unset valid admitted

/-- Every admitted call keeps the invariant. -/
theorem Invariant.call
    (runs : made.run table = some after) :
    Invariant after ∧ after.shareIndex = xprocWorkaroundBadShareIndex := by
  cases made with
  | allocNew request services =>
    rw [ShareCall.run] at runs
    cases found : findNewBufferAndSetShareIndex table with
    | error eError =>
      rw [found] at runs
      cases runs
      exact ⟨invariant, unset⟩
    | ok pair =>
      obtain ⟨index, set⟩ := pair
      rw [found] at runs
      obtain ⟨inside, unused, rfl⟩ := findNewBufferAndSetShareIndex_ok found
      refine invariant.allocAt inside (fun _ => ⟨?_, ?_, admitted.1⟩)
        (fun used => absurd unused used) runs
      · intro pvCpuVAddr hOSMemHandle mapped
        exact valid pvCpuVAddr hOSMemHandle (.inl mapped)
      · intro pvCpuVAddr hOSMemHandle mapped
        exact valid pvCpuVAddr hOSMemHandle (.inr mapped)
  | allocShared source request services =>
    have used := invariant.used_of_live valid
    rw [ShareCall.run, setShareIndex_unset unset] at runs
    exact invariant.allocAt (invariant.index_lt used)
      (fun unused => absurd unused used) (fun _ => admitted) runs
  | free allocation removed =>
    cases runs
    obtain ⟨kept, shareIndex⟩ := invariant.free valid admitted
    exact ⟨kept, shareIndex.trans unset⟩

/-- No admitted call leaves the table. -/
theorem Invariant.run_isSome :
    (made.run table).isSome := by
  cases made with
  | allocNew request services =>
    rw [ShareCall.run]
    cases found : findNewBufferAndSetShareIndex table with
    | error eError => rfl
    | ok pair =>
      obtain ⟨index, set⟩ := pair
      obtain ⟨inside, unused, rfl⟩ := findNewBufferAndSetShareIndex_ok found
      exact invariant.allocAt_isSome inside request services fun _ =>
        admitted.2
  | allocShared source request services =>
    have used := invariant.used_of_live valid
    have inside := invariant.index_lt used
    rw [ShareCall.run, setShareIndex_unset unset]
    exact invariant.allocAt_isSome inside request services fun unused =>
      absurd unused used
  | free allocation removed => rfl

end

/-- In every run of admitted calls each slot counts its live allocations and
has its memory exactly while it is used, and the next call finds its slot in
the table. -/
theorem shares_sound
    {table : ShareTable}
    (reached : Reached Cleared Admitted table) :
    Sound table ∧ ∀ call : ShareCall, call.Valid table →
      Admitted table call → (call.run table).isSome := by
  have kept : Invariant table ∧
      table.shareIndex = xprocWorkaroundBadShareIndex := by
    induction reached with
    | init start => exact ⟨Invariant.init start, rfl⟩
    | call before valid admitted runs ih =>
      exact ih.1.call ih.2 valid admitted runs
  refine ⟨kept.1.toSound, ?_⟩
  intro call valid admitted
  exact kept.1.run_isSome kept.2 valid admitted

/-! ## Two pages of one process -/

/-- A table in cleared memory. -/
def clearedTable : ShareTable := ShareTable.init fun _ => ShareSlot.zero

theorem cleared_zero : Cleared fun _ => ShareSlot.zero := fun _ _ => rfl

/-- A request of two pages for a single process, from an arena or not. -/
def pagesRequest (psArena : Address) : Request where
  psArena := psArena
  ui32AllocFlags := pvrsrvMemXProc ||| pvrsrvHapSingleProcess
  ui32Size := 0x2000
  ui32PageSize := 0x1000

/-- The memory is there.  A mapping for a single process has no kernel
address. -/
def pagesService : AllocServices where
  raAlloc := some 0x80000000
  osReservePhys := .mapped 0 0x40
  osAllocPages := .mapped 0 0x40
  growTable := true

/-- The slot of such a request. -/
def pagesSlot (psArena sSysPAddr : Address) : ShareSlot where
  ui32RefCount := 1
  ui32AllocFlags := pvrsrvMemXProc ||| pvrsrvHapSingleProcess
  ui32Size := 0x2000
  ui32PageSize := 0x1000
  psArena := psArena
  sSysPAddr := sSysPAddr
  pvCpuVAddr := 0
  hOSMemHandle := 0x40

/-- The table with one such allocation. -/
def pagesTable (psArena sSysPAddr : Address) : ShareTable where
  shareIndex := xprocWorkaroundBadShareIndex
  slots := Function.update clearedTable.slots 0 (pagesSlot psArena sSysPAddr)
  shareSize := xprocWorkaroundNumShareables
  shareCount := 1
  backing :=
    Function.update (fun _ => []) 0 (pagesSlot psArena sSysPAddr).memory
  live := [⟨0, 0, 0x40⟩]

theorem findNew_clearedTable :
    findNewBufferAndSetShareIndex clearedTable =
      .ok (0, { clearedTable with shareIndex := 0 }) := by
  have first : (List.range clearedTable.shareSize).find? (fun index =>
      decide ((clearedTable.slots index).ui32RefCount = 0)) = some 0 := by
    rw [show clearedTable.shareSize = 4095 + 1 from rfl,
      List.range_succ_eq_map]
    exact List.find?_cons_of_pos rfl
  rw [findNewBufferAndSetShareIndex, first]
  rfl

/-- The first allocation, with the segment's address if there is an arena. -/
theorem pagesTable_run
    {psArena sSysPAddr : Address}
    (address : sSysPAddr = if psArena = 0 then 0 else 0x80000000) :
    (ShareCall.allocNew (pagesRequest psArena) pagesService).run
      clearedTable = some (pagesTable psArena sSysPAddr) := by
  have xproc :
      (pagesRequest psArena).ui32AllocFlags &&& pvrsrvMemXProc ≠ 0 := by
    change (pvrsrvMemXProc ||| pvrsrvHapSingleProcess) &&& pvrsrvMemXProc ≠ 0
    decide
  have single : singleProcess (pvrsrvMemXProc ||| pvrsrvHapSingleProcess) =
      pvrsrvMemXProc ||| pvrsrvHapSingleProcess := by
    decide
  have allocated : allocShareable (pagesRequest psArena) pagesService
        { clearedTable with shareIndex := 0 } =
      some (.ok (0, 0x40), { pagesTable psArena sSysPAddr with
        shareIndex := 0, live := [] }) := by
    rw [allocShareable, if_neg xproc]
    by_cases arena : psArena = 0
    · subst arena
      rw [if_pos rfl] at address
      change allocPages 0 (pagesRequest 0) pagesService
        { clearedTable with shareIndex := 0 } = _
      simp only [allocPages, pagesService, useSlot, shareCheck,
        ShareTable.obtain, setSlot, update_self, Function.update_idem,
        pagesRequest, pagesTable, OSResult.store, single, address]
      simp [clearedTable, ShareTable.init, pagesSlot, ShareSlot.memory,
        xprocWorkaroundNumShareables, ShareSlot.zero]
    · rw [if_neg arena] at address
      have first : ¬ (0 : BitVec 32) <
          ((clearedTable.slots 0).ui32RefCount) := by decide
      change (if _ then if 0 < (clearedTable.slots 0).ui32RefCount then _
        else if psArena ≠ 0 then _ else _ else _) = _
      rw [if_pos (by decide), if_neg first, if_pos arena]
      simp only [allocLocal, pagesService, useSlot, shareCheck,
        ShareTable.obtain, setSlot, update_self, Function.update_idem,
        pagesRequest, pagesTable, OSResult.store, address]
      have memory : ∀ backing : Nat → List Backing, update backing 0
          (pagesSlot psArena 0x80000000).memory = update backing 0
            [.segment psArena 0x2000 0x80000000, .mapping
              (pvrsrvMemXProc ||| pvrsrvHapSingleProcess) 0x2000 0 0x40] :=
        fun backing => congrArg (update backing 0) (if_pos arena)
      rw [memory]
      simp [clearedTable, ShareTable.init, pagesSlot,
        xprocWorkaroundNumShareables, ShareSlot.zero]
  simp only [ShareCall.run, findNew_clearedTable, allocAt]
  rw [allocated]
  rfl

theorem pagesRequest_valid (psArena : Address) :
    (ShareCall.allocNew (pagesRequest psArena) pagesService).Valid
      clearedTable := by
  intro pvCpuVAddr hOSMemHandle _ index used
  have unused : (clearedTable.slots index).ui32RefCount = 0 := by
    simp only [clearedTable, ShareTable.init, ite_self]
    rfl
  exact absurd unused used

theorem pagesRequest_admitted (psArena : Address) :
    Admitted clearedTable (.allocNew (pagesRequest psArena) pagesService) := by
  refine ⟨fun _ _ => ⟨0, 0x40, rfl⟩, fun full => ?_⟩
  exact absurd full (by decide)

/-- A shared allocation of two pages and its free. -/
theorem shares_sound_page :
    let shared := pagesTable 0 0
    let free := ShareCall.free ⟨0, 0, 0x40⟩ true
    Sound shared ∧ (free.run shared).isSome := by
  intro shared free
  have reached : Reached Cleared Admitted shared :=
    .call (.init cleared_zero) (pagesRequest_valid 0)
      (pagesRequest_admitted 0) (pagesTable_run rfl)
  have sound := shares_sound reached
  have valid : free.Valid shared := List.mem_singleton_self _
  have admitted : Admitted shared free := fun _ =>
    ⟨rfl, fun arena => absurd rfl arena⟩
  exact ⟨sound.1, sound.2 free valid admitted⟩

/-- The mapping of an arena's segment for a single process is not given back
when its allocation is freed, since it has no kernel address. -/
theorem shares_unsound :
    let mapped := pagesTable 8 0x80000000
    let freed := { freeShareable 0x40 true mapped with live := [] }
    Reached Cleared (fun _ _ => True) freed ∧ ¬ Sound freed := by
  intro mapped freed
  have ran : (ShareCall.allocNew (pagesRequest 8) pagesService).run
      clearedTable = some mapped :=
    pagesTable_run rfl
  have invariant : Invariant mapped :=
    ((Invariant.init cleared_zero).call rfl (pagesRequest_valid 8)
      (pagesRequest_admitted 8) ran).1
  have live : (⟨0, 0, 0x40⟩ : Allocation) ∈ mapped.live :=
    List.mem_singleton_self _
  have found := handleToSI_live invariant live
  dsimp only at found
  have run : (ShareCall.free ⟨0, 0, 0x40⟩ true).run mapped = some freed := by
    have none : mapped.live.erase ⟨0, 0, 0x40⟩ = [] :=
      List.erase_cons_head _ _
    simp only [ShareCall.run, freeShareable_live, none, freed]
  have reached : Reached Cleared (fun _ _ => True) mapped :=
    .call (.init cleared_zero) (pagesRequest_valid 8) trivial ran
  have valid : (ShareCall.free ⟨0, 0, 0x40⟩ true).Valid mapped := live
  refine ⟨.call reached valid trivial run, ?_⟩
  intro sound
  have last : (mapped.slots 0).ui32RefCount - 1 = 0 := by
    change (pagesSlot 8 0x80000000).ui32RefCount - 1 = 0
    decide
  have kept : freed.backing 0 = releaseSlot (pagesSlot 8 0x80000000) true
      (pagesSlot 8 0x80000000).memory := by
    simp only [freed, freeShareable, found, if_pos last]
    exact Function.update_self _ _ _
  have unused : (freed.slots 0).ui32RefCount = 0 := by
    simp only [freed, freeShareable, found, if_pos last]
    exact last
  have given := sound.backed 0
  rw [kept, if_pos unused] at given
  exact absurd given (by decide)

end PvrServices.XProc
