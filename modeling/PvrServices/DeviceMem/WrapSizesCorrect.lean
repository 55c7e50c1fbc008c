import PvrServices.BufferManager.WrapPagesCorrect
import PvrServices.DeviceMem.WrapSizes

/-!
# When a wrap is as large as it was asked to be

A wrap that succeeds covers its size and offset, and reads no more of the
array of page addresses than there is, just if the sum of size and offset is
neither nothing nor too large for 32 bits, and the user has given an address
or enough entries.
-/

namespace PvrServices.DeviceMem.WrapSizes

open Function (update_self)
open BufferManager
  (Address BmBuf hostPagealign oneLess pvrsrvMemUserSuppliedDevvaddr)
open BufferManager.WrapPages
open Resman (pvrsrvOk)
open Option (bind_eq_bind bind_some)
open WrapState (bmFree buf_of_mappingOf freeBuf mappingOf_eq wrapNew)

/-! ## What is to hold -/

/-- The size and the offset, without the limits of machine words. -/
def WrapExtMemoryIn.byteCount (input : WrapExtMemoryIn) : Nat :=
  input.ui32ByteSize.toNat + input.uPageOffset.toNat

/-- The pages cover the size and the offset, what is read of the array is
there, and so is a device range that is long enough and not empty. -/
structure Wrapped.Sized
    (wrapped : Wrapped) (input : WrapExtMemoryIn) (after : WrapState) :
    Prop where
  pages : input.byteCount ≤ input.uPageCount.toNat * 4096
  reads : ∀ i ∈ wrapped.reads, i < wrapped.entries
  range : ∃ mapping, after.mappingOf wrapped.hBuffer = some mapping ∧
    0 < mapping.uSize.toNat ∧ input.byteCount ≤ mapping.uSize.toNat

/-- The call returns an error. -/
def Fails
    (state : WrapState) (input : WrapExtMemoryIn) (answers : WrapExtAnswers) :
    Prop :=
  ∃ after failure,
    wrapExtMemoryBW state input answers = some (after, .error failure)

/-- The call returns memory that is sized as it should be. -/
def Sizes
    (state : WrapState) (input : WrapExtMemoryIn) (answers : WrapExtAnswers) :
    Prop :=
  ∃ after wrapped,
    wrapExtMemoryBW state input answers = some (after, .ok wrapped) ∧
      wrapped.Sized input after

/-! ## When it holds -/

/-- The number of entries that are copied from the user. -/
def WrapExtMemoryIn.copied (input : WrapExtMemoryIn) : Nat :=
  input.ui32PageTableSize.toNat / 8

/-- The sum of size and offset is not zero and fits, rounded to pages.  Where
the user has given no address, there is an entry, and one for each page of
scattered memory that has not been wrapped before. -/
structure WrapExtMemoryIn.Fits
    (input : WrapExtMemoryIn) (state : WrapState) : Prop where
  positive : 0 < input.byteCount
  size : input.byteCount + 4095 < 2 ^ 32
  entries : input.pvLinAddr = 0 → 0 < input.copied
  scattered : input.pvLinAddr = 0 → input.bPhysContig = false →
    matchesPrevious state
        (input.psSysPAddr 0 + input.uPageOffset.setWidth 64)
        (hostPagealign (input.ui32ByteSize + input.uPageOffset)) = false →
      (input.byteCount + 4095) / 4096 ≤ input.copied

/-! ## Rounding -/

/-- The number of pages is that of the mapping. -/
theorem uPageCount_toNat (input : WrapExtMemoryIn) :
    input.uPageCount.toNat * 4096 =
      (hostPagealign (input.ui32ByteSize + input.uPageOffset)).toNat := by
  rw [WrapExtMemoryIn.uPageCount, BitVec.toNat_udiv, hostPagealign_toNat]
  show _ / 4096 * 4096 = _
  omega

/-- The pages cover the sum, and there are any, just if the sum is positive and
fits. -/
theorem byteCount_le_iff (input : WrapExtMemoryIn) :
    0 < (hostPagealign (input.ui32ByteSize + input.uPageOffset)).toNat ∧
        input.byteCount ≤
          (hostPagealign (input.ui32ByteSize + input.uPageOffset)).toNat ↔
      0 < input.byteCount ∧ input.byteCount + 4095 < 2 ^ 32 := by
  rw [hostPagealign_toNat, BitVec.toNat_add, WrapExtMemoryIn.byteCount]
  omega

variable {input : WrapExtMemoryIn} {array : PageArray} {state : WrapState}

/-- The number of pages of a sum that fits. -/
theorem uPageCount_of_fits
    (fits : input.byteCount + 4095 < 2 ^ 32) :
    input.uPageCount.toNat = (input.byteCount + 4095) / 4096 := by
  have whole := uPageCount_toNat input
  rw [hostPagealign_toNat, BitVec.toNat_add] at whole
  rw [WrapExtMemoryIn.byteCount] at fits ⊢
  omega

/-- Cutting an address to its page. -/
theorem and_not_mask_toNat (addr : BitVec 32) :
    (addr &&& ~~~4095).toNat = addr.toNat / 4096 * 4096 := by
  have aligned := hostPagealign_toNat (addr - 4095)
  rw [hostPagealign, BitVec.sub_add_cancel] at aligned
  have same : ((addr - 4095).toNat + 4095) % 2 ^ 32 = addr.toNat := by
    have back := congrArg BitVec.toNat (BitVec.sub_add_cancel addr 4095)
    rwa [BitVec.toNat_add] at back
  rw [aligned, same]

/-- Rounding changes nothing where there are whole pages. -/
theorem round_of_aligned
    {count : Nat}
    (aligned : count % 4096 = 0) :
    (count % 2 ^ 32 + 4095) % 2 ^ 32 / 4096 * 4096 = count % 2 ^ 32 := by
  omega

/-- The address of the page is aligned in 32 bits, too. -/
theorem page_aligned
    (given : input.pvLinAddr ≠ 0) :
    ((input.pvLinAddr - input.uPageOffset.setWidth 64).setWidth 32 :
      BitVec 32).toNat % 4096 = 0 := by
  have offset : (input.uPageOffset.setWidth 64).toNat =
      input.pvLinAddr.toNat % 4096 := by
    rw [WrapExtMemoryIn.uPageOffset, if_pos given]
    have low : (input.pvLinAddr &&& 4095).toNat =
        input.pvLinAddr.toNat % 4096 := by
      rw [BitVec.toNat_and]
      exact Nat.and_two_pow_sub_one_eq_mod _ 12
    rw [BitVec.toNat_setWidth, BitVec.toNat_setWidth, low]
    omega
  have bound := input.pvLinAddr.isLt
  rw [BitVec.toNat_setWidth, BitVec.toNat_sub, offset]
  omega

/-! ## The array -/

/-- The pages that are acquired are those that are counted, and there is
one. -/
theorem osAcquirePhysPageAddr_count
    {memory : Nat → BitVec 64}
    {acquired : Option (Nat → BitVec 64)}
    (given : input.pvLinAddr ≠ 0)
    (acquires : osAcquirePhysPageAddr
      (input.pvLinAddr - input.uPageOffset.setWidth 64)
      (input.uPageCount * 4096) memory acquired = some array) :
    array.count = input.uPageCount.toNat ∧ 0 < array.count := by
  have aligned := page_aligned given
  unfold osAcquirePhysPageAddr at acquires
  simp only at acquires
  generalize (input.pvLinAddr - input.uPageOffset.setWidth 64).setWidth 32 =
    start at aligned acquires
  have whole := uPageCount_toNat input
  have last := (hostPagealign (input.ui32ByteSize + input.uPageOffset)).isLt
  have bytes : (input.uPageCount * 4096).toNat =
      input.uPageCount.toNat * 4096 := by
    rw [BitVec.toNat_mul]
    exact Nat.mod_eq_of_lt (whole ▸ last)
  have first : (start &&& ~~~4095).toNat = start.toNat := by
    rw [and_not_mask_toNat]
    exact Nat.div_mul_cancel (Nat.dvd_of_mod_eq_zero aligned)
  have beyond : (hostPagealign (start + input.uPageCount * 4096)).toNat =
      (start.toNat + input.uPageCount.toNat * 4096) % 2 ^ 32 := by
    rw [hostPagealign_toNat, BitVec.toNat_add, bytes]
    exact round_of_aligned (by omega)
  split at acquires
  · cases acquires
  · rename_i before
    rw [BitVec.le_def, first, beyond] at before
    obtain ⟨pages, _, rfl⟩ := Option.map_eq_some_iff.mp acquires
    have count : ((hostPagealign (start + input.uPageCount * 4096) -
        (start &&& ~~~4095)) >>> 12).toNat = input.uPageCount.toNat := by
      rw [BitVec.toNat_ushiftRight, Nat.shiftRight_eq_div_pow,
        BitVec.toNat_sub, first, beyond]
      omega
    refine ⟨count, ?_⟩
    show 0 < BitVec.toNat _
    rw [count]
    omega

/-! ## What `BM_Wrap` does -/

section Wrapping

variable {state : WrapState} {request : WrapRequest} {answers : PageAnswers}
  {mapping : WrapMapping}

/-- `FreeBuf` of a buffer that has a mapping returns. -/
theorem freeBuf_runs
    {pBuf : Address}
    (isMapping : state.mappingOf pBuf = some mapping)
    (ui32Flags : BitVec 32)
    (cleared : Nat → Bool) :
    ∃ after, state.freeBuf pBuf ui32Flags cleared = some after := by
  obtain ⟨buf, isBuf, found⟩ := buf_of_mappingOf isMapping
  unfold freeBuf
  simp only [isBuf, found, bind_eq_bind, bind_some]
  by_cases user : ui32Flags &&& pvrsrvMemUserSuppliedDevvaddr ≠ 0
  · rw [if_pos user]
    split
    · exact ⟨_, rfl⟩
    · exact ⟨_, rfl⟩
  · rw [if_neg user]
    split
    · exact ⟨_, rfl⟩
    · exact ⟨_, rfl⟩

/-- `BM_Free` of a buffer that has a mapping returns. -/
theorem bmFree_runs
    {hBuf : Address}
    (isMapping : state.mappingOf hBuf = some mapping)
    (ui32Flags : BitVec 32)
    (cleared : Nat → Bool) :
    ∃ after, state.bmFree hBuf ui32Flags cleared = some after := by
  obtain ⟨buf, isBuf, found⟩ := buf_of_mappingOf isMapping
  have counted : ∀ ui32RefCount,
      (state.setBuf hBuf { buf with ui32RefCount }).mappingOf hBuf =
        some mapping := by
    intro ui32RefCount
    rw [mappingOf_eq (update_self hBuf _ _)]
    exact found
  unfold bmFree
  simp only [isBuf, bind_eq_bind, bind_some]
  split
  · have kept : (state.setBuf hBuf { buf with
        ui32RefCount := oneLess buf.ui32RefCount }).mappings buf.pMapping =
          some mapping :=
      found
    rw [kept, bind_some]
    split
    · have removed : ((state.setBuf hBuf { buf with
          ui32RefCount := oneLess buf.ui32RefCount }).hashRemove
            buf.cpuPAddr).mappingOf hBuf = some mapping :=
        counted _
      exact freeBuf_runs removed ui32Flags cleared
    · exact freeBuf_runs (counted _) ui32Flags cleared
  · exact ⟨_, rfl⟩

/-- `WrapMemory` without an address returns, and it has an area if it
succeeds. -/
theorem wrapMemory_runs
    (state : WrapState)
    (answers : PageAnswers)
    (noAddress : request.pvCPUVAddr = false) :
    ∃ after result,
      state.wrapMemory request answers = some (after, result) ∧
        (result ≠ none → answers.hOSMemHandle ≠ none) := by
  unfold WrapState.wrapMemory
  cases answers.pMapping with
  | none => exact ⟨_, none, rfl, absurd rfl⟩
  | some pMapping =>
    cases answers.hOSMemHandle with
    | none =>
      simp only [noAddress, Bool.false_eq_true, if_false]
      exact ⟨_, none, rfl, absurd rfl⟩
    | some hOSMemHandle =>
      simp only
      split
      · exact ⟨_, none, rfl, absurd rfl⟩
      · exact ⟨_, _, rfl, fun _ => nofun⟩

/-- A buffer with a mapping of the size that was asked for, and what is read
to make it. -/
structure Makes
    (after : WrapState) (request : WrapRequest) (answers : PageAnswers)
    (hBuf : Address) : Prop where
  mapping : ∃ mapping, after.mappingOf hBuf = some mapping ∧
    mapping.uSize = request.ui32MappingSize
  buf : answers.pBuf ≠ none
  reads : wrapMemoryReads request answers =
    if request.bPhysContig then [0]
    else mmuMapScatterReads request.ui32MappingSize

/-- The part of `BM_Wrap` that makes a buffer returns, and may make one. -/
theorem wrapNew_runs
    (state : WrapState)
    (answers : PageAnswers)
    (noAddress : request.pvCPUVAddr = false) :
    ∃ after result,
      state.wrapNew request answers = some (after, result) ∧
        ∀ hBuf, result = some hBuf → Makes after request answers hBuf := by
  unfold wrapNew
  cases isBuf : answers.pBuf with
  | none => exact ⟨_, none, rfl, nofun⟩
  | some pBuf =>
    obtain ⟨mapped, wrapped, runs, hasArea⟩ :=
      wrapMemory_runs state answers noAddress
    simp only [runs, bind_eq_bind, bind_some]
    rcases wrapMemory_cases runs with
      ⟨rfl, _⟩ |
      ⟨pMapping, devVAddr, hOSMemHandle, subHandle, isMapping, isRange, rfl,
        rfl⟩
    · exact ⟨_, none, rfl, nofun⟩
    · have found : ((state.mapRequest request devVAddr).setMapping pMapping
          (request.mapping devVAddr hOSMemHandle)).mappings
            (request.buf devVAddr pMapping subHandle).pMapping =
          some (request.mapping devVAddr hOSMemHandle) :=
        update_self _ _ _
      have reads : wrapMemoryReads request answers =
          if request.bPhysContig then [0]
          else mmuMapScatterReads request.ui32MappingSize := by
        simp [wrapMemoryReads, isMapping, isRange, hasArea nofun]
      have made : ∀ (after : WrapState) (buf : BmBuf),
          after.bufs pBuf = some buf → buf.pMapping = pMapping →
          after.mappings pMapping =
            some (request.mapping devVAddr hOSMemHandle) →
            ∀ hBuf, some pBuf = some hBuf →
              Makes after request answers hBuf := by
        intro after buf isNew isPart isStored hBuf isResult
        cases isResult
        subst isPart
        exact ⟨⟨_, (mappingOf_eq isNew).trans isStored, rfl⟩,
          by rw [isBuf]; nofun, reads⟩
      simp only [found, bind_some]
      split
      · split
        · exact ⟨_, _, rfl, made _ _ (update_self _ _ _) rfl found⟩
        · have stored : (((state.mapRequest request devVAddr).setMapping
              pMapping (request.mapping devVAddr hOSMemHandle)).setBuf pBuf
                (request.buf devVAddr pMapping subHandle)).mappingOf pBuf =
              some (request.mapping devVAddr hOSMemHandle) :=
            (mappingOf_eq (update_self pBuf _ _)).trans found
          obtain ⟨freed, frees⟩ :=
            freeBuf_runs stored request.uFlags answers.cleared
          rw [frees]
          exact ⟨_, none, rfl, nofun⟩
      · exact ⟨_, _, rfl, made _ _ (update_self _ _ _) rfl found⟩

/-- The buffer that `BM_Wrap` returns has a mapping of the size that was asked
for, and little is read where there is a previous wrap. -/
structure Returns
    (state : WrapState) (request : WrapRequest) (answers : PageAnswers)
    (after : WrapState) (hBuf : Address) : Prop where
  mapping : ∃ mapping, after.mappingOf hBuf = some mapping ∧
    mapping.uSize = request.ui32MappingSize
  reads : bmWrapReads state request answers =
    0 ::
      if matchesPrevious state request.sHashAddress request.ui32MappingSize
      then []
      else if request.bPhysContig then [0]
      else mmuMapScatterReads request.ui32MappingSize

/-- In a sound state, `BM_Wrap` returns. -/
theorem bmWrap_runs
    (sound : state.Sound)
    (answers : PageAnswers)
    (noAddress : request.pvCPUVAddr = false) :
    ∃ after result,
      state.bmWrap request answers = some (after, result) ∧
        ∀ hBuf, result = some hBuf →
          Returns state request answers after hBuf := by
  have fresh : ∀ start : WrapState,
      matchesPrevious state request.sHashAddress request.ui32MappingSize =
        false →
      ∃ after result,
        start.wrapNew request answers = some (after, result) ∧
          ∀ hBuf, result = some hBuf →
            Returns state request answers after hBuf := by
    intro start isNew
    obtain ⟨after, result, runs, makes⟩ := wrapNew_runs start answers noAddress
    refine ⟨after, result, runs, fun hBuf isResult => ?_⟩
    obtain ⟨mapping, buf, reads⟩ := makes hBuf isResult
    refine ⟨mapping, ?_⟩
    simp [bmWrapReads, isNew, buf, reads]
  unfold WrapState.bmWrap
  cases found : state.pBufferHash.lookup request.sHashAddress with
  | none => exact fresh state (by simp [matchesPrevious, found])
  | some pBuf =>
    obtain ⟨before, rest, isHash, _⟩ := List.lookup_eq_some_iff.mp found
    have member : (request.sHashAddress, pBuf) ∈ state.pBufferHash := by
      rw [isHash]
      exact List.mem_append_right _ List.mem_cons_self
    obtain ⟨buf, mapping, isBuf, isMapping, _⟩ :=
      sound.entries request.sHashAddress pBuf member
    have isOf : state.mappingOf pBuf = some mapping :=
      (mappingOf_eq isBuf).trans isMapping
    simp only [isBuf, isMapping, bind_eq_bind, bind_some]
    by_cases matched : mapping.uSize = request.ui32MappingSize ∧
        mapping.eCpuMemoryOrigin.isCached = true
    · rw [if_pos matched]
      have isPrevious : matchesPrevious state request.sHashAddress
          request.ui32MappingSize = true := by
        simp [matchesPrevious, found, isOf, matched]
      refine ⟨_, _, rfl, ?_⟩
      intro hBuf isResult
      cases isResult
      refine ⟨⟨mapping, ?_, matched.1⟩, by simp [bmWrapReads, isPrevious]⟩
      rw [mappingOf_eq (update_self pBuf _ _)]
      exact isMapping
    · rw [if_neg matched]
      refine fresh _ ?_
      simp [matchesPrevious, found, isOf]
      exact fun sameSize => by simpa [sameSize] using matched

end Wrapping

/-! ## What the calls around it do -/

/-- What has been wrapped is a buffer with a mapping of the size that was asked
for, and little of the array is read where there is a previous wrap. -/
structure Wrapped.Of
    (wrapped : Wrapped) (state : WrapState) (input : WrapExtMemoryIn)
    (bPhysContig : Bool) (array : PageArray) (after : WrapState) : Prop where
  entries : wrapped.entries = array.count
  mapping : ∃ mapping, after.mappingOf wrapped.hBuffer = some mapping ∧
    mapping.uSize = hostPagealign (input.ui32ByteSize + input.uPageOffset)
  reads : wrapped.reads =
    0 ::
      if matchesPrevious state
          (array.element 0 + input.uPageOffset.setWidth 64)
          (hostPagealign (input.ui32ByteSize + input.uPageOffset)) then []
      else if bPhysContig then [0]
      else mmuMapScatterReads
        (hostPagealign (input.ui32ByteSize + input.uPageOffset))

/-- It is sized as it should be just if the sum is positive and fits, and the
array has an element, and one for each page that is looked up in it. -/
theorem Wrapped.Of.sized_iff
    {wrapped : Wrapped}
    {after : WrapState}
    {bPhysContig : Bool}
    (isOf : wrapped.Of state input bPhysContig array after) :
    wrapped.Sized input after ↔
      (0 < input.byteCount ∧ input.byteCount + 4095 < 2 ^ 32) ∧
        0 < array.count ∧
        (bPhysContig = false →
          matchesPrevious state
              (array.element 0 + input.uPageOffset.setWidth 64)
              (hostPagealign (input.ui32ByteSize + input.uPageOffset)) =
            false →
          (input.byteCount + 4095) / 4096 ≤ array.count) := by
  obtain ⟨isCount, ⟨mapping, isMapping, isSize⟩, isReads⟩ := isOf
  have ranged : (input.byteCount ≤ input.uPageCount.toNat * 4096 ∧
      ∃ mapping, after.mappingOf wrapped.hBuffer = some mapping ∧
        0 < mapping.uSize.toNat ∧ input.byteCount ≤ mapping.uSize.toNat) ↔
      0 < input.byteCount ∧ input.byteCount + 4095 < 2 ^ 32 := by
    rw [← byteCount_le_iff, uPageCount_toNat]
    constructor
    · rintro ⟨_, other, isOther, long⟩
      cases isMapping.symm.trans isOther
      rwa [isSize] at long
    · intro long
      exact ⟨long.2, mapping, isMapping, by rwa [isSize]⟩
  have scatter : input.byteCount + 4095 < 2 ^ 32 →
      mmuMapScatterReads
          (hostPagealign (input.ui32ByteSize + input.uPageOffset)) =
        List.range ((input.byteCount + 4095) / 4096) := by
    intro fits
    rw [mmuMapScatterReads, ← uPageCount_of_fits fits, ← uPageCount_toNat]
    congr 1
    omega
  constructor
  · intro sized
    have fits := ranged.mp ⟨sized.pages, sized.range⟩
    have reads := sized.reads
    rw [isCount, isReads] at reads
    refine ⟨fits, reads 0 List.mem_cons_self, ?_⟩
    intro scattered isNew
    rw [isNew, scattered, scatter fits.2] at reads
    have last := reads ((input.byteCount + 4095) / 4096 - 1)
      (List.mem_cons_of_mem _ (List.mem_range.mpr (by omega)))
    omega
  · rintro ⟨fits, first, pages⟩
    obtain ⟨covered, range⟩ := ranged.mpr fits
    refine ⟨covered, ?_, range⟩
    intro i member
    rw [isCount]
    rw [isReads, List.mem_cons] at member
    rcases member with rfl | member
    · exact first
    · split at member
      · cases member
      · rename_i isNew
        split at member
        · exact (List.mem_singleton.mp member) ▸ first
        · rename_i scattered
          rw [scatter fits.2, List.mem_range] at member
          exact member.trans_le (pages (Bool.eq_false_iff.mpr scattered)
            (Bool.eq_false_iff.mpr isNew))

/-- From the search for the heap on, a wrap fails, or touches an array that is
NULL, or wraps the array. -/
theorem wrapArray_cases
    (sound : state.Sound)
    (input : WrapExtMemoryIn)
    (bPhysContig : Bool)
    (psExtSysPAddr : Option PageArray)
    (answers : WrapExtAnswers) :
    (∃ after failure,
      wrapArray state input bPhysContig psExtSysPAddr answers =
        some (after, .error failure)) ∨
    (psExtSysPAddr = none ∧
      wrapArray state input bPhysContig psExtSysPAddr answers = none) ∨
    ∃ array after wrapped, psExtSysPAddr = some array ∧
      wrapArray state input bPhysContig psExtSysPAddr answers =
        some (after, .ok wrapped) ∧
      wrapped.Of state input bPhysContig array after := by
  unfold wrapArray
  cases answers.hDevMemHeap with
  | none => exact .inl ⟨_, _, rfl⟩
  | some hDevMemHeap =>
    by_cases hasInfo : answers.psMemInfo = true
    · simp only [hasInfo, not_true_eq_false, if_false]
      cases psExtSysPAddr with
      | none => exact .inr (.inl ⟨rfl, rfl⟩)
      | some array =>
        have noAddress : (input.request hDevMemHeap bPhysContig
            array.element).pvCPUVAddr = false :=
          rfl
        obtain ⟨after, result, runs, returns⟩ :=
          bmWrap_runs sound answers.bmWrap noAddress
        simp only [runs, bind_eq_bind, bind_some]
        cases result with
        | none => exact .inl ⟨_, _, rfl⟩
        | some hBuffer =>
          obtain ⟨isMapping, isReads⟩ := returns hBuffer rfl
          by_cases hasSync : answers.psKernelSyncInfo = true
          · simp only [hasSync, if_true]
            exact .inr (.inr ⟨array, after, _, rfl, rfl, rfl, isMapping,
              isReads⟩)
          · obtain ⟨mapping, found, _⟩ := isMapping
            obtain ⟨freed, frees⟩ := bmFree_runs found
              (bmWrapFlags state
                (input.request hDevMemHeap bPhysContig array.element))
              answers.cleared
            simp only [hasSync, frees, bind_some]
            exact .inl ⟨_, _, rfl⟩
    · simp only [hasInfo]
      exact .inl ⟨_, _, rfl⟩

/-- The array that is wrapped, and how: the pages behind an address of the
user, or what has been copied. -/
inductive Source
    (input : WrapExtMemoryIn) (psSysPAddr : Option PageArray) :
    Bool → PageArray → Prop where
  | acquired (array : PageArray) :
      input.pvLinAddr ≠ 0 → array.count = input.uPageCount.toNat →
        0 < array.count → Source input psSysPAddr false array
  | copied (array : PageArray) :
      input.pvLinAddr = 0 → psSysPAddr = some array →
        Source input psSysPAddr input.bPhysContig array

/-- A wrap fails, or touches an array that is NULL, or wraps an array. -/
theorem wrapExtMemoryKM_cases
    (sound : state.Sound)
    (input : WrapExtMemoryIn)
    (psSysPAddr : Option PageArray)
    (answers : WrapExtAnswers) :
    (∃ after failure,
      wrapExtMemoryKM state input psSysPAddr answers =
        some (after, .error failure)) ∨
    (input.pvLinAddr = 0 ∧ psSysPAddr = none ∧
      wrapExtMemoryKM state input psSysPAddr answers = none) ∨
    ∃ bPhysContig array after wrapped,
      Source input psSysPAddr bPhysContig array ∧
      wrapExtMemoryKM state input psSysPAddr answers =
        some (after, .ok wrapped) ∧
      wrapped.Of state input bPhysContig array after := by
  unfold wrapExtMemoryKM
  by_cases given : input.pvLinAddr ≠ 0
  · rw [if_pos given]
    cases answers.psIntSysPAddr with
    | none => exact .inl ⟨_, _, rfl⟩
    | some psIntSysPAddr =>
      cases acquires : osAcquirePhysPageAddr
          (input.pvLinAddr - input.uPageOffset.setWidth 64)
          (input.uPageCount * 4096) psIntSysPAddr answers.acquired with
      | none =>
        simp only [acquires]
        exact .inl ⟨_, _, rfl⟩
      | some array =>
        simp only [acquires]
        obtain ⟨isCount, first⟩ := osAcquirePhysPageAddr_count given acquires
        rcases wrapArray_cases sound input false (some array) answers with
          fails | ⟨impossible, _⟩ |
          ⟨same, after, wrapped, isSame, wraps, isOf⟩
        · exact .inl fails
        · cases impossible
        · cases isSame
          exact .inr (.inr ⟨false, array, after, wrapped,
            .acquired array given isCount first, wraps, isOf⟩)
  · rw [if_neg given]
    rcases wrapArray_cases sound input input.bPhysContig psSysPAddr answers
      with fails | ⟨isNull, touches⟩ |
      ⟨array, after, wrapped, isArray, wraps, isOf⟩
    · exact .inl fails
    · exact .inr (.inl ⟨not_not.mp given, isNull, touches⟩)
    · exact .inr (.inr ⟨input.bPhysContig, array, after, wrapped,
        .copied array (not_not.mp given) isArray, wraps, isOf⟩)

/-- The call touches an array that is NULL, or wraps an array. -/
def Commits
    (state : WrapState) (input : WrapExtMemoryIn) (answers : WrapExtAnswers)
    (psSysPAddr : Option PageArray) : Prop :=
  input.pvLinAddr = 0 ∧ psSysPAddr = none ∧
      wrapExtMemoryBW state input answers = none ∨
    ∃ bPhysContig array after wrapped,
      Source input psSysPAddr bPhysContig array ∧
      wrapExtMemoryBW state input answers = some (after, .ok wrapped) ∧
      wrapped.Of state input bPhysContig array after

/-- A call that does not fail works on what has been copied from the user. -/
theorem wrapExtMemoryBW_cases
    {answers : WrapExtAnswers}
    (sound : state.Sound)
    (runs : ¬ Fails state input answers) :
    ∃ psSysPAddr : Option PageArray,
      (psSysPAddr = none ∧ input.copied = 0 ∨
        ∃ array, psSysPAddr = some array ∧ array.count = input.copied ∧
          (0 < array.count → array.element 0 = input.psSysPAddr 0)) ∧
      Commits state input answers psSysPAddr := by
  have committed : ∀ psSysPAddr : Option PageArray,
      wrapExtMemoryBW state input answers =
          wrapCopied state input psSysPAddr answers →
        Commits state input answers psSysPAddr := by
    intro psSysPAddr isRest
    rw [Fails, isRest] at runs
    rw [Commits, isRest]
    unfold wrapCopied at runs ⊢
    rcases wrapExtMemoryKM_cases sound input psSysPAddr answers with
      ⟨after, failure, fails⟩ | ⟨noAddress, isNull, touches⟩ |
      ⟨bPhysContig, array, after, wrapped, source, wraps, isOf⟩
    · exact absurd ⟨after, failure, by rw [fails]; rfl⟩ runs
    · exact .inl ⟨noAddress, isNull, by rw [touches]; rfl⟩
    · simp only [wraps, bind_eq_bind, bind_some] at runs ⊢
      by_cases commits : answers.commitHandleBatch = pvrsrvOk
      · rw [if_pos commits]
        exact .inr ⟨bPhysContig, array, after, wrapped, source, rfl, isOf⟩
      · rw [if_neg commits] at runs
        exact absurd ⟨_, _, rfl⟩ runs
  unfold Fails wrapExtMemoryBW at runs
  split at runs
  · exact absurd ⟨_, _, rfl⟩ runs
  · rename_i batch
    split at runs
    · exact absurd ⟨_, _, rfl⟩ runs
    · rename_i node
      split at runs
      · exact absurd ⟨_, _, rfl⟩ runs
      · rename_i context
        split at runs
        · rename_i noEntries
          refine ⟨none, .inl ⟨rfl, ?_⟩, committed none ?_⟩
          · rw [WrapExtMemoryIn.copied, WrapExtMemoryIn.ui32PageTableSize,
              noEntries]
            rfl
          · rw [wrapExtMemoryBW, if_neg batch, if_neg node, if_neg context,
              if_pos noEntries]
        · rename_i entries
          split at runs
          · exact absurd ⟨_, _, rfl⟩ runs
          · rename_i memory isMemory
            split at runs
            · exact absurd ⟨_, _, rfl⟩ runs
            · rename_i copies
              refine ⟨some (fill memory input.psSysPAddr input.copied),
                .inr ⟨_, rfl, rfl, fun first => if_pos first⟩, committed _ ?_⟩
              rw [wrapExtMemoryBW, if_neg batch, if_neg node, if_neg context,
                if_neg entries, isMemory]
              exact if_neg copies

/-! ## All calls -/

/-- In every state that is reached, a call that does not fail with an error
returns memory that is sized as it should be, with nothing read that is not
there, just if the sum of size and offset is positive and fits in 32 bits, and
the user has given an address or enough entries. -/
theorem wrapExtMemoryBW_sizes_iff
    {state : WrapState}
    (reachable : state.Reachable)
    {input : WrapExtMemoryIn}
    {answers : WrapExtAnswers}
    (runs : ¬ Fails state input answers) :
    Sizes state input answers ↔ input.Fits state := by
  obtain ⟨psSysPAddr, isCopied, ⟨noAddress, isNull, touches⟩ |
    ⟨bPhysContig, array, after, wrapped, source, wraps, isOf⟩⟩ :=
      wrapExtMemoryBW_cases reachable.sound runs
  · refine iff_of_false ?_ ?_
    · rintro ⟨after, wrapped, wraps, _⟩
      cases touches.symm.trans wraps
    · intro fits
      have entries := fits.entries noAddress
      rcases isCopied with ⟨_, nothing⟩ | ⟨array, isArray, _⟩
      · omega
      · cases isNull.symm.trans isArray
  · have sized : Sizes state input answers ↔ wrapped.Sized input after := by
      constructor
      · rintro ⟨_, _, wrapsAgain, sized⟩
        cases wraps.symm.trans wrapsAgain
        exact sized
      · exact fun sized => ⟨after, wrapped, wraps, sized⟩
    rw [sized, isOf.sized_iff]
    cases source with
    | acquired array given isCount first =>
      constructor
      · rintro ⟨fits, _⟩
        exact ⟨fits.1, fits.2, fun noAddress => absurd noAddress given,
          fun noAddress => absurd noAddress given⟩
      · intro fits
        refine ⟨⟨fits.positive, fits.size⟩, first, fun _ _ => ?_⟩
        rw [isCount, uPageCount_of_fits fits.size]
    | copied array noAddress isArray =>
      rcases isCopied with ⟨impossible, _⟩ | ⟨same, isSame, isCount, isFirst⟩
      · cases isArray.symm.trans impossible
      · cases isArray.symm.trans isSame
        constructor
        · rintro ⟨fits, first, pages⟩
          rw [isFirst first, isCount] at pages
          exact ⟨fits.1, fits.2, fun _ => isCount ▸ first, fun _ => pages⟩
        · intro fits
          have first : 0 < array.count := isCount ▸ fits.entries noAddress
          rw [isFirst first, isCount]
          exact ⟨⟨fits.positive, fits.size⟩, fits.entries noAddress,
            fits.scattered noAddress⟩

/-! ## Too few entries -/

/-- A wrap of two pages, with so many entries. -/
def twoPages (ui32NumPageTableEntries : BitVec 32) : WrapExtMemoryIn where
  pvLinAddr := 0
  ui32ByteSize := 0x2000
  ui32PageOffset := 0
  bPhysContig := false
  ui32NumPageTableEntries := ui32NumPageTableEntries
  psSysPAddr := fun i => BitVec.ofNat 64 (0x5000 + i * 0x1000)
  ui32Flags := 0

/-- All calls succeed. -/
def grantedAll : WrapExtAnswers where
  newHandleBatch := 0
  lookupDevNode := 0
  lookupDevMemContext := 0
  psSysPAddr := some fun _ => 0
  copyFromUser := true
  psIntSysPAddr := none
  acquired := none
  hDevMemHeap := some generalHeap
  psMemInfo := true
  bmWrap := granted
  psKernelSyncInfo := true
  cleared := fun _ => false
  commitHandleBatch := 0

theorem wrapExtMemoryBW_sizes_iff_twoPages :
    Sizes empty (twoPages 2) grantedAll := by
  refine (wrapExtMemoryBW_sizes_iff (.new fun _ => 0) ?_).mpr
    ⟨by decide, by decide, fun _ => by decide, fun _ _ _ => by decide⟩
  rintro ⟨after, failure, fails⟩
  have wraps : wrapExtMemoryBW empty (twoPages 2) grantedAll =
      some (_, .ok { hBuffer := 1, reads := [0, 0, 1], entries := 2 }) :=
    rfl
  cases wraps.symm.trans fails

/-- The second page is read of an array with one entry. -/
theorem wrapExtMemoryBW_readsBeyond :
    ¬ ∀ (state : WrapState) (input : WrapExtMemoryIn)
      (answers : WrapExtAnswers),
      WrapState.Reachable state → ¬ Fails state input answers →
        Sizes state input answers := by
  intro sizes
  have wraps : wrapExtMemoryBW empty (twoPages 1) grantedAll =
      some (_, .ok { hBuffer := 1, reads := [0, 0, 1], entries := 1 }) :=
    rfl
  have runs : ¬ Fails empty (twoPages 1) grantedAll := by
    rintro ⟨after, failure, fails⟩
    cases wraps.symm.trans fails
  obtain ⟨after, wrapped, isWrapped, sized⟩ :=
    sizes empty (twoPages 1) grantedAll (.new fun _ => 0) runs
  cases wraps.symm.trans isWrapped
  exact absurd (sized.reads 1 (by decide)) (by decide)

end PvrServices.DeviceMem.WrapSizes
