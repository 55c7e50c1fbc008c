import PvrServices.BufferManager.Effects
import PvrServices.BufferManager.WrapPages

/-!
# What a wrapped buffer maps

A wrap that makes a mapping maps the pages it was asked for, as far as 32 bits
can hold its size and its addresses.  A wrap that finds a buffer maps what the
first wrap of that buffer asked for, in the heap of that wrap.
-/

namespace PvrServices.BufferManager.WrapPages

open Function (update update_of_ne update_self)
open Option (bind_eq_bind bind_eq_some_iff bind_some isSome_iff_exists)
open CpuMemoryOrigin (ofWrap)
open WrapState (devMemoryAlloc mapPagesUpTo)

/-! ## Entries of pages -/

/-- What the entry of a page keeps of an address. -/
def cutPage (address : BitVec 64) : BitVec 64 :=
  (address.setWidth 32 &&& sgxMmuPteAddrMask).setWidth 64

/-- An entry is valid and has the address. -/
def PageEntryFor (entry : BitVec 32) (address : BitVec 64) : Prop :=
  entry &&& Mmu.sgxMmuPteValid ≠ 0 ∧
    (entry &&& sgxMmuPteAddrMask).setWidth 64 = address

instance (entry : BitVec 32) (address : BitVec 64) :
    Decidable (PageEntryFor entry address) :=
  inferInstanceAs (Decidable (_ ∧ _))

/-- An entry has one address only. -/
theorem PageEntryFor.iff
    {entry : BitVec 32}
    {address other : BitVec 64}
    (isFor : PageEntryFor entry address) :
    PageEntryFor entry other ↔ address = other :=
  ⟨fun isOther => isFor.2.symm.trans isOther.2, fun same => same ▸ isFor⟩

/-- The entry that `MMU_MapPage` writes without restrictions has the address
as far as an entry can hold it. -/
theorem ptEntry_pageEntryFor
    {pMMUHeap : Mmu.MmuHeap}
    {ui32MemFlags : BitVec 32}
    (pageMask : pMMUHeap.ui32DataPageMask = 0xFFF)
    (unrestricted : Mmu.mmuFlags ui32MemFlags = 0)
    (DevPAddr : BitVec 64) :
    PageEntryFor (pMMUHeap.ptEntry DevPAddr ui32MemFlags)
      (cutPage DevPAddr) := by
  have entry : pMMUHeap.ptEntry DevPAddr ui32MemFlags =
      (DevPAddr.setWidth 32 &&& sgxMmuPteAddrMask) ||| 1#32 := by
    rw [Mmu.MmuHeap.ptEntry, pageMask, unrestricted]
    simp
  constructor
  · rw [entry, BitVec.and_or_distrib_right]
    intro isZero
    have bit := congrArg (fun word => BitVec.getLsbD word 0) isZero
    simp at bit
  · rw [entry, BitVec.and_or_distrib_right, BitVec.and_assoc, BitVec.and_self]
    show ((DevPAddr.setWidth 32 &&& sgxMmuPteAddrMask) ||| 0#32).setWidth 64 =
      cutPage DevPAddr
    rw [BitVec.or_zero]
    rfl

/-! ## The flags of a wrap -/

/-- The flags of a wrap have none of the bits that say how to map. -/
theorem uFlags_and
    (request : WrapRequest)
    {flag : BitVec 32}
    (cacheType : pvrsrvHapCachetypeMask &&& flag = 0#32)
    (mapType : pvrsrvHapMaptypeMask &&& flag = 0#32)
    (noAccess : readWrite &&& flag = 0#32) :
    (request.uFlags ||| readWrite) &&& flag = 0#32 := by
  rw [BitVec.and_or_distrib_right, noAccess,
    show request.uFlags &&& flag = 0#32 from
      BmState.wrapFlags_and _ _ cacheType mapType]
  rfl

/-- The entries of a wrap are without restrictions. -/
theorem uFlags_unrestricted (request : WrapRequest) :
    Mmu.mmuFlags (request.uFlags ||| readWrite) = 0 := by
  have consistent := uFlags_and request
    (by decide : _ &&& Mmu.pvrsrvMemCacheConsistent = 0#32) (by decide)
    (by decide)
  have protect := uFlags_and request
    (by decide : _ &&& Mmu.pvrsrvMemEdmProtect = 0#32) (by decide) (by decide)
  have reads : (request.uFlags ||| readWrite) &&& Mmu.pvrsrvMemRead ≠ 0 := by
    intro isZero
    have bit := congrArg (fun word => BitVec.getLsbD word 0) isZero
    simp [readWrite] at bit
  have writes : (request.uFlags ||| readWrite) &&& Mmu.pvrsrvMemWrite ≠ 0 := by
    intro isZero
    have bit := congrArg (fun word => BitVec.getLsbD word 1) isZero
    simp [readWrite] at bit
  have noConsistent : ((request.uFlags ||| readWrite) &&&
      Mmu.pvrsrvMemCacheConsistent != 0) = false := by
    rw [consistent]
    rfl
  have noProtect : ((request.uFlags ||| readWrite) &&&
      Mmu.pvrsrvMemEdmProtect != 0) = false := by
    rw [protect]
    rfl
  simp only [Mmu.mmuFlags, bne_iff_ne.mpr reads, bne_iff_ne.mpr writes,
    noConsistent, noProtect]
  rfl

/-! ## Pages that are mapped -/

/-- The page of the device `i` pages on. -/
theorem page_of_address
    {DevVAddr : BitVec 32}
    {i count : Nat}
    (isPage : i < count)
    (fits : DevVAddr.toNat + count * 4096 ≤ 2 ^ 32) :
    (DevVAddr + BitVec.ofNat 32 (i * 4096)).toNat / 4096 =
      DevVAddr.toNat / 4096 + i := by
  have isOffset : (BitVec.ofNat 32 (i * 4096)).toNat = i * 4096 := by
    rw [BitVec.toNat_ofNat]
    exact Nat.mod_eq_of_lt (by omega)
  rw [BitVec.toNat_add, isOffset, Nat.mod_eq_of_lt (by omega)]
  omega

section Loop

variable
  (state : WrapState)
  (pMMUHeap : Mmu.MmuHeap)
  {DevVAddr : BitVec 32}
  (devPAddr : Nat → BitVec 64)
  (ui32MemFlags : BitVec 32)

@[simp] theorem mmuMapPage_pageEntries (DevPAddr : BitVec 64) :
    (state.mmuMapPage pMMUHeap DevVAddr DevPAddr ui32MemFlags).pageEntries =
      update state.pageEntries (DevVAddr.toNat / 4096)
        (pMMUHeap.ptEntry DevPAddr ui32MemFlags) :=
  rfl

variable {count : Nat}

/-- Pages outside the range keep their entries. -/
theorem mapPagesUpTo_other
    (fits : DevVAddr.toNat + count * 4096 ≤ 2 ^ 32)
    {page : Nat}
    (outside : ∀ i < count, page ≠ DevVAddr.toNat / 4096 + i) :
    (state.mapPagesUpTo pMMUHeap DevVAddr devPAddr ui32MemFlags
      count).pageEntries page = state.pageEntries page := by
  induction count with
  | zero => rfl
  | succ i ih =>
    have fewer : DevVAddr.toNat + i * 4096 ≤ 2 ^ 32 :=
      (Nat.add_le_add_left
        (Nat.mul_le_mul_right 4096 (Nat.le_succ i)) _).trans fits
    have other := outside i (Nat.lt_succ_self i)
    rw [← page_of_address (Nat.lt_succ_self i) fits] at other
    rw [mapPagesUpTo, mmuMapPage_pageEntries, update_of_ne other]
    exact ih fewer fun j before => outside j (Nat.lt_succ_of_lt before)

/-- The pages of the range have the entries of their addresses. -/
theorem mapPagesUpTo_mapped
    (fits : DevVAddr.toNat + count * 4096 ≤ 2 ^ 32)
    {i : Nat}
    (isPage : i < count) :
    (state.mapPagesUpTo pMMUHeap DevVAddr devPAddr ui32MemFlags
      count).pageEntries (DevVAddr.toNat / 4096 + i) =
        pMMUHeap.ptEntry (devPAddr i) ui32MemFlags := by
  induction count with
  | zero => exact absurd isPage (Nat.not_lt_zero i)
  | succ last ih =>
    have fewer : DevVAddr.toNat + last * 4096 ≤ 2 ^ 32 :=
      (Nat.add_le_add_left
        (Nat.mul_le_mul_right 4096 (Nat.le_succ last)) _).trans fits
    have address := page_of_address (Nat.lt_succ_self last) fits
    rcases Nat.lt_succ_iff_lt_or_eq.mp isPage with before | rfl
    · have other : DevVAddr.toNat / 4096 + i ≠
          (DevVAddr + BitVec.ofNat 32 (last * 4096)).toNat / 4096 := by
        omega
      rw [mapPagesUpTo, mmuMapPage_pageEntries, update_of_ne other]
      exact ih fewer before
    · rw [← address, mapPagesUpTo, mmuMapPage_pageEntries, update_self]

/-- Nothing but entries changes. -/
theorem mapPagesUpTo_frame (count : Nat) :
    state.mapPagesUpTo pMMUHeap DevVAddr devPAddr ui32MemFlags count =
      { state with
        pageEntries := (state.mapPagesUpTo pMMUHeap DevVAddr devPAddr
          ui32MemFlags count).pageEntries } := by
  induction count with
  | zero => rfl
  | succ i ih =>
    rw [mapPagesUpTo, ih]
    rfl

end Loop

/-! ## What is asked for -/

/-- The number of pages that a request asks for. -/
def WrapRequest.pageCount (request : WrapRequest) : Nat :=
  (request.ui32Size.toNat + request.ui32Offset.toNat + 4095) / 4096

/-- The address of one of its pages. -/
def WrapRequest.page (request : WrapRequest) (i : Nat) : BitVec 64 :=
  if request.bPhysContig then
    request.psSysAddr 0 + BitVec.ofNat 64 (i * 4096)
  else request.psSysAddr i

/-- The size and the offset of a request add up to less than 32 bits, rounded
to pages. -/
def WrapRequest.SizeFits (request : WrapRequest) : Prop :=
  request.ui32Size.toNat + request.ui32Offset.toNat + 4095 < 2 ^ 32

instance (request : WrapRequest) : Decidable request.SizeFits :=
  inferInstanceAs (Decidable (_ < _))

/-- A buffer maps what is asked for: it lies in the heap, it starts at the
offset, and each page has the entry of its address. -/
def WrapState.MapsRequest
    (state : WrapState) (request : WrapRequest) (hBuf : Address) : Prop :=
  ∃ buf mapping,
    state.bufs hBuf = some buf ∧
      state.mappings buf.pMapping = some mapping ∧
      mapping.pBMHeap = request.hDevMemHeap ∧
      request.hDevMemHeap.pMMUHeap.psDevArena.Contains mapping.devVAddr.toNat
        (mapping.devVAddr.toNat + mapping.uSize.toNat) ∧
      buf.devVAddr = mapping.devVAddr + request.ui32Offset ∧
      ∀ i < request.pageCount, i * 4096 < mapping.uSize.toNat ∧
        PageEntryFor
          (state.pageEntries (mapping.devVAddr.toNat / 4096 + i))
          (request.page i)

/-- `BM_Wrap` finds this buffer. -/
def WrapState.Finds
    (state : WrapState) (request : WrapRequest) (buf : BmBuf)
    (mapping : WrapMapping) : Prop :=
  ∃ pBuf, state.pBufferHash.lookup request.sHashAddress = some pBuf ∧
    state.bufs pBuf = some buf ∧
    state.mappings buf.pMapping = some mapping ∧
    mapping.uSize = request.ui32MappingSize ∧
    mapping.eCpuMemoryOrigin.isCached = true

/-- The size fits.  A buffer that is found is in the heap of the request, at
its offset, and has its pages.  Without one, the entries of page tables can
hold the addresses of the pages. -/
structure WrapState.Fits (state : WrapState) (request : WrapRequest) :
    Prop where
  size : request.SizeFits
  found : ∀ buf mapping, state.Finds request buf mapping →
    mapping.pBMHeap = request.hDevMemHeap ∧
      buf.devVAddr = mapping.devVAddr + request.ui32Offset ∧
      ∀ i < request.pageCount,
        cutPage (mapping.cpuPAddr + BitVec.ofNat 64 (i * 4096)) =
          request.page i
  fresh : (∀ buf mapping, ¬ state.Finds request buf mapping) →
    ∀ i < request.pageCount, cutPage (request.page i) = request.page i

/-- The size of a mapping is made of whole pages. -/
theorem hostPagealign_toNat (addr : BitVec 32) :
    (hostPagealign addr).toNat = ((addr.toNat + 4095) % 2 ^ 32) / 4096 * 4096 := by
  have cut : hostPagealign addr = (addr + 4095) >>> 12 <<< 12 := by
    apply BitVec.eq_of_getLsbD_eq
    intro i isBit
    have mask : (~~~4095 : BitVec 32).getLsbD i = !decide (i < 12) := by
      interval_cases i <;> rfl
    rw [hostPagealign, BitVec.getLsbD_and, mask, BitVec.getLsbD_shiftLeft,
      BitVec.getLsbD_ushiftRight]
    by_cases low : i < 12
    · simp [low]
    · simp [low, isBit, Nat.add_sub_cancel' (Nat.le_of_not_lt low)]
  rw [cut, BitVec.toNat_shiftLeft, BitVec.toNat_ushiftRight,
    Nat.shiftRight_eq_div_pow, Nat.shiftLeft_eq, BitVec.toNat_add]
  exact Nat.mod_eq_of_lt (by omega)

/-- All pages of a request are in its mapping just if its size fits. -/
theorem WrapRequest.sizeFits_iff (request : WrapRequest) :
    request.SizeFits ↔
      ∀ i < request.pageCount, i * 4096 < request.ui32MappingSize.toNat := by
  rw [SizeFits, pageCount, ui32MappingSize, hostPagealign_toNat,
    BitVec.toNat_add]
  constructor
  · intro fits i isPage
    rw [Nat.mod_eq_of_lt (by omega), Nat.mod_eq_of_lt (by omega)]
    omega
  · intro covered
    by_contra wraps
    have last := covered
      ((request.ui32Size.toNat + request.ui32Offset.toNat + 4095) / 4096 - 1)
      (by omega)
    omega

/-! ## Making a mapping -/

/-- The mapping of a request in a range of its heap. -/
def WrapRequest.mapping
    (request : WrapRequest) (devVAddr : BitVec 32) (hOSMemHandle : Address) :
    WrapMapping where
  eCpuMemoryOrigin := .ofWrap request.pvCPUVAddr request.bPhysContig
  pArena := none
  cpuPAddr := if request.bPhysContig then request.psSysAddr 0 else 0
  devVAddr := devVAddr
  uSize := request.ui32MappingSize
  hOSMemHandle := hOSMemHandle
  pBMHeap := request.hDevMemHeap

/-- The buffer of a request, without references. -/
def WrapRequest.buf
    (request : WrapRequest) (devVAddr : BitVec 32)
    (pMapping hOSMemHandle : Address) :
    BmBuf where
  hOSMemHandle := hOSMemHandle
  cpuPAddr := (if request.bPhysContig then request.psSysAddr 0 else 0) +
    request.ui32Offset.setWidth 64
  devVAddr := devVAddr + request.ui32Offset
  pMapping := pMapping
  ui32RefCount := 0
  ui32ExportCount := 0

/-- The pages of a request are mapped. -/
def WrapState.mapRequest
    (state : WrapState) (request : WrapRequest) (devVAddr : BitVec 32) :
    WrapState :=
  state.mapPagesUpTo request.hDevMemHeap.pMMUHeap devVAddr request.page
    (request.uFlags ||| readWrite) (request.ui32MappingSize.toNat / 4096)

/-- The size of a mapping in pages. -/
theorem WrapRequest.mappingPages (request : WrapRequest) :
    (request.ui32MappingSize.toNat + 4095) / 4096 =
      request.ui32MappingSize.toNat / 4096 := by
  rw [ui32MappingSize, hostPagealign_toNat]
  omega

/-- Only contiguous wraps are in the hash table. -/
theorem ofWrap_isCached (pvCPUVAddr bPhysContig : Bool) :
    (ofWrap pvCPUVAddr bPhysContig).isCached =
      bPhysContig := by
  cases pvCPUVAddr <;> cases bPhysContig <;> rfl

variable {request : WrapRequest} (state : WrapState)

/-- `MMU_MapPages` maps the pages of a contiguous request. -/
theorem mmuMapPages_request
    (devVAddr : BitVec 32)
    (contig : request.bPhysContig = true) :
    state.mmuMapPages request.hDevMemHeap.pMMUHeap devVAddr
        (request.psSysAddr 0) request.ui32MappingSize
        (request.uFlags ||| readWrite) =
      state.mapRequest request devVAddr := by
  have dummy := uFlags_and request
    (by decide : _ &&& pvrsrvMemDummy = 0#32) (by decide) (by decide)
  have advance : (if (request.uFlags ||| readWrite) &&& pvrsrvMemDummy ≠ 0
      then 0 else 4096) = 4096 :=
    if_neg (not_not.mpr dummy)
  have pages : request.page = fun i =>
      request.psSysAddr 0 + BitVec.ofNat 64 (i * 4096) := by
    funext i
    exact if_pos contig
  rw [WrapState.mmuMapPages, WrapState.mapRequest, request.mappingPages, pages,
    advance]

/-- `MMU_MapScatter` maps the pages of another one. -/
theorem mmuMapScatter_request
    (devVAddr : BitVec 32)
    (scattered : request.bPhysContig = false) :
    state.mmuMapScatter request.hDevMemHeap.pMMUHeap devVAddr
        request.psSysAddr request.ui32MappingSize
        (request.uFlags ||| readWrite) =
      state.mapRequest request devVAddr := by
  have pages : request.page = request.psSysAddr := by
    funext i
    exact if_neg (Bool.eq_false_iff.mp scattered)
  rw [WrapState.mmuMapScatter, WrapState.mapRequest, request.mappingPages,
    pages]

/-- `DevMemoryAlloc` maps the pages of the request. -/
theorem devMemoryAlloc_eq
    (request : WrapRequest)
    (devVAddr : BitVec 32)
    (hOSMemHandle : Address) :
    state.devMemoryAlloc (request.mapping 0 hOSMemHandle) request.psSysAddr
        (request.uFlags ||| readWrite) (some devVAddr) =
      some (state.mapRequest request devVAddr,
        request.mapping devVAddr hOSMemHandle) := by
  have interleaved := uFlags_and request
    (by decide : _ &&& pvrsrvMemInterleaved = 0#32) (by decide) (by decide)
  have single : (if (request.uFlags ||| readWrite) &&& pvrsrvMemInterleaved ≠ 0
      then request.ui32MappingSize * 2 else request.ui32MappingSize) =
        request.ui32MappingSize :=
    if_neg (not_not.mpr interleaved)
  cases isContig : request.bPhysContig with
  | true =>
    rw [← mmuMapPages_request state devVAddr isContig]
    cases hasAddress : request.pvCPUVAddr with
    | true | false =>
      simp only [devMemoryAlloc, WrapRequest.mapping, hasAddress,
        isContig, ofWrap, if_true, single]
  | false =>
    rw [← mmuMapScatter_request state devVAddr isContig]
    cases hasAddress : request.pvCPUVAddr with
    | true | false =>
      simp only [devMemoryAlloc, WrapRequest.mapping, hasAddress,
        isContig, ofWrap, single]

/-- The rest of `WrapMemory` fails with nothing changed, or stores the
mapping. -/
theorem wrapMapped_cases
    (request : WrapRequest)
    (devVAddr : BitVec 32)
    (pMapping hOSMemHandle : Address)
    (answers : PageAnswers) :
    state.wrapMapped request pMapping (request.mapping devVAddr hOSMemHandle)
        answers = (state, none) ∨
      ∃ subHandle,
        state.wrapMapped request pMapping
            (request.mapping devVAddr hOSMemHandle) answers =
          (state.setMapping pMapping (request.mapping devVAddr hOSMemHandle),
          some (request.buf devVAddr pMapping subHandle)) := by
  have noZero : request.uFlags &&& pvrsrvMemZero = 0#32 :=
    BmState.wrapFlags_and _ _ (by decide) (by decide)
  unfold WrapState.wrapMapped
  simp only [noZero, BitVec.ofNat_eq_ofNat, ne_eq, not_true_eq_false,
    false_and, if_false]
  by_cases start : request.ui32Offset = 0#32
  · rw [if_pos start]
    exact .inr ⟨hOSMemHandle, rfl⟩
  · rw [if_neg start]
    cases answers.subHandle with
    | none => exact .inl rfl
    | some subHandle => exact .inr ⟨subHandle, rfl⟩

variable {state : WrapState}

/-- What `WrapMemory` does: it fails, possibly with the pages mapped already,
or it maps the request. -/
theorem wrapMemory_cases
    {after : WrapState}
    {answers : PageAnswers}
    {result : Option BmBuf}
    (wraps : state.wrapMemory request answers = some (after, result)) :
    (result = none ∧ (after = state ∨ ∃ devVAddr,
      answers.mmuAlloc = some devVAddr ∧
        after = state.mapRequest request devVAddr)) ∨
    ∃ pMapping devVAddr hOSMemHandle subHandle,
      answers.pMapping = some pMapping ∧
        answers.mmuAlloc = some devVAddr ∧
        result = some (request.buf devVAddr pMapping subHandle) ∧
        after = (state.mapRequest request devVAddr).setMapping pMapping
          (request.mapping devVAddr hOSMemHandle) := by
  unfold WrapState.wrapMemory at wraps
  split at wraps
  · cases wraps
    exact .inl ⟨rfl, .inl rfl⟩
  rename_i pMapping isMapping
  split at wraps
  · split at wraps
    · cases wraps
    · cases wraps
      exact .inl ⟨rfl, .inl rfl⟩
  rename_i hOSMemHandle _
  cases isRange : answers.mmuAlloc with
  | none =>
    simp only [isRange, devMemoryAlloc] at wraps
    cases wraps
    exact .inl ⟨rfl, .inl rfl⟩
  | some devVAddr =>
    have mapped := devMemoryAlloc_eq state request devVAddr hOSMemHandle
    unfold WrapRequest.mapping at mapped
    simp only [isRange, mapped] at wraps
    rcases wrapMapped_cases (state.mapRequest request devVAddr) request
        devVAddr pMapping hOSMemHandle answers with
      failed | ⟨subHandle, wrapped⟩
    · cases (Option.some.inj wraps).symm.trans failed
      exact .inl ⟨rfl, .inr ⟨devVAddr, rfl, rfl⟩⟩
    · cases (Option.some.inj wraps).symm.trans wrapped
      exact .inr ⟨pMapping, devVAddr, hOSMemHandle, subHandle, isMapping,
        rfl, rfl, rfl⟩

/-! ## Sound states -/

/-- A mapping has whole pages inside its heap. -/
structure WrapMapping.Ranged (mapping : WrapMapping) : Prop where
  aligned : mapping.devVAddr.toNat % 4096 = 0
  whole : mapping.uSize.toNat % 4096 = 0
  contained : mapping.pBMHeap.pMMUHeap.psDevArena.Contains
    mapping.devVAddr.toNat (mapping.devVAddr.toNat + mapping.uSize.toNat)

namespace WrapState

/-- A mapping has the pages from its first address on. -/
def Contiguous (state : WrapState) (mapping : WrapMapping) : Prop :=
  ∀ i < mapping.uSize.toNat / 4096,
    PageEntryFor (state.pageEntries (mapping.devVAddr.toNat / 4096 + i))
      (cutPage (mapping.cpuPAddr + BitVec.ofNat 64 (i * 4096)))

/-- The hash table leads to live contiguous buffers, by the address that is
their key.  Live buffers have mappings of their own, with pages of their own,
and contiguous ones have their pages mapped. -/
structure Sound (state : WrapState) : Prop where
  entries : ∀ key pBuf, (key, pBuf) ∈ state.pBufferHash →
    ∃ buf mapping, state.bufs pBuf = some buf ∧
      state.mappings buf.pMapping = some mapping ∧ buf.cpuPAddr = key ∧
      mapping.eCpuMemoryOrigin.isCached = true
  live : ∀ pBuf buf, state.bufs pBuf = some buf →
    buf.ui32ExportCount = 0 ∧
      ∃ mapping, state.mappings buf.pMapping = some mapping ∧
        mapping.Ranged ∧
        (mapping.eCpuMemoryOrigin.isCached = true → state.Contiguous mapping)
  own : ∀ left right leftBuf rightBuf, state.bufs left = some leftBuf →
    state.bufs right = some rightBuf →
      leftBuf.pMapping = rightBuf.pMapping → left = right
  apart : ∀ left right leftMapping rightMapping, left ≠ right →
    state.mappingOf left = some leftMapping →
      state.mappingOf right = some rightMapping →
        ∀ page, leftMapping.Covers page → ¬ rightMapping.Covers page

/-- Nothing is added: what is left of buffers, mappings and entries is as it
was, and so are the pages of the buffers that are left. -/
structure Shrinks (state after : WrapState) : Prop where
  bufs : ∀ pBuf buf, after.bufs pBuf = some buf →
    ∃ old, state.bufs pBuf = some old ∧ old.pMapping = buf.pMapping ∧
      old.cpuPAddr = buf.cpuPAddr ∧
      old.ui32ExportCount = buf.ui32ExportCount ∧
      after.mappings buf.pMapping = state.mappings buf.pMapping
  entries : ∀ key pBuf, (key, pBuf) ∈ after.pBufferHash →
    (key, pBuf) ∈ state.pBufferHash ∧ (after.bufs pBuf).isSome = true
  pages : ∀ pBuf mapping, after.mappingOf pBuf = some mapping →
    ∀ page, mapping.Covers page →
      after.pageEntries page = state.pageEntries page

variable {state after : WrapState} {pBuf : Address} {buf : BmBuf}

/-- The mapping of a live buffer. -/
theorem mappingOf_eq
    (isBuf : state.bufs pBuf = some buf) :
    state.mappingOf pBuf = state.mappings buf.pMapping := by
  rw [mappingOf, isBuf]
  rfl

variable {mapping : WrapMapping}

/-- The buffer of a mapping. -/
theorem buf_of_mappingOf
    (isMapping : state.mappingOf pBuf = some mapping) :
    ∃ buf, state.bufs pBuf = some buf ∧
      state.mappings buf.pMapping = some mapping := by
  exact bind_eq_some_iff.mp isMapping

/-- The mapping of a buffer that is left is the one it had. -/
theorem Shrinks.mappingOf
    (shrinks : Shrinks state after)
    (isMapping : after.mappingOf pBuf = some mapping) :
    state.mappingOf pBuf = some mapping := by
  obtain ⟨buf, isBuf, found⟩ := buf_of_mappingOf isMapping
  obtain ⟨old, isOld, same, _, _, kept⟩ := shrinks.bufs pBuf buf isBuf
  rw [mappingOf_eq isOld, same, ← kept, found]

/-- Less is as sound. -/
theorem Sound.shrink
    (sound : state.Sound)
    (shrinks : Shrinks state after) :
    after.Sound where
  entries := by
    intro key pBuf member
    obtain ⟨before, isLeft⟩ := shrinks.entries key pBuf member
    obtain ⟨buf, isBuf⟩ := isSome_iff_exists.mp isLeft
    obtain ⟨old, isOld, same, sameAddress, _, kept⟩ :=
      shrinks.bufs pBuf buf isBuf
    obtain ⟨found, mapping, isFound, isMapping, isKey, isCached⟩ :=
      sound.entries key pBuf before
    cases isOld.symm.trans isFound
    exact ⟨buf, mapping, isBuf, kept.trans (same ▸ isMapping),
      sameAddress.symm.trans isKey, isCached⟩
  live := by
    intro pBuf buf isBuf
    obtain ⟨old, isOld, same, _, sameExports, kept⟩ :=
      shrinks.bufs pBuf buf isBuf
    obtain ⟨noExports, mapping, isMapping, ranged, contiguous⟩ :=
      sound.live pBuf old isOld
    have found : after.mappings buf.pMapping = some mapping :=
      kept.trans (same ▸ isMapping)
    refine ⟨sameExports.symm.trans noExports, mapping, found, ranged, ?_⟩
    intro isCached i isPage
    have isSame := shrinks.pages pBuf mapping ((mappingOf_eq isBuf).trans found)
      (mapping.devVAddr.toNat / 4096 + i)
      ⟨Nat.le_add_right _ _, Nat.add_lt_add_left isPage _⟩
    rw [isSame]
    exact contiguous isCached i isPage
  own := by
    intro left right leftBuf rightBuf isLeft isRight same
    obtain ⟨oldLeft, wasLeft, sameLeft, _⟩ := shrinks.bufs left leftBuf isLeft
    obtain ⟨oldRight, wasRight, sameRight, _⟩ :=
      shrinks.bufs right rightBuf isRight
    exact sound.own left right oldLeft oldRight wasLeft wasRight
      (sameLeft.trans (same.trans sameRight.symm))
  apart := by
    intro left right leftMapping rightMapping different isLeft isRight
    exact sound.apart left right leftMapping rightMapping different
      (shrinks.mappingOf isLeft) (shrinks.mappingOf isRight)

/-- Changing the count of a buffer adds nothing. -/
theorem Shrinks.setCount
    (isBuf : state.bufs pBuf = some buf)
    (sound : state.Sound)
    (ui32RefCount : Nat) :
    Shrinks state (state.setBuf pBuf { buf with ui32RefCount }) where
  bufs := by
    intro other value isValue
    by_cases same : other = pBuf
    · subst same
      cases (update_self other _ _).symm.trans isValue
      exact ⟨buf, isBuf, rfl, rfl, rfl, rfl⟩
    · rw [setBuf_bufs, update_of_ne same] at isValue
      exact ⟨value, isValue, rfl, rfl, rfl, rfl⟩
  entries := by
    intro key other member
    refine ⟨member, ?_⟩
    obtain ⟨value, _, isValue, _⟩ := sound.entries key other member
    by_cases same : other = pBuf
    · rw [setBuf_bufs, same, update_self]
      rfl
    · rw [setBuf_bufs, update_of_ne same, isValue]
      rfl
  pages := fun _ _ _ _ _ => rfl

/-- Removing an entry adds nothing. -/
theorem Shrinks.hashRemove
    (sound : state.Sound)
    (key : BitVec 64) :
    Shrinks state (state.hashRemove key) where
  bufs := fun _ buf isBuf => ⟨buf, isBuf, rfl, rfl, rfl, rfl⟩
  entries := by
    intro entryKey pBuf member
    have before := List.mem_of_mem_filter member
    obtain ⟨buf, _, isBuf, _⟩ := sound.entries entryKey pBuf before
    exact ⟨before, isSome_iff_exists.mpr ⟨buf, isBuf⟩⟩
  pages := fun _ _ _ _ _ => rfl

/-! ## Freeing -/

/-- `MMU_Free` clears some entries at most. -/
theorem mmuFree_eq
    (pMMUHeap : Mmu.MmuHeap)
    (DevVAddr ui32Size : BitVec 32)
    (cleared : Nat → Bool) :
    ∃ pageEntries,
      state.mmuFree pMMUHeap DevVAddr ui32Size cleared =
          { state with pageEntries } ∧
        ∀ page, cleared page = false →
          pageEntries page = state.pageEntries page := by
  unfold mmuFree
  split
  · exact ⟨_, rfl, fun page kept => if_neg (Bool.eq_false_iff.mp kept)⟩
  · exact ⟨state.pageEntries, rfl, fun _ _ => rfl⟩

/-- A buffer without references is freed, perhaps with its mapping and with
entries of pages. -/
structure Freed
    (state after : WrapState) (pBuf : Address) (buf : BmBuf)
    (cleared : Nat → Bool) : Prop where
  bufs : after.bufs = Function.update state.bufs pBuf none
  mappings : ∀ pMapping, pMapping ≠ buf.pMapping →
    after.mappings pMapping = state.mappings pMapping
  entries : after.pBufferHash = state.pBufferHash
  pages : ∀ page, cleared page = false →
    after.pageEntries page = state.pageEntries page

variable {cleared : Nat → Bool} {other : Address} {result : Option Address}
  {ui32Flags : BitVec 32} {value : BmBuf}

/-- `FreeBuf` frees a buffer without references. -/
theorem freeBuf_freed
    (isBuf : state.bufs pBuf = some buf)
    (noReferences : buf.ui32RefCount = 0)
    (noExports : buf.ui32ExportCount = 0)
    (frees : state.freeBuf pBuf ui32Flags cleared = some after) :
    Freed state after pBuf buf cleared := by
  unfold freeBuf at frees
  simp only [isBuf, noReferences, noExports, bind_eq_bind,
    bind_some, decide_true, and_self, true_and, if_true] at frees
  split at frees
  · split at frees
    · cases frees
      exact ⟨rfl, fun _ other => update_of_ne other _ _, rfl, fun _ _ => rfl⟩
    · cases frees
      exact ⟨rfl, fun _ _ => rfl, rfl, fun _ _ => rfl⟩
  · obtain ⟨mapping, isMapping, frees⟩ := Option.bind_eq_some_iff.mp frees
    split at frees
    · cases frees
      exact ⟨rfl, fun _ _ => rfl, rfl, fun _ _ => rfl⟩
    · cases frees
      obtain ⟨pageEntries, isFree, kept⟩ := state.mmuFree_eq
        mapping.pBMHeap.pMMUHeap mapping.devVAddr mapping.uSize cleared
      rw [devMemoryFree, isFree]
      exact ⟨rfl, fun _ other => update_of_ne other _ _, rfl, kept⟩

section

variable (sound : state.Sound) (isBuf : state.bufs pBuf = some buf)
  (noEntry : ∀ key, (key, pBuf) ∉ state.pBufferHash)
  (kept : ∀ other mapping, other ≠ pBuf →
    state.mappingOf other = some mapping →
      ∀ page, mapping.Covers page → cleared page = false)
include sound isBuf noEntry kept

/-- Freeing a buffer that no entry leads to adds nothing. -/
theorem Freed.shrinks
    (freed : Freed state after pBuf buf cleared) :
    Shrinks state after := by
  have others : ∀ other value, after.bufs other = some value →
      other ≠ pBuf ∧ state.bufs other = some value ∧
        after.mappings value.pMapping = state.mappings value.pMapping := by
    intro other value isValue
    rw [freed.bufs] at isValue
    by_cases same : other = pBuf
    · rw [same, update_self] at isValue
      cases isValue
    · rw [update_of_ne same] at isValue
      refine ⟨same, isValue, freed.mappings _ ?_⟩
      intro shared
      exact same (sound.own other pBuf value buf isValue isBuf shared)
  refine ⟨?_, ?_, ?_⟩
  · intro other value isValue
    obtain ⟨_, before, isSame⟩ := others other value isValue
    exact ⟨value, before, rfl, rfl, rfl, isSame⟩
  · intro key other member
    rw [freed.entries] at member
    obtain ⟨value, _, isValue, _⟩ := sound.entries key other member
    refine ⟨member, ?_⟩
    have different : other ≠ pBuf := by
      rintro rfl
      exact noEntry key member
    rw [freed.bufs, update_of_ne different, isValue]
    rfl
  · intro other mapping isMapping page covers
    obtain ⟨value, isValue, found⟩ := buf_of_mappingOf isMapping
    obtain ⟨different, before, isSame⟩ := others other value isValue
    exact freed.pages page (kept other mapping different
      ((mappingOf_eq before).trans (isSame.symm.trans found)) page covers)

/-- `FreeBuf` of a buffer without references keeps a state sound. -/
theorem Sound.freeBuf
    {ui32Flags : BitVec 32}
    (noReferences : buf.ui32RefCount = 0)
    (frees : state.freeBuf pBuf ui32Flags cleared = some after) :
    after.Sound := by
  have freed := freeBuf_freed isBuf noReferences (sound.live pBuf buf isBuf).1
    frees
  exact sound.shrink (freed.shrinks sound isBuf noEntry kept)

end

/-- `BM_Free` keeps a state sound. -/
theorem Sound.bmFree
    (sound : state.Sound)
    {hBuf : Address}
    (allowed : state.Allowed (.free hBuf ui32Flags cleared))
    (frees : state.bmFree hBuf ui32Flags cleared = some after) :
    after.Sound := by
  unfold WrapState.bmFree at frees
  obtain ⟨buf, isBuf, frees⟩ := Option.bind_eq_some_iff.mp frees
  have shrunk := Shrinks.setCount isBuf sound (oneLess buf.ui32RefCount)
  have counted := sound.shrink shrunk
  simp only at frees
  split at frees
  · rename_i last
    obtain ⟨mapping, isMapping, frees⟩ := Option.bind_eq_some_iff.mp frees
    have isCounted := update_self hBuf
      (some { buf with ui32RefCount := oneLess buf.ui32RefCount }) state.bufs
    -- the entries that lead to the buffer, if any, have its address
    have leads : ∀ key, (key, hBuf) ∈ state.pBufferHash →
        buf.cpuPAddr = key ∧ mapping.eCpuMemoryOrigin.isCached = true := by
      intro key member
      obtain ⟨found, foundMapping, isFound, isFoundMapping, isKey,
        isCached⟩ := sound.entries key hBuf member
      cases isBuf.symm.trans isFound
      cases isMapping.symm.trans isFoundMapping
      exact ⟨isKey, isCached⟩
    split at frees
    · refine (counted.shrink (Shrinks.hashRemove counted _)).freeBuf
        isCounted ?_ ?_ last frees
      · intro key member
        obtain ⟨before, isOther⟩ := List.mem_filter.mp member
        simp [(leads key before).1] at isOther
      · intro other otherMapping different isOther
        exact allowed other otherMapping different (shrunk.mappingOf isOther)
    · rename_i isCached
      refine counted.freeBuf isCounted ?_ ?_ last frees
      · intro key member
        exact isCached (leads key member).2
      · intro other otherMapping different isOther
        exact allowed other otherMapping different (shrunk.mappingOf isOther)
  · cases frees
    exact counted

/-! ## Wrapping -/

section Mapping

variable
  (state : WrapState)
  (request : WrapRequest)
  (devVAddr : BitVec 32)

@[simp] theorem mapRequest_bufs :
    (state.mapRequest request devVAddr).bufs = state.bufs := by
  rw [mapRequest, mapPagesUpTo_frame]

@[simp] theorem mapRequest_mappings :
    (state.mapRequest request devVAddr).mappings = state.mappings := by
  rw [mapRequest, mapPagesUpTo_frame]

@[simp] theorem mapRequest_pBufferHash :
    (state.mapRequest request devVAddr).pBufferHash = state.pBufferHash := by
  rw [mapRequest, mapPagesUpTo_frame]

end Mapping

variable
  {request : WrapRequest}
  {answers : PageAnswers}
  {pBuf pMapping hOSMemHandle subHandle : Address}
  {devVAddr : BitVec 32}

section

variable (allowed : state.WrapAllowed request answers)
include allowed

/-- The range of a request ends within the address space. -/
theorem WrapAllowed.fits
    (isRange : answers.mmuAlloc = some devVAddr) :
    devVAddr.toNat + request.ui32MappingSize.toNat / 4096 * 4096 ≤ 2 ^ 32 := by
  obtain ⟨_, _, inHeap⟩ := allowed.contained devVAddr isRange
  have inSpace := request.hDevMemHeap.placed.fits
  have whole := Nat.div_mul_le_self request.ui32MappingSize.toNat 4096
  exact (Nat.add_le_add_left whole _).trans (inHeap.trans inSpace)

variable {mapping : WrapMapping}

/-- Mapping a request leaves the pages of live buffers alone. -/
theorem WrapAllowed.mapRequest_other
    (isRange : answers.mmuAlloc = some devVAddr)
    (isOther : state.mappingOf other = some mapping)
    {page : Nat}
    (covers : mapping.Covers page) :
    (state.mapRequest request devVAddr).pageEntries page =
      state.pageEntries page := by
  refine mapPagesUpTo_other _ _ _ _ (allowed.fits isRange) ?_
  rintro i isPage rfl
  exact allowed.unused devVAddr isRange other mapping isOther i isPage covers

/-- Mapping a request maps its pages. -/
theorem WrapAllowed.mapRequest_mapped
    (isRange : answers.mmuAlloc = some devVAddr)
    {i : Nat}
    (isPage : i < request.ui32MappingSize.toNat / 4096) :
    PageEntryFor ((state.mapRequest request devVAddr).pageEntries
      (devVAddr.toNat / 4096 + i)) (cutPage (request.page i)) := by
  have entry := mapPagesUpTo_mapped state request.hDevMemHeap.pMMUHeap
    request.page (request.uFlags ||| readWrite) (allowed.fits isRange) isPage
  rw [mapRequest, entry]
  exact ptEntry_pageEntryFor request.hDevMemHeap.pageMask
    (uFlags_unrestricted request) _

/-- A buffer for the request is added, with its mapping. -/
structure Wraps
    (state after : WrapState) (request : WrapRequest)
    (pBuf pMapping : Address) (devVAddr : BitVec 32)
    (hOSMemHandle subHandle : Address) : Prop where
  bufs : after.bufs = Function.update state.bufs pBuf
    (some { request.buf devVAddr pMapping subHandle with ui32RefCount := 1 })
  mappings : after.mappings = Function.update state.mappings pMapping
    (some (request.mapping devVAddr hOSMemHandle))
  entries : after.pBufferHash =
    if request.bPhysContig then
      (request.sHashAddress, pBuf) :: state.pBufferHash
    else state.pBufferHash
  pages : after.pageEntries = (state.mapRequest request devVAddr).pageEntries

/-- Mapping a request and failing adds nothing. -/
theorem WrapAllowed.mapRequest_shrinks
    (sound : state.Sound)
    (isRange : answers.mmuAlloc = some devVAddr) :
    Shrinks state (state.mapRequest request devVAddr) := by
  refine ⟨?_, ?_, ?_⟩
  · intro other value isValue
    rw [mapRequest_bufs] at isValue
    exact ⟨value, isValue, rfl, rfl, rfl, by rw [mapRequest_mappings]⟩
  · intro key other member
    rw [mapRequest_pBufferHash] at member
    obtain ⟨value, _, isValue, _⟩ := sound.entries key other member
    refine ⟨member, ?_⟩
    rw [mapRequest_bufs, isValue]
    rfl
  · intro other mapping isMapping page covers
    rw [mappingOf, mapRequest_bufs, mapRequest_mappings] at isMapping
    exact allowed.mapRequest_other isRange isMapping covers

/-- A wrapped buffer that is freed at once adds nothing. -/
theorem WrapAllowed.freed_shrinks
    (sound : state.Sound)
    (isRange : answers.mmuAlloc = some devVAddr)
    (isBuf : answers.pBuf = some pBuf)
    (isMapping : answers.pMapping = some pMapping)
    {buf : BmBuf}
    (same : buf.pMapping = pMapping)
    (freed : Freed
      (((state.mapRequest request devVAddr).setMapping pMapping mapping).setBuf
        pBuf buf) after pBuf buf answers.cleared) :
    Shrinks state after := by
  have unusedBuf := allowed.pBuf pBuf isBuf
  have unusedMapping := allowed.pMapping pMapping isMapping
  have others : ∀ other value, after.bufs other = some value →
      state.bufs other = some value ∧
        after.mappings value.pMapping = state.mappings value.pMapping := by
    intro other value isValue
    rw [freed.bufs, setBuf_bufs, Function.update_idem] at isValue
    by_cases isSame : other = pBuf
    · rw [isSame, update_self] at isValue
      cases isValue
    · rw [update_of_ne isSame] at isValue
      have before : state.bufs other = some value :=
        (congrFun (mapRequest_bufs state request devVAddr) other).symm.trans
          isValue
      obtain ⟨_, found, isFound, _⟩ := sound.live other value before
      have different : value.pMapping ≠ pMapping := by
        intro shared
        rw [shared, unusedMapping] at isFound
        cases isFound
      refine ⟨before, (freed.mappings _ (same ▸ different)).trans ?_⟩
      exact (update_of_ne different _ _).trans
        (congrFun (mapRequest_mappings state request devVAddr) _)
  refine ⟨?_, ?_, ?_⟩
  · intro other value isValue
    obtain ⟨before, isSame⟩ := others other value isValue
    exact ⟨value, before, rfl, rfl, rfl, isSame⟩
  · intro key other member
    rw [freed.entries] at member
    have before : (key, other) ∈ state.pBufferHash := by
      rwa [← mapRequest_pBufferHash state request devVAddr]
    obtain ⟨value, _, isValue, _⟩ := sound.entries key other before
    refine ⟨before, ?_⟩
    have different : other ≠ pBuf := by
      rintro rfl
      rw [unusedBuf] at isValue
      cases isValue
    rw [freed.bufs, setBuf_bufs, Function.update_idem, update_of_ne different]
    exact isSome_iff_exists.mpr ⟨value,
      (congrFun (mapRequest_bufs state request devVAddr) other).trans isValue⟩
  · intro other otherMapping isOther page covers
    obtain ⟨value, isValue, found⟩ := buf_of_mappingOf isOther
    obtain ⟨before, isSame⟩ := others other value isValue
    have wasMapping : state.mappingOf other = some otherMapping :=
      (mappingOf_eq before).trans (isSame.symm.trans found)
    exact (freed.pages page
      (allowed.kept other otherMapping wasMapping page covers)).trans
        (allowed.mapRequest_other isRange wasMapping covers)

/-- The part of `BM_Wrap` that makes a buffer fails and adds nothing, or adds
the buffer. -/
theorem wrapNew_cases
    (sound : state.Sound)
    (wraps : state.wrapNew request answers = some (after, result)) :
    (result = none ∧ Shrinks state after) ∨
      ∃ pBuf pMapping devVAddr hOSMemHandle subHandle,
        answers.pBuf = some pBuf ∧ answers.pMapping = some pMapping ∧
          answers.mmuAlloc = some devVAddr ∧ result = some pBuf ∧
          Wraps state after request pBuf pMapping devVAddr hOSMemHandle
            subHandle := by
  have unchanged : Shrinks state state :=
    ⟨fun _ buf isBuf => ⟨buf, isBuf, rfl, rfl, rfl, rfl⟩,
      fun key other member =>
        let ⟨_, _, isValue, _⟩ := sound.entries key other member
        ⟨member, isSome_iff_exists.mpr ⟨_, isValue⟩⟩,
      fun _ _ _ _ _ => rfl⟩
  unfold wrapNew at wraps
  split at wraps
  · cases wraps
    exact .inl ⟨rfl, unchanged⟩
  rename_i pBuf isBuf
  obtain ⟨⟨mapped, wrapped⟩, wrapsMemory, rest⟩ := bind_eq_some_iff.mp wraps
  rcases wrapMemory_cases wrapsMemory with
    ⟨rfl, same | ⟨devVAddr, isRange, same⟩⟩ |
    ⟨pMapping, devVAddr, hOSMemHandle, subHandle, isMapping, isRange, rfl,
      rfl⟩
  · cases rest
    exact .inl ⟨rfl, same ▸ unchanged⟩
  · cases rest
    exact .inl ⟨rfl, same ▸ allowed.mapRequest_shrinks sound isRange⟩
  have found : ((state.mapRequest request devVAddr).setMapping pMapping
      (request.mapping devVAddr hOSMemHandle)).mappings
        (request.buf devVAddr pMapping subHandle).pMapping =
      some (request.mapping devVAddr hOSMemHandle) :=
    update_self _ _ _
  have isCached : (request.mapping devVAddr
      hOSMemHandle).eCpuMemoryOrigin.isCached = request.bPhysContig :=
    ofWrap_isCached _ _
  simp only [found, bind_eq_bind, bind_some, isCached] at rest
  have bufs : ∀ buf : BmBuf, update
      (state.mapRequest request devVAddr).bufs pBuf (some buf) =
        update state.bufs pBuf (some buf) := by
    intro buf
    rw [mapRequest_bufs]
  have mappings : update
      (state.mapRequest request devVAddr).mappings pMapping
        (some (request.mapping devVAddr hOSMemHandle)) =
      update state.mappings pMapping
        (some (request.mapping devVAddr hOSMemHandle)) := by
    rw [mapRequest_mappings]
  have entries := mapRequest_pBufferHash state request devVAddr
  split at rest
  · rename_i isContig
    split at rest
    · cases rest
      refine .inr ⟨pBuf, pMapping, devVAddr, hOSMemHandle, subHandle, isBuf,
        isMapping, isRange, rfl, bufs _, mappings, ?_, rfl⟩
      rw [if_pos isContig]
      exact congrArg (List.cons _) entries
    · obtain ⟨freed, frees, done⟩ := bind_eq_some_iff.mp rest
      cases done
      exact .inl ⟨rfl, allowed.freed_shrinks sound isRange isBuf isMapping
        rfl (freeBuf_freed (update_self _ _ _) rfl rfl frees)⟩
  · rename_i isContig
    cases rest
    refine .inr ⟨pBuf, pMapping, devVAddr, hOSMemHandle, subHandle, isBuf,
      isMapping, isRange, rfl, bufs _, mappings, ?_, rfl⟩
    rw [if_neg isContig]
    exact entries

end

/-- The buffers of a state that a wrap leaves as they are. -/
theorem Wraps.old
    (wraps : Wraps state after request pBuf pMapping devVAddr hOSMemHandle
      subHandle)
    (allowed : state.WrapAllowed request answers)
    (sound : state.Sound)
    (isBuf : answers.pBuf = some pBuf)
    (isMapping : answers.pMapping = some pMapping)
    (isValue : state.bufs other = some value) :
    other ≠ pBuf ∧ value.pMapping ≠ pMapping ∧
      after.bufs other = some value ∧
      after.mappings value.pMapping = state.mappings value.pMapping := by
  have different : other ≠ pBuf := by
    rintro rfl
    rw [allowed.pBuf other isBuf] at isValue
    cases isValue
  obtain ⟨_, found, isFound, _⟩ := sound.live other value isValue
  have apart : value.pMapping ≠ pMapping := by
    intro shared
    rw [shared, allowed.pMapping pMapping isMapping] at isFound
    cases isFound
  refine ⟨different, apart, ?_, ?_⟩
  · rw [wraps.bufs, update_of_ne different, isValue]
  · rw [wraps.mappings, update_of_ne apart]

/-- A buffer after a wrap is the new one or an old one. -/
theorem Wraps.new_or_old
    (wraps : Wraps state after request pBuf pMapping devVAddr hOSMemHandle
      subHandle)
    (isValue : after.bufs other = some value) :
    (other = pBuf ∧ value =
        { request.buf devVAddr pMapping subHandle with ui32RefCount := 1 }) ∨
      state.bufs other = some value := by
  rw [wraps.bufs] at isValue
  by_cases same : other = pBuf
  · rw [same, update_self] at isValue
    exact .inl ⟨same, (Option.some.inj isValue).symm⟩
  · rw [update_of_ne same] at isValue
    exact .inr isValue

section

variable (allowed : state.WrapAllowed request answers)
  (isRange : answers.mmuAlloc = some devVAddr)
include allowed isRange

/-- The new mapping is made of whole pages inside the heap. -/
theorem WrapAllowed.ranged
    (hOSMemHandle : Address) :
    (request.mapping devVAddr hOSMemHandle).Ranged where
  aligned := allowed.aligned devVAddr isRange
  whole := by
    show request.ui32MappingSize.toNat % 4096 = 0
    rw [WrapRequest.ui32MappingSize, hostPagealign_toNat]
    exact Nat.mul_mod_left _ _
  contained := allowed.contained devVAddr isRange

/-- The new mapping shares no page with an old one. -/
theorem WrapAllowed.apart
    (isOther : state.mappingOf other = some mapping)
    {page : Nat}
    (covers : (request.mapping devVAddr hOSMemHandle).Covers page) :
    ¬ mapping.Covers page := by
  have isFirst : devVAddr.toNat / 4096 ≤ page := covers.1
  have isLast : page < devVAddr.toNat / 4096 +
      request.ui32MappingSize.toNat / 4096 := covers.2
  have isPage : page - devVAddr.toNat / 4096 <
      request.ui32MappingSize.toNat / 4096 :=
    Nat.sub_lt_left_of_lt_add isFirst isLast
  have apart := allowed.unused devVAddr isRange other mapping isOther _ isPage
  rwa [Nat.add_sub_cancel' isFirst] at apart

end

/-- Adding a wrapped buffer keeps a state sound. -/
theorem Sound.wraps
    (sound : state.Sound)
    (wraps : Wraps state after request pBuf pMapping devVAddr hOSMemHandle
      subHandle)
    (allowed : state.WrapAllowed request answers)
    (isBuf : answers.pBuf = some pBuf)
    (isMapping : answers.pMapping = some pMapping)
    (isRange : answers.mmuAlloc = some devVAddr) :
    after.Sound := by
  have newBuf : after.bufs pBuf = some
      { request.buf devVAddr pMapping subHandle with ui32RefCount := 1 } := by
    rw [wraps.bufs, update_self]
  have newMapping : after.mappings pMapping =
      some (request.mapping devVAddr hOSMemHandle) := by
    rw [wraps.mappings, update_self]
  have mappingOf_new : after.mappingOf pBuf =
      some (request.mapping devVAddr hOSMemHandle) :=
    (mappingOf_eq newBuf).trans newMapping
  have mappingOf_old : ∀ other mapping, other ≠ pBuf →
      after.mappingOf other = some mapping →
        state.mappingOf other = some mapping := by
    intro other mapping different isOther
    obtain ⟨value, isValue, found⟩ := buf_of_mappingOf isOther
    rcases wraps.new_or_old isValue with ⟨same, _⟩ | before
    · exact absurd same different
    · obtain ⟨_, _, _, isSame⟩ :=
        wraps.old allowed sound isBuf isMapping before
      exact (mappingOf_eq before).trans (isSame.symm.trans found)
  refine ⟨?_, ?_, ?_, ?_⟩
  · intro key other member
    have oldEntry : (key, other) ∈ state.pBufferHash →
        ∃ value mapping, after.bufs other = some value ∧
          after.mappings value.pMapping = some mapping ∧
          value.cpuPAddr = key ∧
          mapping.eCpuMemoryOrigin.isCached = true := by
      intro before
      obtain ⟨value, mapping, isValue, found, isKey, isCached⟩ :=
        sound.entries key other before
      obtain ⟨_, _, isLeft, isSame⟩ :=
        wraps.old allowed sound isBuf isMapping isValue
      exact ⟨value, mapping, isLeft, isSame.trans found, isKey, isCached⟩
    rw [wraps.entries] at member
    by_cases isContig : request.bPhysContig = true
    · rw [if_pos isContig] at member
      rcases List.mem_cons.mp member with isNew | before
      · cases isNew
        refine ⟨_, _, newBuf, newMapping, ?_, ?_⟩
        · show (if request.bPhysContig then request.psSysAddr 0 else 0) +
            request.ui32Offset.setWidth 64 = request.sHashAddress
          rw [if_pos isContig]
          rfl
        · exact (ofWrap_isCached _ _).trans isContig
      · exact oldEntry before
    · rw [if_neg isContig] at member
      exact oldEntry member
  · intro other value isValue
    rcases wraps.new_or_old isValue with ⟨rfl, rfl⟩ | before
    · refine ⟨rfl, _, newMapping, allowed.ranged isRange _, ?_⟩
      intro isCached i isPage
      have isContig : request.bPhysContig = true :=
        (ofWrap_isCached _ _).symm.trans isCached
      have mapped := allowed.mapRequest_mapped isRange isPage
      rw [WrapRequest.page, if_pos isContig] at mapped
      rw [wraps.pages]
      show PageEntryFor _ (cutPage
        ((if request.bPhysContig then request.psSysAddr 0 else 0) +
          BitVec.ofNat 64 (i * 4096)))
      rw [if_pos isContig]
      exact mapped
    · obtain ⟨noExports, mapping, found, ranged, contiguous⟩ :=
        sound.live other value before
      obtain ⟨_, _, _, isSame⟩ :=
        wraps.old allowed sound isBuf isMapping before
      refine ⟨noExports, mapping, isSame.trans found, ranged, ?_⟩
      intro isCached i isPage
      rw [wraps.pages, allowed.mapRequest_other isRange
        ((mappingOf_eq before).trans found)
        ⟨Nat.le_add_right _ _, Nat.add_lt_add_left isPage _⟩]
      exact contiguous isCached i isPage
  · intro left right leftBuf rightBuf isLeft isRight same
    rcases wraps.new_or_old isLeft with ⟨rfl, rfl⟩ | wasLeft
    · rcases wraps.new_or_old isRight with ⟨rfl, _⟩ | wasRight
      · rfl
      · obtain ⟨_, apart, _⟩ :=
          wraps.old allowed sound isBuf isMapping wasRight
        exact absurd same.symm apart
    · rcases wraps.new_or_old isRight with ⟨rfl, rfl⟩ | wasRight
      · obtain ⟨_, apart, _⟩ := wraps.old allowed sound isBuf isMapping wasLeft
        exact absurd same apart
      · exact sound.own left right leftBuf rightBuf wasLeft wasRight same
  · intro left right leftMapping rightMapping different isLeft isRight page
      inLeft
    by_cases isNewLeft : left = pBuf
    · subst isNewLeft
      cases mappingOf_new.symm.trans isLeft
      exact allowed.apart isRange
        (mappingOf_old right rightMapping different.symm isRight) inLeft
    · by_cases isNewRight : right = pBuf
      · subst isNewRight
        cases mappingOf_new.symm.trans isRight
        intro inRight
        exact allowed.apart isRange
          (mappingOf_old left leftMapping isNewLeft isLeft) inRight inLeft
      · exact sound.apart left right leftMapping rightMapping different
          (mappingOf_old left leftMapping isNewLeft isLeft)
          (mappingOf_old right rightMapping isNewRight isRight) page inLeft

/-! ## Calls and runs -/

/-- `BM_Wrap` finds a buffer and counts one more reference, or it makes one. -/
theorem bmWrap_cases
    (wraps : state.bmWrap request answers = some (after, result)) :
    (∃ pBuf buf mapping,
      state.pBufferHash.lookup request.sHashAddress = some pBuf ∧
        state.bufs pBuf = some buf ∧ state.Finds request buf mapping ∧
        result = some pBuf ∧
        after = state.setBuf pBuf
          { buf with ui32RefCount := (buf.ui32RefCount + 1) % 2 ^ 32 }) ∨
      (∀ buf mapping, ¬ state.Finds request buf mapping) ∧
        (state.wrapNew request answers = some (after, result) ∨
          (state.hashRemove request.sHashAddress).wrapNew request answers =
            some (after, result)) := by
  unfold bmWrap at wraps
  cases isFound : state.pBufferHash.lookup request.sHashAddress with
  | none =>
    rw [isFound] at wraps
    refine .inr ⟨?_, .inl wraps⟩
    rintro buf mapping ⟨pBuf, found, _⟩
    cases isFound.symm.trans found
  | some pBuf =>
    simp only [isFound, bind_eq_bind] at wraps
    obtain ⟨buf, isBuf, wraps⟩ := bind_eq_some_iff.mp wraps
    obtain ⟨mapping, isMapping, wraps⟩ := bind_eq_some_iff.mp wraps
    by_cases matched : mapping.uSize = request.ui32MappingSize ∧
        mapping.eCpuMemoryOrigin.isCached = true
    · rw [if_pos matched] at wraps
      cases wraps
      exact .inl ⟨pBuf, buf, mapping, rfl, isBuf,
        ⟨pBuf, isFound, isBuf, isMapping, matched⟩, rfl, rfl⟩
    · rw [if_neg matched] at wraps
      refine .inr ⟨?_, .inr wraps⟩
      rintro otherBuf otherMapping ⟨other, found, isOther, isOtherMapping,
        otherMatched⟩
      cases isFound.symm.trans found
      cases isBuf.symm.trans isOther
      cases isMapping.symm.trans isOtherMapping
      exact matched otherMatched

/-- A removed entry changes nothing for the allocators. -/
theorem WrapAllowed.hashRemove
    (allowed : state.WrapAllowed request answers)
    (key : BitVec 64) :
    (state.hashRemove key).WrapAllowed request answers :=
  ⟨allowed.pBuf, allowed.pMapping, allowed.aligned, allowed.contained,
    allowed.unused, allowed.kept⟩

/-- `BM_Wrap` keeps a state sound. -/
theorem Sound.bmWrap
    (sound : state.Sound)
    (allowed : state.WrapAllowed request answers)
    (wraps : state.bmWrap request answers = some (after, result)) :
    after.Sound := by
  have made : ∀ start : WrapState, start.Sound →
      start.WrapAllowed request answers →
      start.wrapNew request answers = some (after, result) →
        after.Sound := by
    intro start isSound isAllowed makes
    rcases wrapNew_cases isAllowed isSound makes with ⟨_, shrinks⟩ |
      ⟨pBuf, pMapping, devVAddr, hOSMemHandle, subHandle, isBuf, isMapping,
        isRange, _, added⟩
    · exact isSound.shrink shrinks
    · exact isSound.wraps added isAllowed isBuf isMapping isRange
  rcases bmWrap_cases wraps with
    ⟨pBuf, buf, _, _, isBuf, _, _, rfl⟩ | ⟨_, makes | makes⟩
  · exact sound.shrink (Shrinks.setCount isBuf sound _)
  · exact made state sound allowed makes
  · exact made _ (sound.shrink (Shrinks.hashRemove sound _))
      (allowed.hashRemove _) makes

/-- Every state of a run is sound. -/
theorem Reachable.sound
    (reachable : Reachable state) :
    state.Sound := by
  induction reachable with
  | new pageEntries =>
    refine ⟨?_, ?_, ?_, ?_⟩
    · intro _ _ member
      cases member
    · intro _ _ impossible
      cases impossible
    · intro _ _ _ _ impossible
      cases impossible
    · intro _ _ _ _ _ impossible
      cases impossible
  | @step _ _ call _ allowed performs ih =>
    cases call with
    | wrap request answers =>
      obtain ⟨⟨_, result⟩, wraps, rfl⟩ := Option.map_eq_some_iff.mp performs
      exact ih.bmWrap allowed wraps
    | free hBuf ui32Flags cleared => exact ih.bmFree allowed performs

/-- A new buffer maps its request just if the size fits and the entries of the
page tables can hold the addresses. -/
theorem Wraps.mapsRequest_iff
    (wraps : Wraps state after request pBuf pMapping devVAddr hOSMemHandle
      subHandle)
    (allowed : state.WrapAllowed request answers)
    (isRange : answers.mmuAlloc = some devVAddr) :
    after.MapsRequest request pBuf ↔
      request.SizeFits ∧
        ∀ i < request.pageCount, cutPage (request.page i) = request.page i := by
  have newBuf : after.bufs pBuf = some
      { request.buf devVAddr pMapping subHandle with ui32RefCount := 1 } := by
    rw [wraps.bufs, update_self]
  have newMapping : after.mappings pMapping =
      some (request.mapping devVAddr hOSMemHandle) := by
    rw [wraps.mappings, update_self]
  have entry : ∀ i, i * 4096 < request.ui32MappingSize.toNat →
      PageEntryFor (after.pageEntries (devVAddr.toNat / 4096 + i))
        (cutPage (request.page i)) := by
    intro i inside
    rw [wraps.pages]
    have whole : request.ui32MappingSize.toNat % 4096 = 0 :=
      (allowed.ranged isRange hOSMemHandle).whole
    exact allowed.mapRequest_mapped isRange (by omega)
  rw [request.sizeFits_iff]
  constructor
  · rintro ⟨buf, mapping, isBuf, isMapping, _, _, _, pages⟩
    cases newBuf.symm.trans isBuf
    cases newMapping.symm.trans isMapping
    refine ⟨fun i isPage => (pages i isPage).1, ?_⟩
    intro i isPage
    obtain ⟨inside, isFor⟩ := pages i isPage
    exact (entry i inside).iff.mp isFor
  · rintro ⟨sizes, addresses⟩
    refine ⟨_, _, newBuf, newMapping, rfl,
      allowed.contained devVAddr isRange, rfl, ?_⟩
    intro i isPage
    exact ⟨sizes i isPage, (entry i (sizes i isPage)).iff.mpr
      (addresses i isPage)⟩

/-- A buffer that is found maps the request just if it is in the heap of the
request, at its offset, with its pages, and the size fits. -/
theorem Sound.found_mapsRequest_iff
    (sound : state.Sound)
    (isBuf : state.bufs pBuf = some buf)
    (isMapping : state.mappings buf.pMapping = some mapping)
    (isSize : mapping.uSize = request.ui32MappingSize)
    (isCached : mapping.eCpuMemoryOrigin.isCached = true)
    (ui32RefCount : Nat) :
    (state.setBuf pBuf { buf with ui32RefCount }).MapsRequest request pBuf ↔
      request.SizeFits ∧ mapping.pBMHeap = request.hDevMemHeap ∧
        buf.devVAddr = mapping.devVAddr + request.ui32Offset ∧
        ∀ i < request.pageCount,
          cutPage (mapping.cpuPAddr + BitVec.ofNat 64 (i * 4096)) =
            request.page i := by
  have counted : (state.setBuf pBuf { buf with ui32RefCount }).bufs pBuf =
      some { buf with ui32RefCount } :=
    update_self _ _ _
  obtain ⟨_, found, isFound, ranged, contiguous⟩ := sound.live pBuf buf isBuf
  cases isMapping.symm.trans isFound
  have whole := ranged.whole
  have entry : ∀ i, i * 4096 < mapping.uSize.toNat →
      PageEntryFor (state.pageEntries (mapping.devVAddr.toNat / 4096 + i))
        (cutPage (mapping.cpuPAddr + BitVec.ofNat 64 (i * 4096))) :=
    fun i inside => contiguous isCached i (by omega)
  rw [request.sizeFits_iff, ← isSize]
  constructor
  · rintro ⟨other, otherMapping, isOther, isOtherMapping, isHeap, _, isStart,
      pages⟩
    cases counted.symm.trans isOther
    cases isMapping.symm.trans isOtherMapping
    refine ⟨fun i isPage => (pages i isPage).1, isHeap, isStart, ?_⟩
    intro i isPage
    obtain ⟨inside, isFor⟩ := pages i isPage
    exact (entry i inside).iff.mp isFor
  · rintro ⟨sizes, isHeap, isStart, addresses⟩
    refine ⟨_, mapping, counted, isMapping, isHeap, isHeap ▸ ranged.contained,
      isStart, ?_⟩
    intro i isPage
    exact ⟨sizes i isPage, (entry i (sizes i isPage)).iff.mpr
      (addresses i isPage)⟩

/-- In every reachable state, a wrap that succeeds maps what it was asked for
just if its size fits, and the buffer that it finds in the hash table has been
wrapped in the same heap, at the same offset and with the same pages. -/
theorem bmWrap_mapsRequest_iff
    (reachable : Reachable state)
    (allowed : state.WrapAllowed request answers)
    {hBuf : Address}
    (wraps : state.bmWrap request answers = some (after, some hBuf)) :
    after.MapsRequest request hBuf ↔ state.Fits request := by
  have sound := reachable.sound
  have made : ∀ start : WrapState, start.Sound →
      start.WrapAllowed request answers →
      start.wrapNew request answers = some (after, some hBuf) →
      (after.MapsRequest request hBuf ↔ request.SizeFits ∧
        ∀ i < request.pageCount,
          cutPage (request.page i) = request.page i) := by
    intro start isSound isAllowed makes
    rcases wrapNew_cases isAllowed isSound makes with ⟨impossible, _⟩ |
      ⟨pBuf, pMapping, devVAddr, hOSMemHandle, subHandle, _, _, isRange,
        isResult, added⟩
    · cases impossible
    · cases isResult
      exact added.mapsRequest_iff isAllowed isRange
  have fresh : (∀ buf mapping, ¬ state.Finds request buf mapping) →
      (state.Fits request ↔ request.SizeFits ∧
        ∀ i < request.pageCount,
          cutPage (request.page i) = request.page i) := by
    intro nothing
    exact ⟨fun fits => ⟨fits.size, fits.fresh nothing⟩,
      fun ⟨size, addresses⟩ => ⟨size,
        fun buf mapping finds => absurd finds (nothing buf mapping),
        fun _ => addresses⟩⟩
  rcases bmWrap_cases wraps with
    ⟨pBuf, buf, mapping, isFirst, isBuf, finds, isResult, rfl⟩ |
    ⟨nothing, makes | makes⟩
  · cases isResult
    obtain ⟨other, isOther, isOtherBuf, isMapping, isSize, isCached⟩ := finds
    cases isFirst.symm.trans isOther
    rw [sound.found_mapsRequest_iff isBuf isMapping isSize isCached]
    constructor
    · rintro ⟨size, sameWrap⟩
      refine ⟨size, ?_, ?_⟩
      · rintro otherBuf otherMapping ⟨another, isAnother, isAnotherBuf,
          isAnotherMapping, _⟩
        cases isFirst.symm.trans isAnother
        cases isBuf.symm.trans isAnotherBuf
        cases isMapping.symm.trans isAnotherMapping
        exact sameWrap
      · intro nothing
        exact absurd ⟨hBuf, isFirst, isBuf, isMapping, isSize, isCached⟩
          (nothing buf mapping)
    · intro fits
      exact ⟨fits.size, fits.found buf mapping
        ⟨hBuf, isFirst, isBuf, isMapping, isSize, isCached⟩⟩
  · rw [fresh nothing]
    exact made state sound allowed makes
  · rw [fresh nothing]
    exact made _ (sound.shrink (Shrinks.hashRemove sound _))
      (allowed.hashRemove _) makes

end WrapState

/-! ## A buffer wrapped again -/

/-- A heap of the driver, with pages of four kilobytes. -/
def heapOf
    (pImportArena : Address)
    (psDevArena : Mmu.DevArenaDescriptor)
    (placed : psDevArena.Placed) :
    DevHeap where
  ui32Attribs :=
    pvrsrvMemRamBackedAllocation ||| pvrsrvBackingstoreSysmemNoncontig
  pImportArena := pImportArena
  ramBacked := by decide
  notUserSupplied := by decide
  pMMUHeap :=
    { psMMUContext := 0
      psDevArena
      ui32PDBaseIndex := psDevArena.BaseDevVAddr >>> 22
      ui32PageTableCount := (psDevArena.ui32Size >>> 12 + 1023) >>> 10
      ui32PDEPageSizeCtrl := 0
      ui32DataPageSize := 0x1000
      ui32DataPageMask := 0xFFF
      ui32PTShift := 12
      ui32PTBitWidth := 10
      ui32PTMask := Mmu.sgxMmuPtMask
      ui32PTNumEntriesUsable := 1024
      ui32PDShift := 22 }
  placed := placed
  pageSize := rfl
  pageMask := rfl

/-- The general heap. -/
def generalHeap : DevHeap :=
  heapOf 0x100 ⟨.perContext, 0x10000000, 0xC2000000 - 0x1000, 0x1000⟩
    (by decide)

/-- The heap of the tile accelerator's data. -/
def taDataHeap : DevHeap :=
  heapOf 0x200 ⟨.perContext, 0xE2000000, 0x0D000000 - 0x1000, 0x1000⟩
    (by decide)

/-- A request for the page at `0x5000`. -/
def onePage (hDevMemHeap : DevHeap) : WrapRequest where
  hDevMemHeap := hDevMemHeap
  ui32Size := 0x1000
  ui32Offset := 0
  bPhysContig := true
  psSysAddr := fun _ => 0x5000
  pvCPUVAddr := false
  pui32Flags := none

/-- All calls succeed. -/
def granted : PageAnswers where
  pBuf := some 1
  pMapping := some 2
  hOSMemHandle := some 3
  mmuAlloc := some 0x10000000
  subHandle := none
  zeroed := true
  inserted := true
  cleared := fun _ => false

/-- No memory is left. -/
def exhausted : PageAnswers where
  pBuf := none
  pMapping := none
  hOSMemHandle := none
  mmuAlloc := none
  subHandle := none
  zeroed := true
  inserted := true
  cleared := fun _ => false

/-- A memory context without wrapped buffers. -/
def empty : WrapState := ⟨fun _ => none, fun _ => none, [], fun _ => 0⟩

/-- The page has been wrapped in the general heap. -/
def wrappedOnce : WrapState where
  bufs := Function.update empty.bufs 1
    (some { (onePage generalHeap).buf 0x10000000 2 3 with ui32RefCount := 1 })
  mappings := Function.update empty.mappings 2
    (some ((onePage generalHeap).mapping 0x10000000 3))
  pBufferHash := [(0x5000, 1)]
  pageEntries :=
    (empty.mapRequest (onePage generalHeap) 0x10000000).pageEntries

/-- The page has been wrapped twice. -/
def wrappedTwice : WrapState :=
  wrappedOnce.setBuf 1
    { (onePage generalHeap).buf 0x10000000 2 3 with ui32RefCount := 2 }

theorem wrappedOnce_wraps :
    empty.bmWrap (onePage generalHeap) granted = some (wrappedOnce, some 1) := by
  rfl

/-- Nothing is promised where there are no answers. -/
theorem exhausted_allowed
    (request : WrapRequest) :
    state.WrapAllowed request exhausted where
  pBuf := nofun
  pMapping := nofun
  aligned := nofun
  contained := nofun
  unused := nofun
  kept := fun _ _ _ _ _ => rfl

theorem wrappedOnce_reachable : WrapState.Reachable wrappedOnce := by
  have allowed : empty.WrapAllowed (onePage generalHeap) granted := by
    refine ⟨fun _ _ => rfl, fun _ _ => rfl, ?_, ?_, ?_, fun _ _ _ _ _ => rfl⟩
    · rintro _ ⟨⟩
      decide
    · rintro _ ⟨⟩
      exact ⟨by decide, by decide, by decide⟩
    · intro _ _ _ _ isMapping
      cases isMapping
  exact WrapState.Reachable.step (.new fun _ => 0)
    (show empty.Allowed (.wrap (onePage generalHeap) granted) from allowed)
    (congrArg (Option.map Prod.fst) wrappedOnce_wraps)

theorem wrappedOnce_buf : wrappedOnce.bufs 1 =
    some { (onePage generalHeap).buf 0x10000000 2 3 with ui32RefCount := 1 } :=
  rfl

theorem wrappedOnce_mapping : wrappedOnce.mappings 2 =
    some ((onePage generalHeap).mapping 0x10000000 3) :=
  rfl

/-- The only mapping is that of the page in the general heap. -/
theorem wrappedOnce_finds
    {buf : BmBuf}
    {mapping : WrapMapping}
    (finds : wrappedOnce.Finds request buf mapping) :
    buf = { (onePage generalHeap).buf 0x10000000 2 3 with ui32RefCount := 1 } ∧
      mapping = (onePage generalHeap).mapping 0x10000000 3 := by
  obtain ⟨pBuf, _, isBuf, isMapping, _⟩ := finds
  by_cases same : pBuf = 1
  · rw [same] at isBuf
    cases wrappedOnce_buf.symm.trans isBuf
    cases wrappedOnce_mapping.symm.trans isMapping
    exact ⟨rfl, rfl⟩
  · have nothing : wrappedOnce.bufs pBuf = none := update_of_ne same _ _
    cases nothing.symm.trans isBuf

theorem bmWrap_mapsRequest_iff_again :
    wrappedTwice.MapsRequest (onePage generalHeap) 1 := by
  refine (WrapState.bmWrap_mapsRequest_iff wrappedOnce_reachable
    (exhausted_allowed (onePage generalHeap)) rfl).mpr ⟨by decide, ?_, ?_⟩
  · intro buf mapping finds
    obtain ⟨rfl, rfl⟩ := wrappedOnce_finds finds
    refine ⟨rfl, rfl, ?_⟩
    intro i isPage
    have isFirst : i = 0 := Nat.lt_one_iff.mp isPage
    subst isFirst
    rfl
  · intro nothing
    exact absurd ⟨1, rfl, rfl, rfl, rfl, rfl⟩ (nothing _ _)

/-- The page is wrapped in one heap while it is wrapped in another. -/
theorem bmWrap_mapsOther :
    ¬ ∀ (state after : WrapState) (request : WrapRequest)
      (answers : PageAnswers) (hBuf : Address),
      WrapState.Reachable state → state.WrapAllowed request answers →
        state.bmWrap request answers = some (after, some hBuf) →
          after.MapsRequest request hBuf := by
  intro maps
  obtain ⟨buf, mapping, isBuf, isMapping, isHeap, _⟩ :=
    maps wrappedOnce wrappedTwice (onePage taDataHeap) exhausted 1
      wrappedOnce_reachable (exhausted_allowed _) rfl
  have isCounted : wrappedTwice.bufs 1 = some
      { (onePage generalHeap).buf 0x10000000 2 3 with ui32RefCount := 2 } :=
    rfl
  cases isCounted.symm.trans isBuf
  cases wrappedOnce_mapping.symm.trans isMapping
  have sameArena := congrArg (fun heap => heap.pImportArena) isHeap
  exact absurd sameArena (by decide)

end PvrServices.BufferManager.WrapPages
