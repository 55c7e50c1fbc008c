import PvrServices.BufferManager.WrapPagesCorrect

/-!
# The wraps of the two models of the tables

The runs of all buffers and the pages of wraps both keep the buffers, the
mappings and the hash table.  A wrap does the same to them in both, and hands
out the same buffer.
-/

namespace PvrServices.BufferManager

open Function (update)
open WrapPages

/-- The state of the pages has the buffers, the mappings and the hash table
of the whole state. -/
structure SameTables (whole : BmState) (state : WrapState) : Prop where
  bufs : whole.bufs = state.bufs
  mappings : whole.mappings =
    Option.map WrapMapping.toBmMapping ∘ state.mappings
  pBufferHash : whole.pBufferHash = state.pBufferHash

/-- Related results lead to related results. -/
theorem rel_bind
    {α β γ δ : Type}
    {r : α → β → Prop} {s : γ → δ → Prop}
    {one : Option α} {other : Option β}
    {next : α → Option γ} {others : β → Option δ}
    (first : Option.Rel r one other)
    (second : ∀ a b, r a b → Option.Rel s (next a) (others b)) :
    Option.Rel s (one >>= next) (other >>= others) := by
  cases first with
  | some related => exact second _ _ related
  | none => exact .none

namespace SameTables

variable {state : WrapState} {whole : BmState}
  (same : SameTables whole state)
include same

theorem acquire (resource : Resource) :
    SameTables (whole.acquire resource) state :=
  ⟨same.bufs, same.mappings, same.pBufferHash⟩

theorem release (resource : Resource) :
    SameTables (whole.release resource) state :=
  ⟨same.bufs, same.mappings, same.pBufferHash⟩

theorem setBuf (pBuf : Address) (buf : BmBuf) :
    SameTables (whole.setBuf pBuf buf) (state.setBuf pBuf buf) where
  bufs := by rw [WrapState.setBuf_bufs, ← same.bufs]; rfl
  mappings := same.mappings
  pBufferHash := same.pBufferHash

theorem setMapping (pMapping : Address) (mapping : WrapMapping) :
    SameTables (whole.setMapping pMapping mapping.toBmMapping)
      (state.setMapping pMapping mapping) where
  bufs := same.bufs
  mappings := by
    simp [BmState.setMapping, WrapState.setMapping, same.mappings,
      Function.comp_update]
  pBufferHash := same.pBufferHash

/-- `WrapMemory` is the same. -/
theorem wrapMemory (request : WrapRequest) (answers : PageAnswers) :
    Option.Rel
      (fun one other => SameTables one.1 other.1 ∧ one.2 = other.2)
      (whole.wrapMemory request.ui32Size request.ui32Offset
        request.bPhysContig (request.psSysAddr 0) request.pvCPUVAddr
        request.uFlags answers.toWrapAnswers)
      (state.wrapMemory request answers) := by
  have noZero : request.uFlags &&& pvrsrvMemZero = 0#32 :=
    BmState.wrapFlags_and _ _ (by decide) (by decide)
  have single : request.uFlags &&& pvrsrvMemInterleaved = 0#32 :=
    BmState.wrapFlags_and _ _ (by decide) (by decide)
  unfold BmState.wrapMemory WrapState.wrapMemory
  cases answers.pMapping with
  | none => exact .some ⟨same, rfl⟩
  | some pMapping =>
    cases answers.hOSMemHandle with
    | none =>
      cases request.pvCPUVAddr with
      | true => exact .none
      | false =>
        exact .some ⟨(same.acquire _).release _, rfl⟩
    | some hOSMemHandle =>
      cases answers.mmuAlloc with
      | none =>
        exact .some ⟨⟨same.bufs, same.mappings, same.pBufferHash⟩, rfl⟩
      | some devVAddr =>
        let mapping := request.mapping devVAddr hOSMemHandle
        have mapped := devMemoryAlloc_eq state request devVAddr hOSMemHandle
        unfold WrapRequest.mapping at mapped
        have placed : SameTables whole (state.mapRequest request devVAddr) := by
          rw [WrapState.mapRequest, mapPagesUpTo_frame]
          exact ⟨same.bufs, same.mappings, same.pBufferHash⟩
        simp only [mapped]
        simp only [WrapState.wrapMapped, noZero, single, BitVec.ofNat_eq_ofNat,
          ne_eq, not_true_eq_false, false_and, if_false]
        have three := ((placed.acquire (.mapping pMapping)).acquire
          (.area hOSMemHandle)).acquire (.deviceRange devVAddr)
        by_cases start : request.ui32Offset = 0#32
        · rw [if_pos start, if_pos start]
          exact .some ⟨three.setMapping pMapping mapping, rfl⟩
        · rw [if_neg start, if_neg start]
          cases answers.subHandle with
          | none => exact .some ⟨(three.release _).release _, rfl⟩
          | some subHandle =>
            exact .some ⟨(three.acquire _).setMapping pMapping mapping, rfl⟩

theorem releaseIf
    (decision : Prop)
    [Decidable decision]
    (hOSMemHandle : Address) :
    SameTables
      (if decision then whole.releaseArea (fun _ => true) hOSMemHandle
      else whole) state := by
  split
  · exact same.release _
  · exact same

theorem freeMapping (pMapping : Address) :
    SameTables (whole.freeMapping pMapping) (state.freeMapping pMapping) where
  bufs := same.bufs
  mappings := by
    simp [BmState.freeMapping, BmState.release, WrapState.freeMapping,
      same.mappings, Function.comp_update]
  pBufferHash := same.pBufferHash

theorem freeBuffer (pBuf : Address) :
    SameTables (whole.freeBuffer pBuf) (state.freeBuffer pBuf) where
  bufs := by
    show update whole.bufs pBuf none = update state.bufs pBuf none
    rw [same.bufs]
  mappings := same.mappings
  pBufferHash := same.pBufferHash

theorem buf (pBuf : Address) :
    Option.Rel Eq (whole.bufs pBuf) (state.bufs pBuf) := by
  rw [same.bufs]
  cases state.bufs pBuf with
  | none => exact .none
  | some buf => exact .some rfl

theorem mapping (pMapping : Address) :
    Option.Rel (fun one other => one = WrapMapping.toBmMapping other)
      (whole.mappings pMapping) (state.mappings pMapping) := by
  rw [same.mappings, Function.comp_apply]
  cases state.mappings pMapping with
  | none => exact .none
  | some mapping => exact .some rfl

/-- `FreeBuf` of a buffer that has just been wrapped is the same. -/
theorem freeBuf
    (request : WrapRequest)
    (pBuf : Address)
    (cleared : Nat → Bool) :
    Option.Rel SameTables
      (whole.freeBuf pBuf request.uFlags true fun _ => true)
      (state.freeBuf pBuf request.uFlags cleared) := by
  have user : request.uFlags &&& pvrsrvMemUserSuppliedDevvaddr = 0#32 :=
    BmState.wrapFlags_and _ _ (by decide) (by decide)
  have ramBacked : request.uFlags &&& pvrsrvMemRamBackedAllocation = 0#32 :=
    BmState.wrapFlags_and _ _ (by decide) (by decide)
  unfold BmState.freeBuf WrapState.freeBuf
  simp only [user, ramBacked, BitVec.ofNat_eq_ofNat, ne_eq, not_true_eq_false,
    if_false]
  refine rel_bind (same.buf pBuf) ?_
  rintro buf _ rfl
  refine rel_bind (same.mapping buf.pMapping) ?_
  rintro _ mapping rfl
  generalize decide (buf.ui32ExportCount = 0 ∧ buf.ui32RefCount = 0) = last
  obtain ⟨pageEntries, isFree, -⟩ := state.mmuFree_eq
    mapping.pBMHeap.pMMUHeap mapping.devVAddr mapping.uSize cleared
  rw [WrapState.devMemoryFree, isFree]
  have unmapped : SameTables whole { state with pageEntries } :=
    ⟨same.bufs, same.mappings, same.pBufferHash⟩
  have left := ((unmapped.releaseIf
    (last = true ∧ ¬buf.hOSMemHandle = mapping.hOSMemHandle)
      buf.hOSMemHandle).releaseIf
    (last = true ∧ mapping.eCpuMemoryOrigin.isWrapped = true)
      mapping.hOSMemHandle).release (.deviceRange mapping.devVAddr)
  cases last with
  | true => exact .some ((left.freeMapping buf.pMapping).freeBuffer pBuf)
  | false => exact .some left

/-- The part of `BM_Wrap` that makes a buffer is the same. -/
theorem wrapNew (request : WrapRequest) (answers : PageAnswers) :
    Option.Rel
      (fun one other => SameTables one.1 other.1 ∧
        one.2.map Prod.fst = other.2)
      (whole.wrapNew request.ui32Size request.ui32Offset request.bPhysContig
        (request.psSysAddr 0) request.pvCPUVAddr request.uFlags
        answers.toWrapAnswers)
      (state.wrapNew request answers) := by
  unfold BmState.wrapNew WrapState.wrapNew
  cases answers.pBuf with
  | none => exact .some ⟨same, rfl⟩
  | some pBuf =>
    refine rel_bind ((same.acquire (.buf pBuf)).wrapMemory request answers) ?_
    rintro ⟨one, wrapped⟩ ⟨other, _⟩ ⟨same, rfl⟩
    cases wrapped with
    | none => exact .some ⟨same.release _, rfl⟩
    | some buf =>
      refine rel_bind (same.mapping buf.pMapping) ?_
      rintro _ mapping rfl
      have done := same.setBuf pBuf { buf with ui32RefCount := 1 }
      split_ifs
      · exact .some ⟨⟨done.bufs, done.mappings,
          congrArg ((request.sHashAddress, pBuf) :: ·) same.pBufferHash⟩, rfl⟩
      · refine rel_bind
          ((same.setBuf pBuf buf).freeBuf request pBuf answers.cleared) ?_
        exact fun _ _ kept => .some ⟨kept, rfl⟩
      · exact .some ⟨⟨done.bufs, done.mappings, done.pBufferHash⟩, rfl⟩

/-- `BM_Wrap` does the same to the tables, and hands out the same buffer. -/
theorem bmWrap (request : WrapRequest) (answers : PageAnswers) :
    Option.Rel
      (fun one other => SameTables one.1 other.1 ∧
        one.2.map Prod.fst = other.2)
      (whole.bmWrap request.hDevMemHeap.toBmHeap request.ui32Size
        request.ui32Offset request.bPhysContig (request.psSysAddr 0)
        request.pvCPUVAddr request.pui32Flags answers.toWrapAnswers)
      (state.bmWrap request answers) := by
  have key : request.psSysAddr 0 + request.ui32Offset.setWidth 64 =
      request.sHashAddress := rfl
  unfold BmState.bmWrap WrapState.bmWrap
  simp only [same.pBufferHash, key]
  cases state.pBufferHash.lookup request.sHashAddress with
  | none => exact same.wrapNew request answers
  | some pBuf =>
    refine rel_bind (same.buf pBuf) ?_
    rintro buf _ rfl
    refine rel_bind (same.mapping buf.pMapping) ?_
    rintro _ mapping rfl
    have counted := same.setBuf pBuf
      { buf with ui32RefCount := (buf.ui32RefCount + 1) % 2 ^ 32 }
    have removed : SameTables (whole.hashRemove request.sHashAddress)
        (state.hashRemove request.sHashAddress) :=
      ⟨same.bufs, same.mappings, congrArg _ same.pBufferHash⟩
    split_ifs with fits other
    · exact .some ⟨⟨counted.bufs, counted.mappings, counted.pBufferHash⟩, rfl⟩
    · exact absurd fits other
    · next other => exact absurd other fits
    · exact removed.wrapNew request answers

end SameTables

end PvrServices.BufferManager
