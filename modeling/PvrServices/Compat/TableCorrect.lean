import PvrServices.Compat.ExpandCorrect

/-!
# The layout table against the declared structures

Each layout string restates a structure that is declared elsewhere.  Here the
strings are compared with the declarations, and the effect of the expansion on
every declared field is derived from the comparison.
-/

namespace PvrServices.Compat

open ByteMemory CLayout

/-- Declared IN structure of a table bridge; `CREATE_SYNC_INFO_MOD_OBJ` takes
none. -/
def bridgeInType : BridgeId → Option CType
  | .sgxFlushHwRenderTarget => some bridgeInSgxFlushHwRenderTarget
  | .sgxUnregisterHwRenderContext =>
    some (bridgeInUnregister "hHWRenderContext")
  | .sgxUnregisterHwTransferContext =>
    some (bridgeInUnregister "hHWTransferContext")
  | .sgxScheduleProcessQueues => some (bridgeInHandle "hDevCookie")
  | .destroyDispClassSwapChain =>
    some (bridgeInHandles "hDeviceKM" "hSwapChain")
  | .swapDispClassToSystem => some (bridgeInHandles "hDeviceKM" "hSwapChain")
  | .swapDispClassToBuffer => some bridgeInSwapDispClassToBuffer
  | .closeBufferClassDevice => some (bridgeInHandle "hDeviceKM")
  | .allocSyncInfo => some (bridgeInHandle "hDevCookie")
  | .freeSyncInfo => some (bridgeInHandle "hKernelSyncInfo")
  | .destroySyncInfoModObj => some (bridgeInHandle "hKernelSyncInfoModObj")
  | .modifyPendingSyncOps => some bridgeInModifyPendingSyncOps
  | .modifyCompleteSyncOps => some (bridgeInHandle "hKernelSyncInfoModObj")
  | .syncOpsFlushToModObj => some (bridgeInHandle "hKernelSyncInfoModObj")
  | .syncOpsFlushToDelta => some bridgeInSyncOpsFlushToDelta
  | .chgDevMemAttribs => some bridgeInChgDevMemAttribs
  | .unmapDevMemory => some (bridgeInUnmap "psKernelMemInfo")
  | .unmapDeviceClassMemory => some (bridgeInUnmap "psKernelMemInfo")
  | .unwrapExtMemory => some (bridgeInUnmap "hKernelMemInfo")
  | _ => none

/-- Number of leading fields a handler reads: of the unmap family only the
flags and the memory handle, of the others the whole structure. -/
def handlerReads (ui32BridgeID : BridgeId) (type : CType) : Nat :=
  match ui32BridgeID with
  | .unmapDevMemory | .unmapDeviceClassMemory | .unwrapExtMemory => 2
  | _ => type.leafCount

/-- The fields the handler of a bridge reads, as moves from the packed to the
kernel structure. -/
def handlerFields (ui32BridgeID : BridgeId) : List Move :=
  match bridgeInType ui32BridgeID with
  | none => []
  | some type => (expandedFields type).take (handlerReads ui32BridgeID type)

/-- Every field the handler reads has the zero-extended value that the caller
wrote. -/
def FieldsExpanded
    (ui32BridgeID : BridgeId) (packed expanded : Memory) : Prop :=
  ∀ field ∈ handlerFields ui32BridgeID,
    readLE expanded field.targetWidth field.target =
      readLE packed field.sourceWidth field.source

/-- The IN string of a table entry describes, word by word, the fields its
handler reads. -/
def LayoutDescribes (entry : PvrCompatLayout) : Prop :=
  match entry.pszIn with
  | none => handlerFields entry.ui32BridgeID = []
  | some psz => layoutStage true psz = handlerFields entry.ui32BridgeID

instance (entry : PvrCompatLayout) : Decidable (LayoutDescribes entry) := by
  unfold LayoutDescribes
  split <;> infer_instance

variable {entry : PvrCompatLayout}

section

variable (member : entry ∈ gasPVRCompatLayouts)
include member

/-- No bridge is listed twice, so that the search finds the entry itself. -/
theorem pvrCompatFindLayout_eq_some :
    pvrCompatFindLayout entry.ui32BridgeID = some entry := by
  revert entry
  decide +kernel

/-- Only the entry of `CHG_DEV_MEM_ATTRIBS` departs from its structure. -/
theorem layoutDescribes_iff :
    LayoutDescribes entry ↔ entry.ui32BridgeID ≠ .chgDevMemAttribs := by
  revert entry
  decide +kernel

/-- The expansion of a table bridge is the stage of its layout string. -/
theorem pvrCompatExpandIn_table
    (memory : Memory) :
    pvrCompatExpandIn entry.ui32BridgeID memory =
      match entry.pszIn with
      | none => memory
      | some psz => runStage (layoutStage true psz) memory := by
  rw [pvrCompatExpandIn, pvrCompatLayoutRepack,
    pvrCompatFindLayout_eq_some member]
  rfl

end

/-- A field of the layout never shrinks when expanded. -/
theorem layoutStage_widens
    {psz : List Char}
    {field : Move}
    (member : field ∈ layoutStage true psz) :
    field.sourceWidth ≤ field.targetWidth := by
  obtain ⟨word, _, rfl⟩ := List.mem_map.mp member
  cases handle : word.bHandle <;>
    simp [LayoutField.expandMove, LayoutField.width64, handle]

/-- A string that describes the structure expands all of its fields. -/
theorem fieldsExpanded_of_layoutDescribes
    (member : entry ∈ gasPVRCompatLayouts)
    (describes : LayoutDescribes entry)
    (memory : Memory) :
    FieldsExpanded entry.ui32BridgeID memory
      (pvrCompatExpandIn entry.ui32BridgeID memory) := by
  intro field fieldMember
  rw [pvrCompatExpandIn_table member]
  unfold LayoutDescribes at describes
  cases string : entry.pszIn with
  | none =>
    rw [string] at describes
    simp only at describes
    rw [describes] at fieldMember
    cases fieldMember
  | some psz =>
    rw [string] at describes
    simp only at describes
    rw [← describes] at fieldMember
    exact readLE_widened
      (performs_runStage (layoutStage_targetsApart true psz)) memory
      (Or.inl fieldMember) (layoutStage_widens fieldMember)

/-- Packed `CHG_DEV_MEM_ATTRIBS` input of memory handle 1 and attributes 2. -/
def chgDevMemAttribsIn : Memory :=
  writeLE (writeLE (fun _ => 0) 4 0 1) 4 4 2

/-- The kernel structure of `CHG_DEV_MEM_ATTRIBS` has no 64-bit handle: the
upper half of the widened handle lands on `ui32Attribs`. -/
theorem chgDevMemAttribs_attribs_lost :
    ¬ FieldsExpanded .chgDevMemAttribs chgDevMemAttribsIn
      (pvrCompatExpandIn .chgDevMemAttribs chgDevMemAttribsIn) := by
  intro expanded
  have attribs := expanded
    { source := 4, sourceWidth := 4, target := 4, targetWidth := 4 }
    (by decide +kernel)
  revert attribs
  decide +kernel

/-- The table expands every field of every declared IN structure, except
where its string claims a handle that the structure does not have. -/
theorem gasPVRCompatLayouts_expand_iff
    (entry : PvrCompatLayout)
    (member : entry ∈ gasPVRCompatLayouts) :
    (LayoutDescribes entry ↔ entry.ui32BridgeID ≠ .chgDevMemAttribs) ∧
      ((∀ memory, FieldsExpanded entry.ui32BridgeID memory
          (pvrCompatExpandIn entry.ui32BridgeID memory)) ↔
        entry.ui32BridgeID ≠ .chgDevMemAttribs) := by
  refine ⟨layoutDescribes_iff member, ?_, ?_⟩
  · intro expands isChange
    rw [isChange] at expands
    exact chgDevMemAttribs_attribs_lost (expands chgDevMemAttribsIn)
  · intro isOther memory
    exact fieldsExpanded_of_layoutDescribes member
      ((layoutDescribes_iff member).mpr isOther) memory

theorem gasPVRCompatLayouts_expand_iff_swapDispClassToBuffer :
    FieldsExpanded .swapDispClassToBuffer UInt8.ofNat
      (pvrCompatExpandIn .swapDispClassToBuffer UInt8.ofNat) :=
  (gasPVRCompatLayouts_expand_iff
    ⟨.swapDispClassToBuffer,
      some ['u', 'h', 'h', 'u', 'h', 'u', '1', '2', '8', 'u'], 0,
      some pvrCompatGenericReturn⟩
    (by decide +kernel)).2.mpr (by decide) UInt8.ofNat

/-- Attributes 2 of memory handle 1 reach the kernel structure as 0. -/
theorem chgDevMemAttribs_not_expanded :
    ⟨.chgDevMemAttribs, some ['h', 'u'], 0, some pvrCompatGenericReturn⟩ ∈
        gasPVRCompatLayouts ∧
      readLE chgDevMemAttribsIn 4 4 = 2 ∧
      readLE (pvrCompatExpandIn .chgDevMemAttribs chgDevMemAttribsIn) 4 4 = 0 ∧
      ¬ FieldsExpanded .chgDevMemAttribs chgDevMemAttribsIn
        (pvrCompatExpandIn .chgDevMemAttribs chgDevMemAttribsIn) := by
  refine ⟨by decide +kernel, by decide +kernel, by decide +kernel, ?_⟩
  exact chgDevMemAttribs_attribs_lost

end PvrServices.Compat
