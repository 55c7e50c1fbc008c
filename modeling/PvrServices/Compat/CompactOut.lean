import PvrServices.Compat.ExpandIn

/-!
# Compaction of the OUT structure

The kernel structure is narrowed to the packed structure at the front of the
same buffer.  Elements shrink, so they are walked from the first on; a header
whose source would be overwritten is read first and written last.
-/

namespace PvrServices.Compat

open ByteMemory CLayout

/-! ## Packing helpers -/

/-- `PVRCompatPackClientMemInfo`. -/
def pvrCompatPackClientMemInfo (pbyDst psK : Nat) : Stage := [
  narrowMove psK pbyDst,
  narrowMove (psK + 8) (pbyDst + 4),
  scalarMove (psK + 16) (pbyDst + 8),
  narrowMove (psK + 24) (pbyDst + 12),
  scalarMove (psK + 32) (pbyDst + 16),
  scalarMove (psK + 36) (pbyDst + 20),
  scalarMove (psK + 40) (pbyDst + 24),
  narrowMove (psK + 48) (pbyDst + 28),
  narrowMove (psK + 56) (pbyDst + 32),
  narrowMove (psK + 64) (pbyDst + 36),
  narrowMove (psK + 72) (pbyDst + 40),
  narrowMove (psK + 80) (pbyDst + 44)]

/-- `PVRCompatPackClientSyncInfo`. -/
def pvrCompatPackClientSyncInfo (pbyDst psK : Nat) : Stage := [
  narrowMove psK pbyDst,
  scalarMove (psK + 8) (pbyDst + 4),
  scalarMove (psK + 12) (pbyDst + 8),
  narrowMove (psK + 16) (pbyDst + 12),
  narrowMove (psK + 24) (pbyDst + 16)]

/-- `PVRCompatPackHeapInfo`. -/
def pvrCompatPackHeapInfo (pbyDst psH : Nat) : Stage := [
  scalarMove psH pbyDst,
  narrowMove (psH + 8) (pbyDst + 4),
  scalarMove (psH + 16) (pbyDst + 8),
  scalarMove (psH + 20) (pbyDst + 12),
  scalarMove (psH + 24) (pbyDst + 16),
  scalarMove (psH + 28) (pbyDst + 20)]

/-- The loop over an array of heap infos. -/
def packHeapInfos (pbyDst psH : Nat) : List Stage :=
  (List.range pvrsrvMaxClientHeaps).map fun i =>
    pvrCompatPackHeapInfo (pbyDst + i * 24) (psH + i * 32)

/-- `PVRSRV_DEVICE_IDENTIFIER`; the two dump names are cleared. -/
def packDeviceIdentifier (pui32Dst psId : Nat) : Stage := [
  scalarMove psId pui32Dst,
  scalarMove (psId + 4) (pui32Dst + 4),
  scalarMove (psId + 8) (pui32Dst + 8),
  Move.clear (pui32Dst + 12) 4,
  Move.clear (pui32Dst + 16) 4]

/-! ## Dispatch -/

/-- The branches of `PVRCompatCompactOut` after the table. -/
def compactBranch : BridgeId → Relocation
  | .connectServices | .acquireDeviceInfo | .openDispClassDevice
  | .getDispClassSysBuffer
  -- the bridges that answer with `PVRSRV_BRIDGE_RETURN`
  | .initSrvConnect | .initSrvDisconnect | .disconnectServices
  | .freeDeviceMem | .sgxGetMiscInfo | .sgxReleaseClientInfo
  | .destroyDevMemContext | .eventObjectWait | .eventObjectClose
  | .syncOpsFlushToToken | .closeDispClassDevice | .sgxDoKick
  | .sgxSubmitTransfer => .ofStages [[scalarMove 0 0, narrowMove 8 4]]
  | .enumDevices =>
    .ofStages ((List.range pvrsrvMaxDevices).map fun i =>
      packDeviceIdentifier (8 + i * 20) (8 + i * 32))
  | .sgxInfoForSrvInit =>
    .ofStages ([scalarMove 0 0, narrowMove 8 4] :: packHeapInfos 8 16)
  | .allocDeviceMem =>
    { deferred := [scalarMove 0 0, narrowMove 8 4]
      stages := [pvrCompatPackClientMemInfo 8 16,
        pvrCompatPackClientSyncInfo (8 + 48) 104] }
  | .createDevMemContext =>
    { deferred := [scalarMove 0 0, narrowMove 8 4, scalarMove 16 8]
      stages := packHeapInfos 12 24 }
  | .getDevMemHeapInfo =>
    { deferred := [scalarMove 0 0, scalarMove 4 4]
      stages := packHeapInfos 8 8 }
  | .sgxGetClientInfo =>
    .ofStages [[scalarMove 0 0, narrowMove 8 4, Move.clear 8 136,
      { source := 208, sourceWidth := 96, target := 144, targetWidth := 96 },
      scalarMove 304 240]]
  | .getMiscInfo => .ofStages (miscInfoStages 4 8 false)
  | .eventObjectOpen => .ofStages [[narrowMove 0 0, scalarMove 8 4]]
  | .sgxGetInternalDevInfo =>
    .ofStages [[scalarMove 0 0, narrowMove 8 4, scalarMove 16 8,
      scalarMove 24 12]]
  | .sgxRegisterHwTransferContext | .sgxRegisterHwRenderContext
  | .createDispClassSwapChain =>
    .ofStages [[scalarMove 0 0, narrowMove 8 4, scalarMove 16 8]]
  | .getDispClassBuffers =>
    { deferred := [scalarMove 0 0, scalarMove 4 4]
      stages := (List.range pvrsrvMaxDcSwapchainBuffers).map fun i =>
        [narrowMove (8 + i * 8) (8 + i * 4)] }
  | .wrapExtMemory =>
    { deferred := [scalarMove 0 0]
      stages := [pvrCompatPackClientMemInfo 4 8,
        pvrCompatPackClientSyncInfo (4 + 48) 96] }
  | _ => .ofStages []

/-- `PVRCompatCompactOut`. -/
def pvrCompatCompactOut (ui32BridgeID : BridgeId) (pvBridgeOut : Memory) :
    Memory :=
  match pvrCompatLayoutRepack ui32BridgeID false pvBridgeOut with
  | some repacked => repacked
  | none => (compactBranch ui32BridgeID).run pvBridgeOut

/-- `PVRCompatBridge`: the IN and OUT sizes of a 32-bit caller, where the
given kernel sizes are not replaced; `none` for a bridge without translation. -/
def pvrCompatBridge
    (ui32BridgeID : BridgeId) (compatIn compatOut : Nat) :
    Option (Nat × Nat) :=
  match pvrCompatLayoutSizes ui32BridgeID compatIn compatOut with
  | some sizes => some sizes
  | none =>
    match ui32BridgeID with
    | .connectServices => some (8, 2 * 4)
    | .acquireDeviceInfo => some (12, 2 * 4)
    | .enumDevices => some (compatIn, 2 * 4 + pvrsrvMaxDevices * (5 * 4))
    | .initSrvConnect | .initSrvDisconnect | .disconnectServices =>
      some (compatIn, 2 * 4)
    | .sgxInfoForSrvInit =>
      some (2 * 4, 2 * 4 + pvrsrvMaxClientHeaps * (6 * 4))
    | .allocDeviceMem => some (6 * 4, 2 * 4 + 48 + 20)
    | .mHandleToMMapData | .releaseMMapData => some (2 * 4, compatOut)
    | .freeDeviceMem => some (3 * 4 + 48, 2 * 4)
    | .sgxDevInitPart2 => some (2068, 2 * 4)
    | .sgxGetMiscInfo => some (3 * 4, 2 * 4)
    | .createDevMemContext =>
      some (2 * 4, 3 * 4 + pvrsrvMaxClientHeaps * (6 * 4))
    | .getDevMemHeapInfo =>
      some (3 * 4, 2 * 4 + pvrsrvMaxClientHeaps * (6 * 4))
    | .sgxGetClientInfo => some (2 * 4, 2 * 4 + 136 + sgxMaxDevData * 4 + 4)
    | .sgxReleaseClientInfo =>
      some (2 * 4 + (2 * 4 + 136 + sgxMaxDevData * 4), 2 * 4)
    | .getMiscInfo => some (4 + 136, 4 + 136)
    | .destroyDevMemContext => some (3 * 4, 2 * 4)
    | .eventObjectWait => some (2 * 4, 2 * 4)
    | .eventObjectOpen => some (56, 2 * 4)
    | .eventObjectClose => some (56 + 4, 2 * 4)
    | .sgxGetInternalDevInfo => some (2 * 4, 4 * 4)
    | .syncOpsTakeToken => some (2 * 4, compatOut)
    | .sgxRegisterHwTransferContext | .sgxRegisterHwRenderContext =>
      some (6 * 4, 3 * 4)
    | .syncOpsFlushToToken => some (4 * 4, 2 * 4)
    | .openDispClassDevice => some (3 * 4, 2 * 4)
    | .closeDispClassDevice => some (2 * 4, 2 * 4)
    | .enumDispClassFormats => some (2 * 4, 2 * 4 + 10 * 4)
    | .enumDispClassDims => some (3 * 4, 2 * 4 + 10 * 12)
    | .getDispClassSysBuffer => some (2 * 4, 2 * 4)
    | .getDispClassInfo => some (2 * 4, 4 + 76)
    | .createDispClassSwapChain => some (14 * 4, 3 * 4)
    | .getDispClassBuffers => some (3 * 4, 2 * 4 + 9 * 4)
    | .wrapExtMemory => some (10 * 4, 4 + 48 + 20)
    | .sgxDoKick => some (564, 2 * 4)
    | .sgxSubmitTransfer => some (88, 2 * 4)
    | _ => none

/-! ## Declared OUT structures -/

/-- Every bridge whose OUT is compacted, with its kernel structure. -/
def compactedOuts : List (BridgeId × CType) := [
  (.sgxFlushHwRenderTarget, pvrsrvBridgeReturn),
  (.sgxUnregisterHwRenderContext, pvrsrvBridgeReturn),
  (.sgxUnregisterHwTransferContext, pvrsrvBridgeReturn),
  (.sgxScheduleProcessQueues, pvrsrvBridgeReturn),
  (.destroyDispClassSwapChain, pvrsrvBridgeReturn),
  (.swapDispClassToSystem, pvrsrvBridgeReturn),
  (.swapDispClassToBuffer, pvrsrvBridgeReturn),
  (.closeBufferClassDevice, pvrsrvBridgeReturn),
  (.allocSyncInfo, bridgeOutHandle "hKernelSyncInfo"),
  (.freeSyncInfo, pvrsrvBridgeReturn),
  (.createSyncInfoModObj, bridgeOutHandle "hKernelSyncInfoModObj"),
  (.destroySyncInfoModObj, pvrsrvBridgeReturn),
  (.modifyPendingSyncOps, bridgeOutModifyPendingSyncOps),
  (.modifyCompleteSyncOps, pvrsrvBridgeReturn),
  (.syncOpsFlushToModObj, pvrsrvBridgeReturn),
  (.syncOpsFlushToDelta, pvrsrvBridgeReturn),
  (.chgDevMemAttribs, pvrsrvBridgeReturn),
  (.unmapDevMemory, pvrsrvBridgeReturn),
  (.unmapDeviceClassMemory, pvrsrvBridgeReturn),
  (.unwrapExtMemory, pvrsrvBridgeReturn),
  (.connectServices, bridgeOutHandle "hKernelServices"),
  (.acquireDeviceInfo, bridgeOutHandle "hDevCookie"),
  (.enumDevices, bridgeOutEnumDevice),
  (.initSrvConnect, pvrsrvBridgeReturn),
  (.initSrvDisconnect, pvrsrvBridgeReturn),
  (.disconnectServices, pvrsrvBridgeReturn),
  (.freeDeviceMem, pvrsrvBridgeReturn),
  (.sgxGetMiscInfo, pvrsrvBridgeReturn),
  (.sgxReleaseClientInfo, pvrsrvBridgeReturn),
  (.destroyDevMemContext, pvrsrvBridgeReturn),
  (.eventObjectWait, pvrsrvBridgeReturn),
  (.eventObjectClose, pvrsrvBridgeReturn),
  (.syncOpsFlushToToken, pvrsrvBridgeReturn),
  (.closeDispClassDevice, pvrsrvBridgeReturn),
  (.sgxDoKick, pvrsrvBridgeReturn),
  (.sgxSubmitTransfer, pvrsrvBridgeReturn),
  (.sgxInfoForSrvInit, bridgeOutSgxInfoForSrvInit),
  (.allocDeviceMem, bridgeOutAllocDeviceMem),
  (.createDevMemContext, bridgeOutCreateDevMemContext),
  (.getDevMemHeapInfo, bridgeOutGetDevMemHeapInfo),
  (.sgxGetClientInfo, bridgeOutGetClientInfo),
  (.getMiscInfo, bridgeOutGetMiscInfo),
  (.eventObjectOpen, bridgeOutEventObjectOpen),
  (.sgxGetInternalDevInfo, bridgeOutGetInternalDevInfo),
  (.sgxRegisterHwTransferContext,
    bridgeOutRegister "hHWTransferContext" "sHWTransferContextDevVAddr"),
  (.sgxRegisterHwRenderContext,
    bridgeOutRegister "hHWRenderContext" "sHWRenderContextDevVAddr"),
  (.openDispClassDevice, bridgeOutHandle "hDeviceKM"),
  (.getDispClassSysBuffer, bridgeOutHandle "hBuffer"),
  (.createDispClassSwapChain, bridgeOutCreateDispClassSwapChain),
  (.getDispClassBuffers, bridgeOutGetDispClassBuffers),
  (.wrapExtMemory, bridgeOutWrapExtMemory)]

/-- Kernel fields, by offset, whose packed image is zero: the dump names of
the device identifiers and the unused `sMiscInfo` of the client info. -/
def clearedOut (ui32BridgeID : BridgeId) (offset : Nat) : Bool :=
  match ui32BridgeID with
  | .enumDevices => decide (8 ≤ offset ∧ 16 ≤ (offset - 8) % 32)
  | .sgxGetClientInfo => decide (16 ≤ offset ∧ offset < 208)
  | _ => false

/-- Value of a field in the packed image: its low bytes, or zero. -/
def packedImage
    (ui32BridgeID : BridgeId) (kernel : Memory) (pair : Leaf × Leaf) : Nat :=
  if clearedOut ui32BridgeID pair.1.offset then 0
  else readLE kernel pair.1.size pair.1.offset % 256 ^ pair.2.size

/-- The front of `packed` is the packed image of the structure in `kernel`. -/
def IsPackedImage
    (ui32BridgeID : BridgeId) (type : CType) (kernel packed : Memory) :
    Prop :=
  ∀ pair ∈ type.fieldPairs x86_64 i686,
    readLE packed pair.2.size pair.2.offset =
      packedImage ui32BridgeID kernel pair

/-! ## Correctness -/

/-- The relocation a bridge undergoes, from the table or from its branch. -/
def compactRelocation (ui32BridgeID : BridgeId) : Relocation :=
  match pvrCompatFindLayout ui32BridgeID with
  | some layout =>
    match layout.pszOut with
    | none => .ofStages []
    | some psz => .ofStages [layoutStage false psz]
  | none => compactBranch ui32BridgeID

theorem pvrCompatCompactOut_eq_run
    (ui32BridgeID : BridgeId)
    (memory : Memory) :
    pvrCompatCompactOut ui32BridgeID memory =
      (compactRelocation ui32BridgeID).run memory := by
  unfold pvrCompatCompactOut pvrCompatLayoutRepack compactRelocation
  cases found : pvrCompatFindLayout ui32BridgeID with
  | none => rfl
  | some layout =>
    cases string : layout.pszOut with
    | none | some psz => simp [string, Relocation.ofStages, Relocation.run]

/-- The wanted moves of a structure, cleared fields being moves of nothing. -/
def compactedFields (ui32BridgeID : BridgeId) (type : CType) : List Move :=
  (type.fieldPairs x86_64 i686).map fun pair =>
    if clearedOut ui32BridgeID pair.1.offset then
      Move.clear pair.2.offset pair.2.size
    else
      fieldMove pair

/-- What is checked of one bridge: its relocation only moves downwards, it
covers the declared fields, and the declared size is the packed size. -/
def compactsDown (ui32BridgeID : BridgeId) (type : CType) : Prop :=
  movesDown 0 ((compactRelocation ui32BridgeID).deferred ::
      (compactRelocation ui32BridgeID).stages) = true ∧
    (compactedFields ui32BridgeID type =
        (compactRelocation ui32BridgeID).moves ∨
      ∀ field ∈ compactedFields ui32BridgeID type,
        field.CoveredBy (compactRelocation ui32BridgeID).moves ∨
          field.KeptBy (compactRelocation ui32BridgeID).moves) ∧
    (pvrCompatBridge ui32BridgeID 0 0).map Prod.snd = some (type.sizeOf i686)

instance (ui32BridgeID : BridgeId) (type : CType) :
    Decidable (compactsDown ui32BridgeID type) :=
  inferInstanceAs (Decidable (_ ∧ _ ∧ _))

theorem compactedOuts_compactsDown :
    ∀ out ∈ compactedOuts, compactsDown out.1 out.2 := by
  decide +kernel

variable {out : BridgeId × CType} {ui32BridgeID : BridgeId}

section

variable (member : out ∈ compactedOuts)
include member

theorem compactRelocation_safe :
    (compactRelocation out.1).Safe :=
  Relocation.safe_of_movesDown (compactedOuts_compactsDown out member).1

/-- The compaction of a listed bridge moves or keeps every declared field. -/
theorem readLE_compactedField
    (memory : Memory)
    {field : Move}
    (fieldMember : field ∈ compactedFields out.1 out.2) :
    readLE (pvrCompatCompactOut out.1 memory)
        field.targetWidth field.target =
      readLE memory field.sourceWidth field.source %
        256 ^ field.targetWidth := by
  have performs := Relocation.performs (compactRelocation_safe member)
  rw [pvrCompatCompactOut_eq_run]
  rcases (compactedOuts_compactsDown out member).2.1 with same | covered
  · rw [same] at fieldMember
    exact performs.readLE_field memory (Or.inl fieldMember)
  · rcases covered field fieldMember with carried | kept
    · exact performs.readLE_field memory carried
    · exact performs.readLE_kept memory kept

theorem isPackedImage_compactOut
    (memory : Memory) :
    IsPackedImage out.1 out.2 memory (pvrCompatCompactOut out.1 memory) := by
  intro pair pairMember
  have moved := readLE_compactedField member memory
    (List.mem_map_of_mem pairMember)
  unfold packedImage
  split_ifs at moved ⊢ with cleared
  · simpa [Move.clear] using moved
  · exact moved

end

/-- Bridges that are not listed are answered as the kernel left them. -/
theorem pvrCompatCompactOut_unlisted
    (unlisted : ui32BridgeID ∉ compactedOuts.map Prod.fst)
    (memory : Memory) :
    pvrCompatCompactOut ui32BridgeID memory = memory := by
  cases ui32BridgeID <;>
    first | rfl | exact absurd (by decide) unlisted

/-- Bytes of a packed structure that belong to no field: the event object of
a misc info ends its 50-byte name two bytes before its handle. -/
def packedPadding : BridgeId → Nat
  | .getMiscInfo | .sgxGetClientInfo => 2
  | _ => 0

/-- The fields of a packed structure fill it up to the padding. -/
theorem compactedOuts_filled :
    ∀ out ∈ compactedOuts,
      ((out.2.leaves i686 0).map Leaf.size).sum + packedPadding out.1 =
        out.2.sizeOf i686 := by
  decide +kernel

/-- The kernel structure of a compacted bridge. -/
def compactedOutType (ui32BridgeID : BridgeId) : Option CType :=
  (compactedOuts.find? fun out => decide (out.1 = ui32BridgeID)).map Prod.snd

/-- The declared OUT size of a compacted bridge does not depend on the kernel
sizes that `PVRCompatBridge` is given. -/
theorem pvrCompatBridge_out_const
    (listed : ui32BridgeID ∈ compactedOuts.map Prod.fst)
    (compatIn compatOut : Nat) :
    (pvrCompatBridge ui32BridgeID compatIn compatOut).map Prod.snd =
      (pvrCompatBridge ui32BridgeID 0 0).map Prod.snd := by
  cases ui32BridgeID <;>
    first | rfl | exact absurd listed (by decide)

/-- For every bridge that `PVRCompatCompactOut` handles, the buffer starts
with the packed image of the kernel structure, whose size is the one that
`PVRCompatBridge` declares and whose fields fill it; every other bridge is
left alone. -/
theorem pvrCompatCompactOut_image
    (ui32BridgeID : BridgeId)
    (memory : Memory)
    (compatIn compatOut : Nat) :
    match compactedOutType ui32BridgeID with
    | none => pvrCompatCompactOut ui32BridgeID memory = memory
    | some type =>
      (pvrCompatBridge ui32BridgeID compatIn compatOut).map Prod.snd =
          some (type.sizeOf i686) ∧
        ((type.leaves i686 0).map Leaf.size).sum +
            packedPadding ui32BridgeID =
          type.sizeOf i686 ∧
        IsPackedImage ui32BridgeID type memory
          (pvrCompatCompactOut ui32BridgeID memory) := by
  unfold compactedOutType
  cases found : compactedOuts.find? fun out =>
      decide (out.1 = ui32BridgeID) with
  | none =>
    apply pvrCompatCompactOut_unlisted
    intro listed
    obtain ⟨out, member, isBridge⟩ := List.mem_map.mp listed
    have absent := List.find?_eq_none.mp found out member
    simp [isBridge] at absent
  | some out =>
    have member := List.mem_of_find?_eq_some found
    have isBridge : out.1 = ui32BridgeID := by
      simpa using List.find?_some found
    subst isBridge
    refine ⟨?_, compactedOuts_filled out member,
      isPackedImage_compactOut member memory⟩
    rw [pvrCompatBridge_out_const (List.mem_map_of_mem member)]
    exact (compactedOuts_compactsDown out member).2.2

end PvrServices.Compat
