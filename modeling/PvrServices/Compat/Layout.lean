import PvrServices.Compat.Structs

/-!
# Table-driven translation

Most bridges carry a flat run of 32-bit scalars and handles.  A layout string
describes such a run once for both ABIs; the walk over it computes the packed
32-bit offset and the naturally aligned 64-bit offset of every word, and the
repacking moves all words from one set of offsets to the other.
-/

namespace PvrServices.Compat

open ByteMemory CLayout

/-- Bridges that the translation for 32-bit callers knows, and every other
identifier. -/
inductive BridgeId where
  -- the bridges of `gasPVRCompatLayouts`
  | sgxFlushHwRenderTarget
  | sgxUnregisterHwRenderContext
  | sgxUnregisterHwTransferContext
  | sgxScheduleProcessQueues
  | destroyDispClassSwapChain
  | swapDispClassToSystem
  | swapDispClassToBuffer
  | closeBufferClassDevice
  | allocSyncInfo
  | freeSyncInfo
  | createSyncInfoModObj
  | destroySyncInfoModObj
  | modifyPendingSyncOps
  | modifyCompleteSyncOps
  | syncOpsFlushToModObj
  | syncOpsFlushToDelta
  | chgDevMemAttribs
  | unmapDevMemory
  | unmapDeviceClassMemory
  | unwrapExtMemory
  -- the bridges that `PVRCompatBridge` names one by one
  | connectServices
  | acquireDeviceInfo
  | enumDevices
  | initSrvConnect
  | initSrvDisconnect
  | disconnectServices
  | sgxInfoForSrvInit
  | allocDeviceMem
  | mHandleToMMapData
  | releaseMMapData
  | freeDeviceMem
  | sgxDevInitPart2
  | sgxGetMiscInfo
  | createDevMemContext
  | getDevMemHeapInfo
  | sgxGetClientInfo
  | sgxReleaseClientInfo
  | getMiscInfo
  | destroyDevMemContext
  | eventObjectWait
  | eventObjectOpen
  | eventObjectClose
  | sgxGetInternalDevInfo
  | syncOpsTakeToken
  | sgxRegisterHwTransferContext
  | sgxRegisterHwRenderContext
  | syncOpsFlushToToken
  | openDispClassDevice
  | closeDispClassDevice
  | enumDispClassFormats
  | enumDispClassDims
  | getDispClassSysBuffer
  | getDispClassInfo
  | createDispClassSwapChain
  | getDispClassBuffers
  | wrapExtMemory
  | sgxDoKick
  | sgxSubmitTransfer
  | other (ui32BridgeID : Nat)
deriving DecidableEq, Repr

/-! ## Walking a layout string -/

/-- `PVR_COMPAT_MAX_WORDS`. -/
abbrev pvrCompatMaxWords : Nat := 160

/-- One word of a layout: its offset in the packed and in the kernel
structure, and whether it is a handle. -/
structure LayoutField where
  off32 : Nat
  off64 : Nat
  bHandle : Bool
deriving DecidableEq, Repr

/-- Width of a word in the kernel structure. -/
def LayoutField.width64 (field : LayoutField) : Nat :=
  if field.bHandle then 8 else 4

/-- Progress of `PVRCompatLayoutFields`: the words placed so far and the
running offsets. -/
structure LayoutWalk where
  fields : List LayoutField
  o32 : Nat
  o64 : Nat
  ui32Align : Nat
deriving DecidableEq, Repr

/-- Place one word. -/
def LayoutWalk.push (walk : LayoutWalk) (bHandle : Bool) : LayoutWalk :=
  let o64 := if bHandle then alignUp walk.o64 8 else walk.o64
  { fields := walk.fields ++ [{ off32 := walk.o32, off64 := o64, bHandle }]
    o32 := walk.o32 + 4
    o64 := o64 + if bHandle then 8 else 4
    ui32Align := if bHandle then 8 else walk.ui32Align }

/-- Place `ui32Rep` words as long as the scratch arrays have room. -/
def LayoutWalk.pushRepeated (walk : LayoutWalk) (bHandle : Bool) :
    Nat → LayoutWalk
  | 0 => walk
  | ui32Rep + 1 =>
    if walk.fields.length < pvrCompatMaxWords then
      (walk.push bHandle).pushRepeated bHandle ui32Rep
    else
      walk

/-- Walk the rest of a layout string, `ui32Rep` being the repeat count read so
far for the next letter. -/
def LayoutWalk.run (walk : LayoutWalk) (ui32Rep : Nat) :
    List Char → LayoutWalk
  | [] => walk
  | letter :: rest =>
    if '0' ≤ letter ∧ letter ≤ '9' then
      walk.run ((ui32Rep * 10 + (letter.toNat - '0'.toNat)) % 2 ^ 32) rest
    else
      (walk.pushRepeated (letter == 'h')
        (if ui32Rep = 0 then 1 else ui32Rep)).run 0 rest

/-- `PVRCompatLayoutFields`. -/
def pvrCompatLayoutFields (psz : List Char) : LayoutWalk :=
  LayoutWalk.run { fields := [], o32 := 0, o64 := 0, ui32Align := 4 } 0 psz

/-- `*pui32Size32`. -/
def LayoutWalk.size32 (walk : LayoutWalk) : Nat := walk.o32

/-- `*pui32Size64`. -/
def LayoutWalk.size64 (walk : LayoutWalk) : Nat :=
  alignUp walk.o64 walk.ui32Align

/-! ## The table -/

/-- `PVR_COMPAT_LAYOUT`. -/
structure PvrCompatLayout where
  ui32BridgeID : BridgeId
  pszIn : Option (List Char)
  ui32InSize : Nat
  pszOut : Option (List Char)
deriving DecidableEq, Repr

/-- `PVR_COMPAT_GENERIC_RETURN`. -/
def pvrCompatGenericReturn : List Char := ['u', 'h']

/-- `gasPVRCompatLayouts`. -/
def gasPVRCompatLayouts : List PvrCompatLayout := [
  ⟨.sgxFlushHwRenderTarget, some ['u', 'h', 'u'], 0,
    some pvrCompatGenericReturn⟩,
  ⟨.sgxUnregisterHwRenderContext, some ['u', 'u', 'h', 'h'], 0,
    some pvrCompatGenericReturn⟩,
  ⟨.sgxUnregisterHwTransferContext, some ['u', 'u', 'h', 'h'], 0,
    some pvrCompatGenericReturn⟩,
  ⟨.sgxScheduleProcessQueues, some ['u', 'h'], 0, some pvrCompatGenericReturn⟩,
  ⟨.destroyDispClassSwapChain, some ['u', 'h', 'h'], 0,
    some pvrCompatGenericReturn⟩,
  ⟨.swapDispClassToSystem, some ['u', 'h', 'h'], 0,
    some pvrCompatGenericReturn⟩,
  ⟨.swapDispClassToBuffer,
    some ['u', 'h', 'h', 'u', 'h', 'u', '1', '2', '8', 'u'], 0,
    some pvrCompatGenericReturn⟩,
  ⟨.closeBufferClassDevice, some ['u', 'h'], 0, some pvrCompatGenericReturn⟩,
  ⟨.allocSyncInfo, some ['u', 'h'], 0, some ['u', 'h']⟩,
  ⟨.freeSyncInfo, some ['u', 'h'], 0, some pvrCompatGenericReturn⟩,
  ⟨.createSyncInfoModObj, none, 0, some ['u', 'h']⟩,
  ⟨.destroySyncInfoModObj, some ['u', 'h'], 0, some pvrCompatGenericReturn⟩,
  ⟨.modifyPendingSyncOps, some ['u', 'h', 'h', 'u'], 0, some ['u', 'u', 'u']⟩,
  ⟨.modifyCompleteSyncOps, some ['u', 'h'], 0, some pvrCompatGenericReturn⟩,
  ⟨.syncOpsFlushToModObj, some ['u', 'h'], 0, some pvrCompatGenericReturn⟩,
  ⟨.syncOpsFlushToDelta, some ['u', 'h', 'u'], 0, some pvrCompatGenericReturn⟩,
  ⟨.chgDevMemAttribs, some ['h', 'u'], 0, some pvrCompatGenericReturn⟩,
  ⟨.unmapDevMemory, some ['u', 'h'], 76, some pvrCompatGenericReturn⟩,
  ⟨.unmapDeviceClassMemory, some ['u', 'h'], 76, some pvrCompatGenericReturn⟩,
  ⟨.unwrapExtMemory, some ['u', 'h'], 76, some pvrCompatGenericReturn⟩]

/-- `PVRCompatFindLayout`. -/
def pvrCompatFindLayout (ui32BridgeID : BridgeId) : Option PvrCompatLayout :=
  gasPVRCompatLayouts.find? fun layout =>
    decide (layout.ui32BridgeID = ui32BridgeID)

/-- `PVRCompatLayoutSizes`: the IN and OUT sizes of a table bridge, the given
kernel sizes where the table has no string. -/
def pvrCompatLayoutSizes
    (ui32BridgeID : BridgeId) (compatIn compatOut : Nat) :
    Option (Nat × Nat) :=
  (pvrCompatFindLayout ui32BridgeID).map fun layout =>
    (match layout.pszIn with
      | none => compatIn
      | some psz =>
        if layout.ui32InSize ≠ 0 then layout.ui32InSize
        else (pvrCompatLayoutFields psz).size32,
     match layout.pszOut with
      | none => compatOut
      | some psz => (pvrCompatLayoutFields psz).size32)

/-! ## Repacking -/

/-- Move of a word from the packed to the kernel structure. -/
def LayoutField.expandMove (field : LayoutField) : Move :=
  { source := field.off32
    sourceWidth := 4
    target := field.off64
    targetWidth := field.width64 }

/-- Move of a word from the kernel to the packed structure. -/
def LayoutField.compactMove (field : LayoutField) : Move :=
  { source := field.off64
    sourceWidth := field.width64
    target := field.off32
    targetWidth := 4 }

/-- The moves of one layout string.  Every word is read into `aui64Val` before
any word is written, so they form one stage. -/
def layoutStage (bExpand : Bool) (psz : List Char) : Stage :=
  (pvrCompatLayoutFields psz).fields.map
    (if bExpand then LayoutField.expandMove else LayoutField.compactMove)

/-- `PVRCompatLayoutRepack`, `none` where the source returns `IMG_FALSE`. -/
def pvrCompatLayoutRepack
    (ui32BridgeID : BridgeId) (bExpand : Bool) (memory : Memory) :
    Option Memory :=
  (pvrCompatFindLayout ui32BridgeID).map fun layout =>
    match (if bExpand then layout.pszIn else layout.pszOut) with
    | none => memory
    | some psz => runStage (layoutStage bExpand psz) memory

/-! ## Placement of the words -/

theorem le_alignUp_eight (offset : Nat) : offset ≤ alignUp offset 8 := by
  unfold alignUp
  omega

/-- The words placed so far ascend in both structures and end below the
running offsets. -/
structure LayoutWalk.Ascending (walk : LayoutWalk) : Prop where
  pairwise : walk.fields.Pairwise fun earlier later =>
    earlier.off32 + 4 ≤ later.off32 ∧
      earlier.off64 + earlier.width64 ≤ later.off64
  bounded : ∀ field ∈ walk.fields,
    field.off32 + 4 ≤ walk.o32 ∧ field.off64 + field.width64 ≤ walk.o64

variable {walk : LayoutWalk}

section

variable (ascending : walk.Ascending)
include ascending

theorem LayoutWalk.Ascending.push
    (bHandle : Bool) :
    (walk.push bHandle).Ascending := by
  have aligned := le_alignUp_eight walk.o64
  constructor
  · simp only [LayoutWalk.push, List.pairwise_append]
    refine ⟨ascending.pairwise, List.pairwise_singleton _ _, ?_⟩
    intro earlier member later laterMember
    rw [List.mem_singleton] at laterMember
    subst laterMember
    have bounds := ascending.bounded earlier member
    cases bHandle <;> simp <;> omega
  · intro field member
    simp only [LayoutWalk.push, List.mem_append, List.mem_singleton] at member
    rcases member with earlier | rfl
    · have bounds := ascending.bounded field earlier
      cases bHandle <;> simp [LayoutWalk.push] <;> omega
    · cases bHandle <;> simp [LayoutWalk.push, LayoutField.width64]

theorem LayoutWalk.Ascending.pushRepeated
    (bHandle : Bool)
    (ui32Rep : Nat) :
    (walk.pushRepeated bHandle ui32Rep).Ascending := by
  induction ui32Rep generalizing walk with
  | zero => exact ascending
  | succ ui32Rep ih =>
    rw [LayoutWalk.pushRepeated]
    split_ifs
    · exact ih (ascending.push bHandle)
    · exact ascending

theorem LayoutWalk.Ascending.run
    (ui32Rep : Nat)
    (psz : List Char) :
    (walk.run ui32Rep psz).Ascending := by
  induction psz generalizing walk ui32Rep with
  | nil => exact ascending
  | cons letter rest ih =>
    rw [LayoutWalk.run]
    split_ifs
    · exact ih ascending _
    · exact ih (ascending.pushRepeated _ _) 0
    · exact ih (ascending.pushRepeated _ _) 0

end

/-- Every layout string places its words in ascending, disjoint order. -/
theorem pvrCompatLayoutFields_ascending (psz : List Char) :
    (pvrCompatLayoutFields psz).Ascending :=
  LayoutWalk.Ascending.run
    { pairwise := List.Pairwise.nil
      bounded := fun _ member => absurd member List.not_mem_nil } 0 psz

/-- The targets of a layout's moves are disjoint in either direction. -/
theorem layoutStage_targetsApart (bExpand : Bool) (psz : List Char) :
    (layoutStage bExpand psz).Pairwise Move.TargetsApart := by
  rw [layoutStage, List.pairwise_map]
  refine (pvrCompatLayoutFields_ascending psz).pairwise.imp ?_
  intro earlier later order
  cases bExpand
  · exact Or.inl order.1
  · exact Or.inl order.2

end PvrServices.Compat
