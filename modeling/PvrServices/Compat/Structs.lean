import PvrServices.Lib.CLayout

/-!
# Bridge structures

The C declarations of the IN and OUT structures of the bridges that 32-bit
callers use, with the members this build compiles in.  Handles and pointers
are one kind of leaf; enumerations and `IMG_BOOL` are 32-bit scalars.
-/

namespace PvrServices.Compat

open CLayout

/-! ## Scalar types -/

/-- `IMG_UINT32`, `IMG_SID`, `IMG_SIZE_T`, `IMG_BOOL` and the enumerations. -/
abbrev imgUint32 : CType := .scalar 4

/-- `IMG_CHAR`. -/
abbrev imgChar : CType := .scalar 1

/-- `IMG_HANDLE` and every object pointer. -/
abbrev imgHandle : CType := .pointer

/-- `IMG_DEV_VIRTADDR`. -/
def imgDevVirtAddr : CType := .struct [("uiAddr", imgUint32)]

/-- `IMG_CPU_PHYADDR` and `IMG_DEV_PHYADDR`: an `IMG_UINTPTR_T` each. -/
def imgPhyAddr : CType := .struct [("uiAddr", .pointer)]

/-- `IMG_RECT`. -/
def imgRect : CType :=
  .struct [("x0", .scalar 4), ("y0", .scalar 4), ("x1", .scalar 4),
    ("y1", .scalar 4)]

/-! ## Array bounds -/

abbrev pvrsrvMaxDevices : Nat := 16
abbrev pvrsrvMaxClientHeaps : Nat := 32
abbrev pvrsrvMaxDcSwapchainBuffers : Nat := 9
abbrev pvrsrvMaxDcClipRects : Nat := 32
abbrev eventObjNameMaxLength : Nat := 50
abbrev sgxMaxDevData : Nat := 24
abbrev sgxMaxInitMemHandles : Nat := 18
abbrev sgxmkifCmdMax : Nat := 11
abbrev sgxMaxTaStatusVals : Nat := 32
abbrev sgxMax3dStatusVals : Nat := 4
abbrev sgxMaxSrcSyncs : Nat := 8
abbrev sgxMaxTransferSyncOps : Nat := 5

/-! ## Structures embedded in the bridge structures -/

/-- `PVRSRV_CLIENT_MEM_INFO`. -/
def pvrsrvClientMemInfo : CType :=
  .struct [
    ("pvLinAddr", imgHandle),
    ("pvLinAddrKM", imgHandle),
    ("sDevVAddr", imgDevVirtAddr),
    ("sCpuPAddr", imgPhyAddr),
    ("ui32Flags", imgUint32),
    ("ui32ClientFlags", imgUint32),
    ("uAllocSize", imgUint32),
    ("psClientSyncInfo", imgHandle),
    ("hMappingInfo", imgHandle),
    ("hKernelMemInfo", imgHandle),
    ("hResItem", imgHandle),
    ("psNext", imgHandle)]

/-- `PVRSRV_CLIENT_SYNC_INFO`. -/
def pvrsrvClientSyncInfo : CType :=
  .struct [
    ("psSyncData", imgHandle),
    ("sWriteOpsCompleteDevVAddr", imgDevVirtAddr),
    ("sReadOpsCompleteDevVAddr", imgDevVirtAddr),
    ("hMappingInfo", imgHandle),
    ("hKernelSyncInfo", imgHandle)]

/-- `PVRSRV_HEAP_INFO`. -/
def pvrsrvHeapInfo : CType :=
  .struct [
    ("ui32HeapID", imgUint32),
    ("hDevMemHeap", imgHandle),
    ("sDevVAddrBase", imgDevVirtAddr),
    ("ui32HeapByteSize", imgUint32),
    ("ui32Attribs", imgUint32),
    ("ui32XTileStride", imgUint32)]

/-- `PVRSRV_DEVICE_IDENTIFIER`. -/
def pvrsrvDeviceIdentifier : CType :=
  .struct [
    ("eDeviceType", imgUint32),
    ("eDeviceClass", imgUint32),
    ("ui32DeviceIndex", imgUint32),
    ("pszPDumpDevName", imgHandle),
    ("pszPDumpRegName", imgHandle)]

/-- `PVRSRV_EVENTOBJECT`. -/
def pvrsrvEventObject : CType :=
  .struct [
    ("szName", .array eventObjNameMaxLength imgChar),
    ("hOSEventKM", imgHandle)]

/-- `PVRSRV_MISC_INFO`. -/
def pvrsrvMiscInfo : CType :=
  .struct [
    ("ui32StateRequest", imgUint32),
    ("ui32StatePresent", imgUint32),
    ("pvSOCTimerRegisterKM", imgHandle),
    ("pvSOCTimerRegisterUM", imgHandle),
    ("hSOCTimerRegisterOSMemHandle", imgHandle),
    ("hSOCTimerRegisterMappingInfo", imgHandle),
    ("pvSOCClockGateRegs", imgHandle),
    ("ui32SOCClockGateRegsSize", imgUint32),
    ("pszMemoryStr", imgHandle),
    ("ui32MemoryStrLen", imgUint32),
    ("sGlobalEventObject", pvrsrvEventObject),
    ("hOSGlobalEvent", imgHandle),
    ("aui32DDKVersion", .array 4 imgUint32),
    ("sCacheOpCtl", .struct [
      ("bDeferOp", imgUint32),
      ("eCacheOpType", imgUint32),
      -- the union of `psClientMemInfo` and `psKernelMemInfo`
      ("u", imgHandle),
      ("pvBaseVAddr", imgHandle),
      ("ui32Length", imgUint32)])]

/-- `SGX_CLIENT_INFO`. -/
def sgxClientInfo : CType :=
  .struct [
    ("ui32ProcessID", imgUint32),
    ("pvProcess", imgHandle),
    ("sMiscInfo", pvrsrvMiscInfo),
    ("asDevData", .array sgxMaxDevData imgUint32)]

/-- `SGX_INTERNAL_DEVINFO`. -/
def sgxInternalDevInfo : CType :=
  .struct [
    ("ui32Flags", imgUint32),
    ("hHostCtlKernelMemInfoHandle", imgHandle),
    ("bForcePTOff", imgUint32)]

/-- `SGX_BRIDGE_INFO_FOR_SRVINIT`. -/
def sgxBridgeInfoForSrvInit : CType :=
  .struct [
    ("sPDDevPAddr", imgPhyAddr),
    ("asHeapInfo", .array pvrsrvMaxClientHeaps pvrsrvHeapInfo)]

/-- `SGX_INIT_COMMAND`, a union whose widest member is `sWriteHWReg`. -/
def sgxInitCommand : CType :=
  .struct [("eOp", imgUint32), ("ui32Offset", imgUint32),
    ("ui32Value", imgUint32)]

/-- `SGX_INIT_SCRIPTS`. -/
def sgxInitScripts : CType :=
  .struct [
    ("asInitCommandsPart1", .array 64 sgxInitCommand),
    ("asInitCommandsPart2", .array 64 sgxInitCommand),
    ("asDeinitCommands", .array 16 sgxInitCommand)]

/-- `SGX_MISCINFO_STRUCT_SIZES`: the sizes of thirteen microkernel
structures. -/
def sgxMiscInfoStructSizes : CType :=
  .struct [
    ("ui32Sizeof_CMDTA", imgUint32),
    ("ui32Sizeof_CMDTA_SHARED", imgUint32),
    ("ui32Sizeof_TRANSFERCMD", imgUint32),
    ("ui32Sizeof_TRANSFERCMD_SHARED", imgUint32),
    ("ui32Sizeof_3DREGISTERS", imgUint32),
    ("ui32Sizeof_HWPBDESC", imgUint32),
    ("ui32Sizeof_HWRENDERCONTEXT", imgUint32),
    ("ui32Sizeof_HWRENDERDETAILS", imgUint32),
    ("ui32Sizeof_HWRTDATA", imgUint32),
    ("ui32Sizeof_HWRTDATASET", imgUint32),
    ("ui32Sizeof_HWTRANSFERCONTEXT", imgUint32),
    ("ui32Sizeof_HOST_CTL", imgUint32),
    ("ui32Sizeof_COMMAND", imgUint32)]

/-- `SGX_BRIDGE_INIT_INFO`. -/
def sgxBridgeInitInfo : CType :=
  .struct [
    ("hKernelCCBMemInfo", imgHandle),
    ("hKernelCCBCtlMemInfo", imgHandle),
    ("hKernelCCBEventKickerMemInfo", imgHandle),
    ("hKernelSGXHostCtlMemInfo", imgHandle),
    ("hKernelSGXTA3DCtlMemInfo", imgHandle),
    ("hKernelSGXMiscMemInfo", imgHandle),
    ("aui32HostKickAddr", .array sgxmkifCmdMax imgUint32),
    ("sScripts", sgxInitScripts),
    ("ui32ClientBuildOptions", imgUint32),
    ("sSGXStructSizes", sgxMiscInfoStructSizes),
    ("hKernelHWPerfCBMemInfo", imgHandle),
    ("hKernelTASigBufferMemInfo", imgHandle),
    ("hKernel3DSigBufferMemInfo", imgHandle),
    ("ui32EDMTaskReg0", imgUint32),
    ("ui32EDMTaskReg1", imgUint32),
    ("ui32ClkGateCtl", imgUint32),
    ("ui32ClkGateCtl2", imgUint32),
    ("ui32ClkGateStatusReg", imgUint32),
    ("ui32ClkGateStatusMask", imgUint32),
    ("ui32CacheControl", imgUint32),
    ("asInitDevData", .array sgxMaxDevData imgUint32),
    ("asInitMemHandles", .array sgxMaxInitMemHandles imgHandle)]

/-- `SGXMKIF_COMMAND`. -/
def sgxmkifCommand : CType :=
  .struct [
    ("ui32ServiceAddress", imgUint32),
    ("ui32CacheControl", imgUint32),
    ("ui32Data", .array 6 imgUint32)]

/-- `SGX_INTERNEL_STATUS_UPDATE`, its `CTL_STATUS` written out. -/
def sgxInternelStatusUpdate : CType :=
  .struct [
    ("sCtlStatus", .struct [
      ("sStatusDevAddr", imgDevVirtAddr),
      ("ui32StatusValue", imgUint32)]),
    ("hKernelMemInfo", imgHandle)]

/-- `SGX_CCB_KICK`. -/
def sgxCcbKick : CType :=
  .struct [
    ("sCommand", sgxmkifCommand),
    ("hCCBKernelMemInfo", imgHandle),
    ("ui32NumDstSyncObjects", imgUint32),
    ("hKernelHWSyncListMemInfo", imgHandle),
    ("pahDstSyncHandles", imgHandle),
    ("ui32NumTAStatusVals", imgUint32),
    ("ui32Num3DStatusVals", imgUint32),
    ("asTAStatusUpdate", .array sgxMaxTaStatusVals sgxInternelStatusUpdate),
    ("as3DStatusUpdate", .array sgxMax3dStatusVals sgxInternelStatusUpdate),
    ("bFirstKickOrResume", imgUint32),
    ("bLastInScene", imgUint32),
    ("ui32CCBOffset", imgUint32),
    ("ui32NumSrcSyncs", imgUint32),
    ("ahSrcKernelSyncInfo", .array sgxMaxSrcSyncs imgHandle),
    ("bTADependency", imgUint32),
    ("hTA3DSyncInfo", imgHandle),
    ("hTASyncInfo", imgHandle),
    ("h3DSyncInfo", imgHandle),
    ("hDevMemContext", imgHandle)]

/-- `PVRSRV_TRANSFER_SGX_KICK`. -/
def pvrsrvTransferSgxKick : CType :=
  .struct [
    ("hCCBMemInfo", imgHandle),
    ("ui32SharedCmdCCBOffset", imgUint32),
    ("sHWTransferContextDevVAddr", imgDevVirtAddr),
    ("hTASyncInfo", imgHandle),
    ("h3DSyncInfo", imgHandle),
    ("ui32NumSrcSync", imgUint32),
    ("ahSrcSyncInfo", .array sgxMaxTransferSyncOps imgHandle),
    ("ui32NumDstSync", imgUint32),
    ("ahDstSyncInfo", .array sgxMaxTransferSyncOps imgHandle),
    ("ui32Flags", imgUint32),
    ("ui32PDumpFlags", imgUint32),
    ("hDevMemContext", imgHandle)]

/-! ## Shapes shared by several bridges -/

/-- `{ui32BridgeFlags; handle}`. -/
def bridgeInHandle (name : String) : CType :=
  .struct [("ui32BridgeFlags", imgUint32), (name, imgHandle)]

/-- `{ui32BridgeFlags; handle; handle}`. -/
def bridgeInHandles (first second : String) : CType :=
  .struct [("ui32BridgeFlags", imgUint32), (first, imgHandle),
    (second, imgHandle)]

/-- `{ui32BridgeFlags; bForceCleanup; hDevCookie; context}`. -/
def bridgeInUnregister (context : String) : CType :=
  .struct [("ui32BridgeFlags", imgUint32), ("bForceCleanup", imgUint32),
    ("hDevCookie", imgHandle), (context, imgHandle)]

/-- `{ui32BridgeFlags; memory handle; client mem info; client sync info}`. -/
def bridgeInUnmap (memory : String) : CType :=
  .struct [("ui32BridgeFlags", imgUint32), (memory, imgHandle),
    ("sClientMemInfo", pvrsrvClientMemInfo),
    ("sClientSyncInfo", pvrsrvClientSyncInfo)]

/-- `{eError; handle}`, also `PVRSRV_BRIDGE_RETURN`. -/
def bridgeOutHandle (name : String) : CType :=
  .struct [("eError", imgUint32), (name, imgHandle)]

/-- `PVRSRV_BRIDGE_RETURN`. -/
def pvrsrvBridgeReturn : CType := bridgeOutHandle "pvData"

/-- `{eError; hardware context; its device address}`. -/
def bridgeOutRegister (context address : String) : CType :=
  .struct [("eError", imgUint32), (context, imgHandle),
    (address, imgDevVirtAddr)]

/-! ## IN structures -/

/-- `PVRSRV_BRIDGE_IN_SGX_FLUSH_HW_RENDER_TARGET`. -/
def bridgeInSgxFlushHwRenderTarget : CType :=
  .struct [("ui32BridgeFlags", imgUint32), ("hDevCookie", imgHandle),
    ("sHWRTDataSetDevVAddr", imgDevVirtAddr)]

/-- `PVRSRV_BRIDGE_IN_SWAP_DISPCLASS_TO_BUFFER`. -/
def bridgeInSwapDispClassToBuffer : CType :=
  .struct [("ui32BridgeFlags", imgUint32), ("hDeviceKM", imgHandle),
    ("hBuffer", imgHandle), ("ui32SwapInterval", imgUint32),
    ("hPrivateTag", imgHandle), ("ui32ClipRectCount", imgUint32),
    ("sClipRect", .array pvrsrvMaxDcClipRects imgRect)]

/-- `PVRSRV_BRIDGE_IN_MODIFY_PENDING_SYNC_OPS`. -/
def bridgeInModifyPendingSyncOps : CType :=
  .struct [("ui32BridgeFlags", imgUint32),
    ("hKernelSyncInfoModObj", imgHandle), ("hKernelSyncInfo", imgHandle),
    ("ui32ModifyFlags", imgUint32)]

/-- `PVRSRV_BRIDGE_IN_SYNC_OPS_FLUSH_TO_DELTA`. -/
def bridgeInSyncOpsFlushToDelta : CType :=
  .struct [("ui32BridgeFlags", imgUint32), ("hKernelSyncInfo", imgHandle),
    ("ui32Delta", imgUint32)]

/-- `PVRSRV_BRIDGE_IN_CHG_DEV_MEM_ATTRIBS`, whose handle is an `IMG_SID`. -/
def bridgeInChgDevMemAttribs : CType :=
  .struct [("hKernelMemInfo", imgUint32), ("ui32Attribs", imgUint32)]

/-- `PVRSRV_BRIDGE_IN_SGXDEVINITPART2`. -/
def bridgeInSgxDevInitPart2 : CType :=
  .struct [("ui32BridgeFlags", imgUint32), ("hDevCookie", imgHandle),
    ("sInitInfo", sgxBridgeInitInfo)]

/-- `PVRSRV_BRIDGE_IN_DOKICK`. -/
def bridgeInDoKick : CType :=
  .struct [("ui32BridgeFlags", imgUint32), ("hDevCookie", imgHandle),
    ("sCCBKick", sgxCcbKick)]

/-- `PVRSRV_BRIDGE_IN_SUBMITTRANSFER`. -/
def bridgeInSubmitTransfer : CType :=
  .struct [("ui32BridgeFlags", imgUint32), ("hDevCookie", imgHandle),
    ("sKick", pvrsrvTransferSgxKick)]

/-! ## OUT structures -/

/-- `PVRSRV_BRIDGE_OUT_ENUMDEVICE`. -/
def bridgeOutEnumDevice : CType :=
  .struct [("eError", imgUint32), ("ui32NumDevices", imgUint32),
    ("asDeviceIdentifier", .array pvrsrvMaxDevices pvrsrvDeviceIdentifier)]

/-- `PVRSRV_BRIDGE_OUT_SGXINFO_FOR_SRVINIT`. -/
def bridgeOutSgxInfoForSrvInit : CType :=
  .struct [("eError", imgUint32), ("sInitInfo", sgxBridgeInfoForSrvInit)]

/-- `PVRSRV_BRIDGE_OUT_ALLOCDEVICEMEM`. -/
def bridgeOutAllocDeviceMem : CType :=
  .struct [("eError", imgUint32), ("psKernelMemInfo", imgHandle),
    ("sClientMemInfo", pvrsrvClientMemInfo),
    ("sClientSyncInfo", pvrsrvClientSyncInfo)]

/-- `PVRSRV_BRIDGE_OUT_CREATE_DEVMEMCONTEXT`. -/
def bridgeOutCreateDevMemContext : CType :=
  .struct [("eError", imgUint32), ("hDevMemContext", imgHandle),
    ("ui32ClientHeapCount", imgUint32),
    ("sHeapInfo", .array pvrsrvMaxClientHeaps pvrsrvHeapInfo)]

/-- `PVRSRV_BRIDGE_OUT_GET_DEVMEM_HEAPINFO`. -/
def bridgeOutGetDevMemHeapInfo : CType :=
  .struct [("eError", imgUint32), ("ui32ClientHeapCount", imgUint32),
    ("sHeapInfo", .array pvrsrvMaxClientHeaps pvrsrvHeapInfo)]

/-- `PVRSRV_BRIDGE_OUT_GETCLIENTINFO`. -/
def bridgeOutGetClientInfo : CType :=
  .struct [("sClientInfo", sgxClientInfo), ("eError", imgUint32)]

/-- `PVRSRV_BRIDGE_OUT_GET_MISC_INFO`. -/
def bridgeOutGetMiscInfo : CType :=
  .struct [("eError", imgUint32), ("sMiscInfo", pvrsrvMiscInfo)]

/-- `PVRSRV_BRIDGE_OUT_EVENT_OBJECT_OPEN`. -/
def bridgeOutEventObjectOpen : CType :=
  .struct [("hOSEvent", imgHandle), ("eError", imgUint32)]

/-- `PVRSRV_BRIDGE_OUT_GETINTERNALDEVINFO`. -/
def bridgeOutGetInternalDevInfo : CType :=
  .struct [("sSGXInternalDevInfo", sgxInternalDevInfo), ("eError", imgUint32)]

/-- `PVRSRV_BRIDGE_OUT_CREATE_DISPCLASS_SWAPCHAIN`. -/
def bridgeOutCreateDispClassSwapChain : CType :=
  .struct [("eError", imgUint32), ("hSwapChain", imgHandle),
    ("ui32SwapChainID", imgUint32)]

/-- `PVRSRV_BRIDGE_OUT_GET_DISPCLASS_BUFFERS`. -/
def bridgeOutGetDispClassBuffers : CType :=
  .struct [("eError", imgUint32), ("ui32BufferCount", imgUint32),
    ("ahBuffer", .array pvrsrvMaxDcSwapchainBuffers imgHandle)]

/-- `PVRSRV_BRIDGE_OUT_WRAP_EXT_MEMORY`. -/
def bridgeOutWrapExtMemory : CType :=
  .struct [("eError", imgUint32), ("sClientMemInfo", pvrsrvClientMemInfo),
    ("sClientSyncInfo", pvrsrvClientSyncInfo)]

/-- `PVRSRV_BRIDGE_OUT_MODIFY_PENDING_SYNC_OPS`. -/
def bridgeOutModifyPendingSyncOps : CType :=
  .struct [("eError", imgUint32), ("ui32ReadOpsPending", imgUint32),
    ("ui32WriteOpsPending", imgUint32)]

end PvrServices.Compat
