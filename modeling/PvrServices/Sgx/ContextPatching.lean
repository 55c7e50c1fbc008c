import PvrServices.Resman.Base
import Mathlib.Data.List.Induction

/-!
# Patching hardware contexts

A hardware context is a block of device memory that the kernel fills from user
space.  Registering one stores the page directory address at an offset the
user gives, and the priority calls store a priority at another.  The first has
no test of its offset, and the test of the second refuses the last field of a
context.
-/

namespace PvrServices.SgxContext

open Resman
open Function (update)

/-! ## Byte copies -/

/-- One byte stored to kernel memory. -/
structure Store where
  address : BitVec 64
  byte : BitVec 8
deriving DecidableEq, Repr

/-- The copy loop `pDst[iPtrByte] = pSrc[iPtrByte]`. -/
def copyBytes (pDst : BitVec 64) : List (BitVec 8) → List Store
  | [] => []
  | byte :: pSrc => ⟨pDst, byte⟩ :: copyBytes (pDst + 1) pSrc

/-- The first `width` bytes of a word in memory, lowest byte first. -/
def littleEndian (width : Nat) (word : BitVec 64) : List (BitVec 8) :=
  (List.range width).map fun index => word.extractLsb' (8 * index) 8

@[simp] theorem littleEndian_length
    (width : Nat) (word : BitVec 64) :
    (littleEndian width word).length = width := by
  simp [littleEndian]

/-- The block `[base, base + length)` holds the address. -/
def InBlock (block : BitVec 64 × Nat) (address : BitVec 64) : Prop :=
  (address - block.1).toNat < block.2

instance (block : BitVec 64 × Nat) (address : BitVec 64) :
    Decidable (InBlock block address) :=
  inferInstanceAs (Decidable (_ < _))

/-- A copy stores one byte at each address from its destination on. -/
theorem copyBytes_addresses
    (pDst : BitVec 64) (pSrc : List (BitVec 8)) :
    (copyBytes pDst pSrc).map Store.address =
      (List.range pSrc.length).map fun index =>
        pDst + BitVec.ofNat 64 index := by
  induction pSrc generalizing pDst with
  | nil => rfl
  | cons byte pSrc ih =>
    rw [copyBytes, List.map_cons, ih, List.length_cons,
      List.range_succ_eq_map, List.map_cons, List.map_map]
    congr 1
    · simp
    · apply List.map_congr_left
      intro index _
      rw [Function.comp_apply, Nat.succ_eq_add_one, BitVec.ofNat_add,
        BitVec.add_assoc]
      congr 1
      exact BitVec.add_comm _ _

/-- A copy to an offset of a block stays in the block exactly when the offset
and the length of the copy together do not pass its end. -/
theorem copyBytes_inBlock_iff
    {base : BitVec 64}
    {length : Nat}
    {offset : Nat}
    {pSrc : List (BitVec 8)}
    (nonempty : 0 < pSrc.length)
    (noWrap : offset + pSrc.length ≤ 2 ^ 64) :
    (∀ store ∈ copyBytes (base + BitVec.ofNat 64 offset) pSrc,
        InBlock (base, length) store.address) ↔
      offset + pSrc.length ≤ length := by
  have distance : ∀ index < pSrc.length,
      (base + BitVec.ofNat 64 offset + BitVec.ofNat 64 index - base).toNat =
        offset + index := by
    intro index indexBound
    rw [BitVec.add_assoc, BitVec.add_comm base, BitVec.add_sub_cancel,
      ← BitVec.ofNat_add, BitVec.toNat_ofNat]
    exact Nat.mod_eq_of_lt (by omega)
  have addresses := copyBytes_addresses (base + BitVec.ofNat 64 offset) pSrc
  constructor
  · intro inside
    have last : base + BitVec.ofNat 64 offset +
          BitVec.ofNat 64 (pSrc.length - 1) ∈
        (copyBytes (base + BitVec.ofNat 64 offset) pSrc).map
          Store.address := by
      rw [addresses]
      exact List.mem_map.mpr
        ⟨_, List.mem_range.mpr (Nat.sub_lt nonempty Nat.one_pos), rfl⟩
    obtain ⟨store, stored, atLast⟩ := List.mem_map.mp last
    have lastInside := inside store stored
    rw [atLast, InBlock, distance _ (by omega)] at lastInside
    simp only at lastInside
    omega
  · intro fits store stored
    have address : store.address ∈
        (copyBytes (base + BitVec.ofNat 64 offset) pSrc).map Store.address :=
      List.mem_map_of_mem stored
    rw [addresses] at address
    obtain ⟨index, indexBound, atIndex⟩ := List.mem_map.mp address
    have indexBound := List.mem_range.mp indexBound
    rw [← atIndex, InBlock, distance index indexBound]
    simp only
    omega

/-! ## Hardware contexts -/

/-- The three kinds of hardware context. -/
inductive ContextKind
  | render
  | transfer
  | hw2D
deriving DecidableEq, Repr

/-- The fields of `PVRSRV_KERNEL_MEM_INFO` that registering fills. -/
structure KernelMemInfo where
  pvLinAddrKM : BitVec 64
  sDevVAddr : BitVec 32
  uAllocSize : BitVec 32
deriving DecidableEq, Repr

/-- `SGX_HW_RENDER_CONTEXT_CLEANUP` and its two siblings. -/
structure Cleanup where
  kind : ContextKind
  psHWContextMemInfo : KernelMemInfo
  psResItem : Nat
deriving DecidableEq, Repr

/-- What the kernel holds: the contents of its memory, the length of the block
at each base address, and the registered contexts by handle. -/
structure ContextState where
  memory : BitVec 64 → BitVec 8
  blocks : BitVec 64 → Option Nat
  contexts : Nat → Option Cleanup

namespace ContextState

/-- The state before any context is registered. -/
def initial (memory : BitVec 64 → BitVec 8) : ContextState where
  memory := memory
  blocks := fun _ => none
  contexts := fun _ => none

/-- The memory after a list of stores. -/
def store (state : ContextState) (stores : List Store) : ContextState :=
  { state with
    memory := stores.foldl
      (fun memory store => update memory store.address store.byte)
      state.memory }

end ContextState

/-! ## Registering -/

/-- What the functions below a registration answer. -/
structure RegisterServices where
  /-- `OSAllocMem` of the cleanup structure. -/
  psCleanup : Option Nat
  /-- The kernel and the device address of the new device memory. -/
  deviceMem : Option (BitVec 64 × BitVec 32)
  /-- The bytes `OSCopyFromUser` gets over. -/
  userBytes : List (BitVec 8)
  copyFromUser : PvrsrvError
  /-- The page directory of the device memory context the handle names. -/
  sPDDevPAddr : Option (BitVec 64)
  /-- `ResManRegisterRes`. -/
  psResItem : Option Nat
deriving DecidableEq, Repr

/-- `PVRSRVAllocDeviceMemKM` without a sync object, for a heap that exists and
without cache flags. -/
def allocDeviceMemKM
    (deviceMem : Option (BitVec 64 × BitVec 32)) (ui32Size : BitVec 32) :
    Option KernelMemInfo :=
  if ui32Size = 0 then
    none
  else
    deviceMem.map fun (pvLinAddrKM, sDevVAddr) =>
      ⟨pvLinAddrKM, sDevVAddr, ui32Size⟩

/-- What a call returns, the bytes it stores and the state it leaves. -/
structure Outcome (α : Type) where
  returned : α
  stores : List Store
  state : ContextState

/-- The common body of the three registrations.  The handle is the address of
the cleanup structure, or null. -/
def registerHWContext
    (kind : ContextKind)
    (services : RegisterServices)
    (ui32HWContextSize ui32OffsetToPDDevPAddr : BitVec 32)
    (state : ContextState) :
    Outcome (Option Nat) :=
  match services.psCleanup with
  | none => ⟨none, [], state⟩
  | some psCleanup =>
    match allocDeviceMemKM services.deviceMem ui32HWContextSize with
    | none => ⟨none, [], state⟩
    | some psMemInfo =>
      let copied := copyBytes psMemInfo.pvLinAddrKM
        (services.userBytes.take ui32HWContextSize.toNat)
      if services.copyFromUser ≠ pvrsrvOk then
        ⟨none, copied, state.store copied⟩
      else
        match services.sPDDevPAddr with
        | none => ⟨none, copied, state.store copied⟩
        | some sPDDevPAddr =>
          -- `pDst += ui32OffsetToPDDevPAddr`, with no test before it
          let pDst := psMemInfo.pvLinAddrKM +
            ui32OffsetToPDDevPAddr.setWidth 64
          let stores :=
            copied ++ copyBytes pDst (littleEndian 4 sPDDevPAddr)
          match services.psResItem with
          | none => ⟨none, stores, state.store stores⟩
          | some psResItem =>
            ⟨some psCleanup, stores,
              { state.store stores with
                blocks := update state.blocks
                  psMemInfo.pvLinAddrKM
                  (some ui32HWContextSize.toNat)
                contexts := update state.contexts psCleanup
                  (some ⟨kind, psMemInfo, psResItem⟩) }⟩

/-- `SGXRegisterHWRenderContextKM`. -/
def sgxRegisterHWRenderContextKM := registerHWContext .render

/-- `SGXRegisterHWTransferContextKM`. -/
def sgxRegisterHWTransferContextKM := registerHWContext .transfer

/-- `SGXRegisterHW2DContextKM`. -/
def sgxRegisterHW2DContextKM := registerHWContext .hw2D

/-- `SGXUnregisterHWRenderContextKM` and its siblings, down to the cleanup
callback, which frees the device memory whatever the hardware answers. -/
def unregisterHWContext (psCleanup : Nat) (state : ContextState) :
    ContextState :=
  match state.contexts psCleanup with
  | none => state
  | some cleanup =>
    { state with
      blocks := update state.blocks
        cleanup.psHWContextMemInfo.pvLinAddrKM none
      contexts := update state.contexts psCleanup none }

/-! ## Setting a priority -/

/-- The common body of the two priority calls on a context the bridge has
looked up. -/
def setContextPriority
    (context : Option Cleanup)
    (ui32Priority ui32OffsetOfPriorityField : BitVec 32)
    (state : ContextState) :
    Outcome PvrsrvError :=
  match context with
  | none => ⟨pvrsrvOk, [], state⟩
  | some psCleanup =>
    -- `sizeof` is a `size_t`, so the sum is a 64-bit one
    if psCleanup.psHWContextMemInfo.uAllocSize.setWidth 64 ≤
        ui32OffsetOfPriorityField.setWidth 64 + (4 : BitVec 64) then
      ⟨pvrsrvErrorInvalidParams, [], state⟩
    else
      let pDst := psCleanup.psHWContextMemInfo.pvLinAddrKM +
        ui32OffsetOfPriorityField.setWidth 64
      let stores :=
        copyBytes pDst (littleEndian 4 (ui32Priority.setWidth 64))
      ⟨pvrsrvOk, stores, state.store stores⟩

/-- `SGXSetRenderContextPriorityKM`. -/
def sgxSetRenderContextPriorityKM := setContextPriority

/-- `SGXSetTransferContextPriorityKM`. -/
def sgxSetTransferContextPriorityKM := setContextPriority

/-- `PVRSRVLookupHandle` of a context of a kind. -/
def lookupContext
    (kind : ContextKind) (handle : Nat) (state : ContextState) :
    Option Cleanup :=
  (state.contexts handle).filter fun cleanup => cleanup.kind = kind

/-- The bridge calls around the two priority calls: `lookupError` is the error
of a handle that names no context of the kind. -/
def setContextPriorityBW
    (kind : ContextKind)
    (lookupError : PvrsrvError)
    (handle : Nat)
    (ui32Priority ui32OffsetOfPriorityField : BitVec 32)
    (state : ContextState) :
    Outcome PvrsrvError :=
  match lookupContext kind handle state with
  | none => ⟨lookupError, [], state⟩
  | some psCleanup =>
    setContextPriority (some psCleanup) ui32Priority
      ui32OffsetOfPriorityField state

/-! ## Calls and runs -/

/-- The calls that make, destroy or write hardware contexts. -/
inductive PatchCall
  | register
      (kind : ContextKind)
      (services : RegisterServices)
      (ui32HWContextSize ui32OffsetToPDDevPAddr : BitVec 32)
  | unregister (psCleanup : Nat)
  | setPriority
      (kind : ContextKind)
      (lookupError : PvrsrvError)
      (handle : Nat)
      (ui32Priority ui32OffsetOfPriorityField : BitVec 32)

namespace PatchCall

/-- The bytes a call stores. -/
def stores (state : ContextState) : PatchCall → List Store
  | register kind services ui32HWContextSize ui32OffsetToPDDevPAddr =>
    (registerHWContext kind services ui32HWContextSize
      ui32OffsetToPDDevPAddr state).stores
  | unregister _ => []
  | setPriority kind lookupError handle ui32Priority
        ui32OffsetOfPriorityField =>
    (setContextPriorityBW kind lookupError handle ui32Priority
      ui32OffsetOfPriorityField state).stores

/-- The state a call leaves. -/
def after (state : ContextState) : PatchCall → ContextState
  | register kind services ui32HWContextSize ui32OffsetToPDDevPAddr =>
    (registerHWContext kind services ui32HWContextSize
      ui32OffsetToPDDevPAddr state).state
  | unregister psCleanup => unregisterHWContext psCleanup state
  | setPriority kind lookupError handle ui32Priority
        ui32OffsetOfPriorityField =>
    (setContextPriorityBW kind lookupError handle ui32Priority
      ui32OffsetOfPriorityField state).state

/-- The block of the hardware context a call works on. -/
def block (state : ContextState) : PatchCall → Option (BitVec 64 × Nat)
  | register _ services ui32HWContextSize _ =>
    services.deviceMem.map fun (base, _) => (base, ui32HWContextSize.toNat)
  | unregister _ => none
  | setPriority kind _ handle _ _ => do
      let cleanup ← lookupContext kind handle state
      let base := cleanup.psHWContextMemInfo.pvLinAddrKM
      let length ← state.blocks base
      return (base, length)

/-- The user's offset, where a call has one. -/
def offset : PatchCall → Option (BitVec 32)
  | register _ _ _ ui32OffsetToPDDevPAddr => some ui32OffsetToPDDevPAddr
  | unregister _ => none
  | setPriority _ _ _ _ ui32OffsetOfPriorityField =>
    some ui32OffsetOfPriorityField

/-- Every function below a registration succeeds. -/
def ServicesSucceed (services : RegisterServices) : Prop :=
  services.psCleanup.isSome ∧ services.deviceMem.isSome ∧
    services.copyFromUser = pvrsrvOk ∧ services.sPDDevPAddr.isSome ∧
      services.psResItem.isSome

/-- A call is not refused for its offset: the registration returns a context
unless one of the functions below it fails, the priority call returns OK. -/
def Accepted (state : ContextState) : PatchCall → Prop
  | register kind services ui32HWContextSize ui32OffsetToPDDevPAddr =>
    ServicesSucceed services →
      (registerHWContext kind services ui32HWContextSize
        ui32OffsetToPDDevPAddr state).returned.isSome
  | unregister _ => True
  | setPriority kind lookupError handle ui32Priority
        ui32OffsetOfPriorityField =>
    (setContextPriorityBW kind lookupError handle ui32Priority
      ui32OffsetOfPriorityField state).returned = pvrsrvOk

/-- Every byte a call stores is in the block of its context. -/
def StaysInside (state : ContextState) (call : PatchCall) : Prop :=
  ∀ store ∈ call.stores state, ∃ block ∈ call.block state,
    InBlock block store.address

/-- A field of four bytes that is inside the context is accepted. -/
def AcceptsInside (state : ContextState) (call : PatchCall) : Prop :=
  ∀ block ∈ call.block state, ∀ offset ∈ call.offset,
    offset.toNat + 4 ≤ block.2 → call.Accepted state

/-- A registration gets to its patch. -/
def ReachesPatch
    (services : RegisterServices) (ui32HWContextSize : BitVec 32) : Prop :=
  services.psCleanup.isSome ∧ services.deviceMem.isSome ∧
    ui32HWContextSize ≠ 0 ∧ services.copyFromUser = pvrsrvOk ∧
      services.sPDDevPAddr.isSome

/-- When a call is right: a registration that gets to its patch has its field
inside the size, and no priority field is the last of its context. -/
def FieldInside (state : ContextState) : PatchCall → Prop
  | register _ services ui32HWContextSize ui32OffsetToPDDevPAddr =>
    ReachesPatch services ui32HWContextSize →
      ui32OffsetToPDDevPAddr.toNat + 4 ≤ ui32HWContextSize.toNat
  | unregister _ => True
  | setPriority kind lookupError handle ui32Priority
        ui32OffsetOfPriorityField =>
    ∀ place ∈ (setPriority kind lookupError handle ui32Priority
          ui32OffsetOfPriorityField).block state,
      ui32OffsetOfPriorityField.toNat + 4 ≠ place.2

/-- The allocators hand out cleanup structures and blocks that are free. -/
def Fresh (state : ContextState) : PatchCall → Prop
  | register _ services _ _ =>
    (∀ psCleanup ∈ services.psCleanup, state.contexts psCleanup = none) ∧
      ∀ pair ∈ services.deviceMem, state.blocks pair.1 = none
  | unregister _ => True
  | setPriority .. => True

end PatchCall

/-- The states of the kernel between calls. -/
inductive Reachable : ContextState → Prop
  | initial (memory : BitVec 64 → BitVec 8) :
      Reachable (ContextState.initial memory)
  | call
      {state : ContextState}
      (call : PatchCall)
      (before : Reachable state)
      (fresh : call.Fresh state) :
      Reachable (call.after state)

end PvrServices.SgxContext
