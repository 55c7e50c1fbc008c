import PvrServices.BufferManager.Contexts

/-!
# Counting the creations of a memory context

A process that creates a memory context again gets the one it has, with its
count one higher.  The last destroy tests the heaps for leaks and has the
resource manager call back the function that takes the context down, as the
resource manager also does when the process ends.
-/

namespace PvrServices.BufferManager.ContextCounts

open Contexts

/-! ## Contexts and their resource items -/

/-- What the functions read of a `BM_CONTEXT`.  The pointers it may not have
are flags, and `freedHeaps` is the length of the part of its heap list whose
memory is gone. -/
structure ContextRecord where
  ui32RefCount : BitVec 32
  psBMHeap : List Contexts.BmHeap
  freedHeaps : Nat
  psMMUContext : Bool
  pBufferHash : Bool
  hResItem : Option Nat
  ppsThis : Bool

/-- A context in cleared memory. -/
def ContextRecord.zero : ContextRecord := ⟨0, [], 0, false, false, none, false⟩

/-- A resource item of type `RESMAN_TYPE_DEVICEMEM_CONTEXT`. -/
structure ResItem where
  item : Nat
  process : Nat
  context : Nat
deriving DecidableEq, Repr

/-- What has been set up for a context and not taken down. -/
structure Held where
  pBufferHash : Bool
  psMMUContext : Bool
  heaps : Nat
deriving DecidableEq, Repr

/-- Nothing. -/
def Held.nothing : Held := ⟨false, false, 0⟩

/-- The contexts by address, the list the device keeps of them, and the items
of the resource manager.  Beside them stand what each context holds, how often
its creations are outstanding, and the contexts made and taken down so far. -/
structure ContextSystem where
  contexts : Nat → Option ContextRecord
  pBMContext : List Nat
  pBMKernelContext : Option Nat
  items : List ResItem
  held : Nat → Held
  creations : Nat → Nat
  created : List Nat
  torn : List Nat

namespace ContextSystem

/-- The system before the first creation of a process. -/
def initial (pBMKernelContext : Option Nat) : ContextSystem where
  contexts := fun _ => none
  pBMContext := []
  pBMKernelContext := pBMKernelContext
  items := []
  held := fun _ => Held.nothing
  creations := fun _ => 0
  created := []
  torn := []

/-- Store a context. -/
def setContext
    (system : ContextSystem) (address : Nat) (context : ContextRecord) :
    ContextSystem :=
  { system with
    contexts := Function.update system.contexts address (some context) }

/-- Note what a context holds. -/
def setHeld (system : ContextSystem) (address : Nat) (held : Held) :
    ContextSystem :=
  { system with held := Function.update system.held address held }

/-- Note how often the creations of a context are outstanding. -/
def setCreations
    (system : ContextSystem) (address creations : Nat) : ContextSystem :=
  { system with
    creations := Function.update system.creations address creations }

end ContextSystem

/-! ## Taking a context down -/

/-- `PVRSRV_ERROR_UNSUPPORTED_BACKING_STORE`. -/
def unsupportedBackingStore : Contexts.BmError := .other 160

/-- The heap has one of the backing stores that can be taken down. -/
def supported (heap : Contexts.BmHeap) : Bool :=
  decide (heap.ui32Attribs &&&
    (pvrsrvBackingstoreSysmemNoncontig ||| pvrsrvBackingstoreLocalmemContig) ≠
      0)

/-- `List_BM_HEAP_PVRSRV_ERROR_Any_va` with
`BM_DestroyContextCallBack_AnyVaCb`: the first error, and how many heaps have
been freed before it. -/
def deleteHeaps : List Contexts.BmHeap → BmError × Nat
  | [] => (.ok, 0)
  | psBMHeap :: rest =>
    if supported psBMHeap then
      ((deleteHeaps rest).1, (deleteHeaps rest).2 + 1)
    else
      (unsupportedBackingStore, 0)

/-- `BM_DestroyContextCallBack`.  It is `none` for a context or a heap whose
memory is gone. -/
def bmDestroyContextCallBack (address : Nat) (system : ContextSystem) :
    Option (BmError × ContextSystem) :=
  match system.contexts address with
  | none => none
  | some pBMContext =>
    if pBMContext.freedHeaps ≠ 0 then
      none
    else
      let (eError, freed) := deleteHeaps pBMContext.psBMHeap
      let held := system.held address
      if eError ≠ .ok then
        some (eError,
          (system.setContext address
            { pBMContext with freedHeaps := freed }).setHeld address
              { held with heaps := held.heaps - freed })
      else
        let taken := system.setHeld address
          { pBufferHash := held.pBufferHash && !pBMContext.pBufferHash
            psMMUContext := held.psMMUContext && !pBMContext.psMMUContext
            heaps := held.heaps - freed }
        let unlinked :=
          if system.pBMKernelContext = some address then
            { taken with pBMKernelContext := none }
          else if pBMContext.ppsThis then
            { taken with pBMContext := taken.pBMContext.erase address }
          else
            taken
        some (.ok,
          { unlinked with
            contexts := Function.update unlinked.contexts address none
            torn := unlinked.torn ++ [address] })

/-- `FreeResourceByPtr` of the item of a context: the item goes whatever the
callback returns. -/
def freeResourceByPtr (item : Nat) (system : ContextSystem) :
    Option (BmError × ContextSystem) :=
  match system.items.find? fun record => record.item = item with
  | none => none
  | some record =>
    bmDestroyContextCallBack record.context
      { system with items := system.items.erase record }

/-- `ResManFreeResByPtr`. -/
def resManFreeResByPtr (hResItem : Option Nat) (system : ContextSystem) :
    Option (BmError × ContextSystem) :=
  match hResItem with
  | none => some (.ok, system)
  | some item => freeResourceByPtr item system

/-- `BM_DestroyContext` of a context that is not null, with a bound on the
rounds of each test for leaks: the error, `*pbDestroyed` and the system. -/
def bmDestroyContext (fuel : Nat) (address : Nat) (system : ContextSystem) :
    Option (BmError × Bool × ContextSystem) :=
  match system.contexts address with
  | none => none
  | some pBMContext =>
    let dropped := { pBMContext with
      ui32RefCount := pBMContext.ui32RefCount - 1 }
    let system := system.setContext address dropped
    if 0 < dropped.ui32RefCount then
      some (.ok, false, system)
    else if dropped.freedHeaps ≠ 0 then
      none
    else
      match listBmHeapAny (destroyContextAnyCb fuel) dropped.psBMHeap with
      | none => none
      | some .ok =>
        (resManFreeResByPtr dropped.hResItem system).map
          fun (eError, system) =>
            if eError ≠ .ok then (eError, false, system)
            else (.ok, true, system)
      | some eError => some (eError, false, system)

/-! ## Creating a context -/

/-- The test of `ResManFindResourceByPtr` for the items of a process. -/
def ownsItem
    (process : Nat) (hResItem : Option Nat) (system : ContextSystem) :
    Bool :=
  match hResItem with
  | none => false
  | some item => system.items.any fun record =>
    record.item = item && record.process = process

/-- `List_BM_CONTEXT_Any_va` with the search of
`BM_CreateContext_IncRefCount_AnyVaCb`. -/
def findContext (process : Nat) (system : ContextSystem) :
    List Nat → Option (Option Nat)
  | [] => some none
  | address :: rest =>
    match system.contexts address with
    | none => none
    | some pBMContext =>
      if ownsItem process pBMContext.hResItem system then
        some (some address)
      else
        findContext process system rest

/-- What the functions below a creation answer. -/
structure CreateServices where
  psContext : Option Nat
  hashCreate : Bool
  mmuInitialise : Bool
  hResItem : Option Nat
deriving DecidableEq, Repr

/-- The label `cleanup`. -/
def createCleanup (address : Nat) (system : ContextSystem) :
    Option (Option Nat × ContextSystem) :=
  (bmDestroyContextCallBack address system).map fun (_, system) =>
    (none, system)

/-- The part of `BM_CreateContext` that makes a new context. -/
def newContext
    (process : Nat)
    (services : CreateServices)
    (address : Nat)
    (system : ContextSystem) :
    Option (Option Nat × ContextSystem) :=
  let blank := { system.setContext address ContextRecord.zero with
    created := system.created ++ [address] }
  if !services.hashCreate then
    createCleanup address blank
  else
    let hashed := (blank.setContext address
      { ContextRecord.zero with pBufferHash := true }).setHeld address
        { Held.nothing with pBufferHash := true }
    if !services.mmuInitialise then
      createCleanup address hashed
    else
      let mapped := (hashed.setContext address
        { ContextRecord.zero with
          pBufferHash := true, psMMUContext := true }).setHeld address
            { Held.nothing with pBufferHash := true, psMMUContext := true }
      if system.pBMKernelContext = none then
        createCleanup address mapped
      else
        let counted := { mapped.setContext address
            { ContextRecord.zero with
              pBufferHash := true, psMMUContext := true, ppsThis := true
              ui32RefCount := 1 } with
          pBMContext := address :: mapped.pBMContext }
        match services.hResItem with
        | none => createCleanup address counted
        | some item =>
          some (some address,
            { counted.setContext address
                { ContextRecord.zero with
                  pBufferHash := true, psMMUContext := true
                  ppsThis := true, ui32RefCount := 1
                  hResItem := some item } with
              items := ⟨item, process, address⟩ :: counted.items })

/-- `BM_CreateContext` for a process. -/
def bmCreateContext
    (process : Nat) (services : CreateServices) (system : ContextSystem) :
    Option (Option Nat × ContextSystem) :=
  match findContext process system system.pBMContext with
  | none => none
  | some (some address) =>
    (system.contexts address).map fun pBMContext =>
      (some address, system.setContext address
        { pBMContext with ui32RefCount := pBMContext.ui32RefCount + 1 })
  | some none =>
    match services.psContext with
    | none => some (none, system)
    | some address => newContext process services address system

/-! ## Calls and runs -/

/-- What happens to the contexts of the processes. -/
inductive ContextCall
  | create (process : Nat) (services : CreateServices)
  | destroy (address : Nat)
  /-- The heaps of a context are created and used. -/
  | useHeaps (address : Nat) (psBMHeap : List Contexts.BmHeap)
  /-- The process ends, and the resource manager frees its items. -/
  | processEnds (process : Nat)

/-- The loop of `FreeResourceByCriteria` over the items of a process; it stops
at the first error. -/
def freeResources : List ResItem → ContextSystem → Option ContextSystem
  | [], system => some system
  | record :: rest, system =>
    match freeResourceByPtr record.item system with
    | none => none
    | some (eError, system) =>
      if eError ≠ .ok then some system else freeResources rest system

/-- The items of a process. -/
def ContextSystem.itemsOf (system : ContextSystem) (process : Nat) :
    List ResItem :=
  system.items.filter fun record => record.process = process

/-- The creations of a process that has ended are not outstanding any more. -/
def ContextSystem.endCreations (system : ContextSystem) (process : Nat) :
    ContextSystem :=
  { system with
    creations := fun address =>
      if address ∈ (system.itemsOf process).map ResItem.context then 0
      else system.creations address }

/-- One call.  A creation is outstanding from its return to a destroy that
succeeds. -/
def ContextCall.run (fuel : Nat) (system : ContextSystem) :
    ContextCall → Option ContextSystem
  | create process services =>
    (bmCreateContext process services system).map fun (returned, after) =>
      match returned with
      | none => after
      | some address =>
        after.setCreations address (after.creations address + 1)
  | destroy address =>
    (bmDestroyContext fuel address system).map fun (eError, _, after) =>
      if eError ≠ .ok then after
      else after.setCreations address (after.creations address - 1)
  | useHeaps address psBMHeap =>
    (system.contexts address).map fun pBMContext =>
      (system.setContext address
        { pBMContext with psBMHeap := psBMHeap }).setHeld address
          { system.held address with heaps := psBMHeap.length }
  | processEnds process =>
    freeResources (system.itemsOf process) (system.endCreations process)

/-- What a call may assume: memory that is handed out is not in use, and a
destroy or a use is of a context that is there. -/
def ContextCall.Valid (system : ContextSystem) : ContextCall → Prop
  | create _ services =>
    (∀ address ∈ services.psContext, system.contexts address = none ∧
        system.pBMKernelContext ≠ some address) ∧
      ∀ item ∈ services.hResItem, ∀ record ∈ system.items, record.item ≠ item
  | destroy address => (system.contexts address).isSome
  | useHeaps address _ => (system.contexts address).isSome
  | processEnds _ => True

/-- The systems reached by calls that a condition admits. -/
inductive Reached
    (fuel : Nat) (admits : ContextSystem → ContextCall → Prop) :
    ContextSystem → Prop
  | initial (pBMKernelContext : Option Nat) :
      Reached fuel admits (ContextSystem.initial pBMKernelContext)
  | call
      {system after : ContextSystem}
      {call : ContextCall}
      (before : Reached fuel admits system)
      (valid : call.Valid system)
      (admitted : admits system call)
      (runs : call.run fuel system = some after) :
      Reached fuel admits after

end PvrServices.BufferManager.ContextCounts
