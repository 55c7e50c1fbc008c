import PvrServices.BufferManager.ContextCounts

/-!
# The reference count of a memory context

As long as no destroy is refused, the count of a context is the number of its
outstanding creations, and the context is taken down when there are none left.
A destroy that finds a leak has dropped the count already.
-/

namespace PvrServices.BufferManager.ContextCounts

open Function (update update_eq_self update_of_ne update_self)
open Contexts
open ContextCall (run)
open List (forall_mem_cons mem_cons nodup_cons nodup_nil not_mem_nil)
open ContextRecord (zero)
open ContextSystem (setContext setCreations setHeld)
open Held (nothing)
open Option (isSome_iff_exists map_some)

/-! ## Sound systems -/

/-- What a context holds once it has been created. -/
def ContextRecord.holds (pBMContext : ContextRecord) : Held :=
  ⟨true, true, pBMContext.psBMHeap.length⟩

/-- Every context that is there counts its outstanding creations, every other
one has been taken down as often as it was made, and the list has just the
contexts that are there. -/
structure Sound (system : ContextSystem) : Prop where
  counts : ∀ address pBMContext,
    system.contexts address = some pBMContext →
      pBMContext.ui32RefCount.toNat = system.creations address ∧
        0 < system.creations address
  ended : ∀ address, system.contexts address = none →
    system.creations address = 0
  once : ∀ address, system.created.count address =
    system.torn.count address +
      if (system.contexts address).isSome then 1 else 0
  linked : ∀ address,
    address ∈ system.pBMContext ↔ (system.contexts address).isSome
  holds : ∀ address, system.held address =
    ((system.contexts address).map ContextRecord.holds).getD nothing

/-- The heap can be taken down: its backing store is one of the supported
ones, and `RA_TestDelete` finds nothing left in its import arena. -/
def Deletable (fuel : Nat) (heap : Contexts.BmHeap) : Prop :=
  heap.Supported ∧
    ∀ arena ∈ heap.pImportArena, arena.raTestDelete fuel = some true

/-- No count wraps, the last destroy of a context finds nothing left in its
heaps, and every heap that is taken down has a supported backing store. -/
def ContextCall.Admitted (fuel : Nat) (system : ContextSystem) :
    ContextCall → Prop
  | create process _ => ∀ address pBMContext,
      findContext process system system.pBMContext = some (some address) →
        system.contexts address = some pBMContext →
          pBMContext.ui32RefCount.toNat + 1 < 2 ^ 32
  | destroy address => ∀ pBMContext,
      system.contexts address = some pBMContext →
        pBMContext.ui32RefCount = 1 →
          ∀ heap ∈ pBMContext.psBMHeap, Deletable fuel heap
  | useHeaps _ _ => True
  | processEnds process => ∀ record ∈ system.itemsOf process,
      ∀ pBMContext, system.contexts record.context = some pBMContext →
        ∀ heap ∈ pBMContext.psBMHeap, heap.Supported

/-- The destroy returns; if it fails it leaves the contexts as they were, and
if not it says whether the context is gone. -/
def DestroyRight
    (fuel : Nat) (system : ContextSystem) (address : Nat) : Prop :=
  ∃ eError bDestroyed after,
    bmDestroyContext fuel address system = some (eError, bDestroyed, after) ∧
      (eError ≠ .ok → after = system) ∧
        (eError = .ok →
          (bDestroyed = true ↔ after.contexts address = none))

/-! ## The heaps of a context -/

theorem supported_iff {heap : Contexts.BmHeap} :
    supported heap = true ↔ heap.Supported := by
  rw [supported, decide_eq_true_iff]
  rfl

variable {heaps : List Contexts.BmHeap} {system : ContextSystem}
  {address fuel : Nat}

theorem deleteHeaps_supported
    (allSupported : ∀ heap ∈ heaps, heap.Supported) :
    deleteHeaps heaps = (.ok, heaps.length) := by
  induction heaps with
  | nil => rfl
  | cons first rest ih =>
    rw [forall_mem_cons] at allSupported
    rw [deleteHeaps, if_pos (supported_iff.mpr allSupported.1),
      ih allSupported.2]
    rfl

theorem deleteHeaps_unsupported
    (unsupported : ¬∀ heap ∈ heaps, heap.Supported) :
    (deleteHeaps heaps).1 = unsupportedBackingStore := by
  induction heaps with
  | nil => exact absurd (List.forall_mem_nil _) unsupported
  | cons first rest ih =>
    rw [forall_mem_cons, ← supported_iff] at unsupported
    rw [deleteHeaps]
    by_cases firstSupported : supported first = true
    · rw [if_pos firstSupported]
      exact ih fun restSupported => unsupported ⟨firstSupported, restSupported⟩
    · rw [if_neg firstSupported]

/-- The test of a supported heap succeeds just when its arena is empty. -/
theorem destroyContextAnyCb_eq_ok
    {heap : Contexts.BmHeap}
    (heapSupported : heap.Supported)
    (fuel : Nat) :
    destroyContextAnyCb fuel heap = some .ok ↔ Deletable fuel heap := by
  have attributes := heapSupported
  unfold Contexts.BmHeap.Supported at attributes
  rw [destroyContextAnyCb, if_pos attributes, Deletable]
  simp only [heapSupported, true_and]
  cases heap.pImportArena with
  | none => simp
  | some arena =>
    cases tested : arena.raTestDelete fuel with
    | none => simp [tested]
    | some empty => cases empty <;> simp [tested]

theorem listBmHeapAny_eq_ok
    (allSupported : ∀ heap ∈ heaps, heap.Supported)
    (fuel : Nat) :
    listBmHeapAny (destroyContextAnyCb fuel) heaps = some .ok ↔
      ∀ heap ∈ heaps, Deletable fuel heap := by
  induction heaps with
  | nil => simp [listBmHeapAny]
  | cons first rest ih =>
    rw [forall_mem_cons] at allSupported
    rw [forall_mem_cons, ← ih allSupported.2,
      ← destroyContextAnyCb_eq_ok allSupported.1, listBmHeapAny]
    cases destroyContextAnyCb fuel first with
    | none => simp
    | some eError => cases eError <;> simp

/-! ## The invariant -/

/-- A context that has been created whole. -/
structure ContextRecord.Whole (pBMContext : ContextRecord) : Prop where
  heaps : pBMContext.freedHeaps = 0
  hash : pBMContext.pBufferHash = true
  mmu : pBMContext.psMMUContext = true
  inList : pBMContext.ppsThis = true

/-- The contexts, their list and their items belong together. -/
structure Formed (system : ContextSystem) : Prop where
  once : ∀ address, system.created.count address =
    system.torn.count address +
      if (system.contexts address).isSome then 1 else 0
  linked : ∀ {address},
    address ∈ system.pBMContext ↔ (system.contexts address).isSome
  linkedOnce : system.pBMContext.Nodup
  holds : ∀ address, system.held address =
    ((system.contexts address).map ContextRecord.holds).getD nothing
  whole : ∀ {address pBMContext},
    system.contexts address = some pBMContext →
      pBMContext.Whole ∧ ∃ record ∈ system.items,
        record.context = address ∧ pBMContext.hResItem = some record.item
  itemLive : ∀ {record}, record ∈ system.items →
    ∃ pBMContext, system.contexts record.context = some pBMContext ∧
      pBMContext.hResItem = some record.item
  itemsOnce : (system.items.map ResItem.item).Nodup
  notKernel : ∀ {address}, system.pBMKernelContext = some address →
    system.contexts address = none

/-- The counts are right but for the pending contexts, whose creations are not
outstanding any more. -/
structure Counted (pending : List Nat) (system : ContextSystem) : Prop where
  counts : ∀ {address pBMContext},
    system.contexts address = some pBMContext → address ∉ pending →
      pBMContext.ui32RefCount.toNat = system.creations address ∧
        0 < system.creations address
  pendingEnded : ∀ {address}, address ∈ pending →
    system.creations address = 0
  ended : ∀ {address}, system.contexts address = none →
    system.creations address = 0
  pendingOnce : pending.Nodup

/-- What every call keeps. -/
structure Invariant (system : ContextSystem) : Prop where
  formed : Formed system
  counted : Counted [] system

theorem Invariant.initial (pBMKernelContext : Option Nat) :
    Invariant (ContextSystem.initial pBMKernelContext) where
  formed :=
    { once := fun _ => rfl
      linked := by simp [ContextSystem.initial]
      linkedOnce := nodup_nil
      holds := fun _ => rfl
      whole := fun isContext => nomatch isContext
      itemLive := fun member => nomatch member
      itemsOnce := nodup_nil
      notKernel := fun _ => rfl }
  counted :=
    { counts := fun isContext => nomatch isContext
      pendingEnded := fun member => nomatch member
      ended := fun _ => rfl
      pendingOnce := nodup_nil }

theorem Invariant.sound
    (invariant : Invariant system) :
    Sound system where
  counts := fun _ _ isContext => invariant.counted.counts isContext not_mem_nil
  ended := fun _ => invariant.counted.ended
  once := invariant.formed.once
  linked := fun _ => invariant.formed.linked
  holds := invariant.formed.holds

namespace Formed

variable {system : ContextSystem} {first second : ResItem}

section

variable (formed : Formed system) (firstMember : first ∈ system.items)
  (secondMember : second ∈ system.items)
include formed firstMember secondMember

/-- Two items of one address are one. -/
theorem item_eq
    (same : first.item = second.item) :
    first = second :=
  List.inj_on_of_nodup_map formed.itemsOnce firstMember secondMember same

/-- Two items of one context are one. -/
theorem context_eq
    (same : first.context = second.context) :
    first = second := by
  obtain ⟨_, isContext, isItem⟩ := formed.itemLive firstMember
  obtain ⟨_, sameContext, sameItem⟩ := formed.itemLive secondMember
  rw [← same, isContext, Option.some.injEq] at sameContext
  rw [← sameContext, isItem, Option.some.injEq] at sameItem
  exact formed.item_eq firstMember secondMember sameItem

end

theorem find_item
    (formed : Formed system)
    {record : ResItem}
    (member : record ∈ system.items) :
    system.items.find? (fun other => other.item = record.item) =
      some record := by
  cases search : system.items.find? fun other => other.item = record.item with
  | none =>
    have differs := List.find?_eq_none.mp search record member
    exact absurd (decide_eq_true rfl) differs
  | some other =>
    have same := List.find?_some search
    rw [decide_eq_true_iff] at same
    rw [formed.item_eq (List.mem_of_find?_eq_some search) member same]

end Formed

/-! ## Taking a context down -/

/-- The system without the context of a resource item. -/
def ContextSystem.takenDown
    (system : ContextSystem) (record : ResItem) : ContextSystem :=
  { system with
    contexts := Function.update system.contexts record.context none
    pBMContext := system.pBMContext.erase record.context
    items := system.items.erase record
    held := Function.update system.held record.context nothing
    torn := system.torn ++ [record.context] }

theorem takenDown_contexts_self (system : ContextSystem) (record : ResItem) :
    (system.takenDown record).contexts record.context = none :=
  update_self ..

theorem takenDown_contexts_of_ne
    {record : ResItem}
    (differs : address ≠ record.context)
    (system : ContextSystem) :
    (system.takenDown record).contexts address = system.contexts address :=
  update_of_ne differs ..

section TakeDown

variable {system : ContextSystem} {pending : List Nat} {record : ResItem}
  {pBMContext : ContextRecord}

/-- The callback takes a whole context down if its heaps have a supported
backing store. -/
theorem freeResourceByPtr_eq
    (formed : Formed system)
    (member : record ∈ system.items)
    (isContext : system.contexts record.context = some pBMContext)
    (allSupported : ∀ heap ∈ pBMContext.psBMHeap, heap.Supported) :
    freeResourceByPtr record.item system =
      some (.ok, system.takenDown record) := by
  obtain ⟨whole, _⟩ := formed.whole isContext
  have heldEq : system.held record.context =
      ⟨true, true, pBMContext.psBMHeap.length⟩ := by
    rw [formed.holds, isContext]
    rfl
  have notKernel : system.pBMKernelContext ≠ some record.context := by
    intro isKernel
    rw [formed.notKernel isKernel] at isContext
    cases isContext
  rw [freeResourceByPtr, formed.find_item member]
  simp only [bmDestroyContextCallBack, isContext, whole.heaps, whole.hash,
    whole.mmu, whole.inList, deleteHeaps_supported allSupported, heldEq,
    setHeld, notKernel, ne_eq, not_true_eq_false, if_false,
    if_true, Bool.not_true, Bool.and_false, Nat.sub_self]
  rfl

theorem Formed.takenDown
    (formed : Formed system)
    (member : record ∈ system.items) :
    Formed (system.takenDown record) := by
  obtain ⟨pBMContext, isContext, _⟩ := formed.itemLive member
  refine ⟨?_, ?_, formed.linkedOnce.erase _, ?_, ?_, ?_, ?_, ?_⟩
  · intro address
    have before := formed.once address
    by_cases same : address = record.context
    · simp [ContextSystem.takenDown, same, isContext] at before ⊢
      exact before
    · simp [ContextSystem.takenDown, same, Ne.symm same] at before ⊢
      exact before
  · intro address
    rw [ContextSystem.takenDown, formed.linkedOnce.mem_erase_iff,
      formed.linked]
    by_cases same : address = record.context
    · simp [same]
    · simp [same]
  · intro address
    by_cases same : address = record.context
    · simp [ContextSystem.takenDown, same]
    · simp [ContextSystem.takenDown, same, formed.holds]
  · intro address otherContext isOther
    by_cases same : address = record.context
    · rw [same, takenDown_contexts_self] at isOther
      cases isOther
    rw [takenDown_contexts_of_ne same] at isOther
    obtain ⟨whole, owner, isOwner, context, hResItem⟩ := formed.whole isOther
    refine ⟨whole, owner, ?_, context, hResItem⟩
    refine (List.mem_erase_of_ne ?_).mpr isOwner
    rintro rfl
    exact same context.symm
  · intro owner isOwner
    have isItem := List.mem_of_mem_erase isOwner
    obtain ⟨otherContext, isOther, hResItem⟩ := formed.itemLive isItem
    have differs : owner.context ≠ record.context := by
      intro same
      have nodup := List.Nodup.of_map _ formed.itemsOnce
      exact (nodup.mem_erase_iff.mp isOwner).1
        (formed.context_eq isItem member same)
    rw [← takenDown_contexts_of_ne differs system] at isOther
    exact ⟨otherContext, isOther, hResItem⟩
  · exact List.Nodup.sublist
      (List.Sublist.map _ List.erase_sublist) formed.itemsOnce
  · intro address isKernel
    by_cases same : address = record.context
    · rw [same, takenDown_contexts_self]
    · rw [takenDown_contexts_of_ne same, formed.notKernel isKernel]

/-- The context of a pending item goes, and the others stay counted. -/
theorem Counted.takenDown
    (counted : Counted (record.context :: pending) system) :
    Counted pending (system.takenDown record) := by
  refine ⟨?_, ?_, ?_, (nodup_cons.mp counted.pendingOnce).2⟩
  · intro address otherContext isOther notMember
    by_cases same : address = record.context
    · rw [same, takenDown_contexts_self] at isOther
      cases isOther
    · rw [takenDown_contexts_of_ne same] at isOther
      exact counted.counts isOther (by simp [same, notMember])
  · intro address isPending
    exact counted.pendingEnded (List.mem_cons_of_mem _ isPending)
  · intro address gone
    by_cases same : address = record.context
    · rw [same]
      exact counted.pendingEnded List.mem_cons_self
    · rw [takenDown_contexts_of_ne same] at gone
      exact counted.ended gone

end TakeDown

/-- The resource manager takes down the contexts of all items of a list. -/
theorem freeResources_spec
    {records : List ResItem}
    (formed : Formed system)
    (counted : Counted (records.map ResItem.context) system)
    (members : ∀ record ∈ records, record ∈ system.items)
    (allSupported : ∀ record ∈ records, ∀ pBMContext,
      system.contexts record.context = some pBMContext →
        ∀ heap ∈ pBMContext.psBMHeap, heap.Supported) :
    ∃ after, freeResources records system = some after ∧
      Invariant after := by
  induction records generalizing system with
  | nil => exact ⟨system, rfl, formed, counted⟩
  | cons first rest ih =>
    rw [forall_mem_cons] at members allSupported
    obtain ⟨pBMContext, isContext, _⟩ := formed.itemLive members.1
    have differs : ∀ record ∈ rest, record.context ≠ first.context := by
      intro record member same
      have notRest := (nodup_cons.mp counted.pendingOnce).1
      exact notRest (same ▸ List.mem_map_of_mem member)
    obtain ⟨after, freed, invariant⟩ :=
      ih (formed.takenDown members.1) counted.takenDown
        (fun record member => by
          refine (List.mem_erase_of_ne ?_).mpr (members.2 record member)
          rintro rfl
          exact differs _ member rfl)
        (fun record member pBMContext isContext => by
          rw [takenDown_contexts_of_ne (differs record member)] at isContext
          exact allSupported.2 record member pBMContext isContext)
    refine ⟨after, ?_, invariant⟩
    rw [freeResources, freeResourceByPtr_eq formed members.1 isContext
      (allSupported.1 pBMContext isContext)]
    exact freed

theorem endCreations_creations
    (system : ContextSystem) (process address : Nat) :
    (system.endCreations process).creations address =
      if address ∈ (system.itemsOf process).map ResItem.context then 0
      else system.creations address :=
  rfl

/-- When a process ends its contexts are taken down. -/
theorem processEnds_spec
    {process : Nat}
    (invariant : Invariant system)
    (admitted : (ContextCall.processEnds process).Admitted fuel system) :
    ∃ after,
      (ContextCall.processEnds process).run fuel system = some after ∧
        Invariant after := by
  obtain ⟨formed, counted⟩ := invariant
  have ended : Formed (system.endCreations process) :=
    ⟨formed.once, formed.linked, formed.linkedOnce, formed.holds,
      formed.whole, formed.itemLive, formed.itemsOnce, formed.notKernel⟩
  refine freeResources_spec ended ?_
    (fun record member => List.mem_of_mem_filter member) admitted
  refine ⟨?_, ?_, ?_, ?_⟩
  · intro address pBMContext isContext notPending
    rw [endCreations_creations, if_neg notPending]
    exact counted.counts isContext not_mem_nil
  · intro address isPending
    rw [endCreations_creations, if_pos isPending]
  · intro address gone
    rw [endCreations_creations, counted.ended gone, ite_self]
  · refine List.Nodup.map_on ?_
      ((List.Nodup.of_map _ formed.itemsOnce).filter _)
    intro first isFirst second isSecond same
    exact formed.context_eq (List.mem_of_mem_filter isFirst)
      (List.mem_of_mem_filter isSecond) same

/-! ## Counting up and down -/

/-- Store a context and what goes with it. -/
def ContextSystem.replace
    (system : ContextSystem)
    (address : Nat)
    (pBMContext : ContextRecord)
    (creations : Nat) : ContextSystem :=
  ((system.setContext address pBMContext).setHeld address
    pBMContext.holds).setCreations address creations

section Replace

variable {system : ContextSystem} {address creations other : Nat}
  {old new : ContextRecord}

theorem replace_contexts_self :
    (system.replace address new creations).contexts address = some new :=
  update_self ..

theorem replace_contexts_of_ne
    (differs : other ≠ address) :
    (system.replace address new creations).contexts other =
      system.contexts other :=
  update_of_ne differs ..

theorem replace_creations_self :
    (system.replace address new creations).creations address = creations :=
  update_self ..

theorem replace_creations_of_ne
    (differs : other ≠ address) :
    (system.replace address new creations).creations other =
      system.creations other :=
  update_of_ne differs ..

theorem replace_isSome
    (isContext : system.contexts address = some old)
    (new : ContextRecord)
    (creations other : Nat) :
    ((system.replace address new creations).contexts other).isSome =
      (system.contexts other).isSome := by
  by_cases same : other = address
  · rw [same, replace_contexts_self, isContext]
    rfl
  · rw [replace_contexts_of_ne same]

/-- A context that holds the same and counts the same is only stored. -/
theorem setContext_eq_replace
    (formed : Formed system)
    (isContext : system.contexts address = some old)
    (new : ContextRecord)
    (sameHolds : new.holds = old.holds)
    (creations : Nat) :
    (system.setContext address new).setCreations address creations =
      system.replace address new creations := by
  have heldEq : system.held address = new.holds := by
    rw [formed.holds, isContext, sameHolds]
    rfl
  have unchanged : update system.held address new.holds =
      system.held := by
    rw [← heldEq, update_eq_self]
  rw [ContextSystem.replace, setHeld]
  simp only [setContext, setCreations, unchanged]

theorem Formed.replace
    (formed : Formed system)
    (isContext : system.contexts address = some old)
    (whole : new.Whole)
    (sameItem : new.hResItem = old.hResItem)
    (creations : Nat) :
    Formed (system.replace address new creations) := by
  refine ⟨?_, ?_, formed.linkedOnce, ?_, ?_, ?_, formed.itemsOnce, ?_⟩
  · intro other
    rw [replace_isSome isContext]
    exact formed.once other
  · intro other
    rw [replace_isSome isContext]
    exact formed.linked
  · intro other
    by_cases same : other = address
    · rw [same, replace_contexts_self]
      exact update_self ..
    · rw [replace_contexts_of_ne same, ← formed.holds]
      exact update_of_ne same ..
  · intro other otherContext isOther
    by_cases same : other = address
    · rw [same, replace_contexts_self, Option.some.injEq] at isOther
      rw [← isOther, same, sameItem]
      exact ⟨whole, (formed.whole isContext).2⟩
    · rw [replace_contexts_of_ne same] at isOther
      exact formed.whole isOther
  · intro record member
    obtain ⟨pBMContext, isOther, hResItem⟩ := formed.itemLive member
    by_cases same : record.context = address
    · rw [same, isContext, Option.some.injEq] at isOther
      rw [same, replace_contexts_self]
      exact ⟨new, rfl, by rw [sameItem, isOther, hResItem]⟩
    · rw [replace_contexts_of_ne same]
      exact ⟨pBMContext, isOther, hResItem⟩
  · intro other isKernel
    have gone := formed.notKernel isKernel
    by_cases same : other = address
    · rw [same, isContext] at gone
      cases gone
    · rw [replace_contexts_of_ne same, gone]

theorem Counted.replace
    (counted : Counted [] system)
    (counts : new.ui32RefCount.toNat = creations ∧ 0 < creations) :
    Counted [] (system.replace address new creations) := by
  refine ⟨?_, (fun member => nomatch member), ?_, nodup_nil⟩
  · intro other otherContext isOther _
    by_cases same : other = address
    · rw [same, replace_contexts_self, Option.some.injEq] at isOther
      rw [← isOther, same, replace_creations_self]
      exact counts
    · rw [replace_contexts_of_ne same] at isOther
      rw [replace_creations_of_ne same]
      exact counted.counts isOther not_mem_nil
  · intro other gone
    by_cases same : other = address
    · rw [same, replace_contexts_self] at gone
      cases gone
    · rw [replace_contexts_of_ne same] at gone
      rw [replace_creations_of_ne same, counted.ended gone]

/-- The last creation of a context is not outstanding any more. -/
theorem Counted.replace_last
    (counted : Counted [] system)
    (address : Nat)
    (new : ContextRecord) :
    Counted [address] (system.replace address new 0) := by
  refine ⟨?_, ?_, ?_, List.nodup_singleton _⟩
  · intro other otherContext isOther notPending
    rw [List.mem_singleton] at notPending
    rw [replace_contexts_of_ne notPending] at isOther
    rw [replace_creations_of_ne notPending]
    exact counted.counts isOther not_mem_nil
  · intro other isPending
    rw [List.mem_singleton.mp isPending]
    exact update_self ..
  · intro other gone
    by_cases same : other = address
    · rw [same, replace_contexts_self] at gone
      cases gone
    · rw [replace_contexts_of_ne same] at gone
      rw [replace_creations_of_ne same, counted.ended gone]

end Replace

/-- The heaps of a context may change as they like. -/
theorem useHeaps_spec
    {psBMHeap : List Contexts.BmHeap}
    (invariant : Invariant system)
    (valid : (ContextCall.useHeaps address psBMHeap).Valid system) :
    ∃ after,
      (ContextCall.useHeaps address psBMHeap).run fuel system =
          some after ∧ Invariant after := by
  obtain ⟨formed, counted⟩ := invariant
  obtain ⟨pBMContext, isContext⟩ := isSome_iff_exists.mp valid
  obtain ⟨heaps, hash, mmu, inList⟩ := (formed.whole isContext).1
  have counts := counted.counts isContext not_mem_nil
  let used : ContextRecord := { pBMContext with psBMHeap := psBMHeap }
  have whole : used.Whole := ⟨heaps, hash, mmu, inList⟩
  refine ⟨system.replace address used (system.creations address), ?_,
    formed.replace isContext whole rfl _, counted.replace counts⟩
  have heldEq : system.held address = pBMContext.holds := by
    rw [formed.holds, isContext]
    rfl
  simp only [run, isContext, map_some, heldEq,
    ContextSystem.replace, setCreations,
    setHeld, setContext, update_eq_self]
  rfl

/-! ## Destroying a context -/

/-- The context with one reference less. -/
def ContextRecord.dropped (pBMContext : ContextRecord) : ContextRecord :=
  { pBMContext with ui32RefCount := pBMContext.ui32RefCount - 1 }

section Destroy

variable {fuel address : Nat} {system : ContextSystem}
  {pBMContext : ContextRecord}

theorem dropped_eq_zero :
    pBMContext.dropped.ui32RefCount = 0 ↔ pBMContext.ui32RefCount = 1 :=
  sub_eq_zero

theorem dropped_toNat
    (positive : 0 < pBMContext.ui32RefCount.toNat) :
    pBMContext.dropped.ui32RefCount.toNat =
      pBMContext.ui32RefCount.toNat - 1 := by
  rw [ContextRecord.dropped]
  bv_omega

theorem Formed.drop
    (formed : Formed system)
    (isContext : system.contexts address = some pBMContext) :
    Formed (system.setContext address pBMContext.dropped) := by
  obtain ⟨heaps, hash, mmu, inList⟩ := (formed.whole isContext).1
  have whole : pBMContext.dropped.Whole := ⟨heaps, hash, mmu, inList⟩
  have stored := formed.replace isContext whole rfl (system.creations address)
  have storing :
      (system.setContext address pBMContext.dropped).setCreations address
          (system.creations address) =
        system.replace address pBMContext.dropped (system.creations address) :=
    setContext_eq_replace formed isContext pBMContext.dropped rfl _
  rw [← storing] at stored
  simpa only [setCreations, setContext, update_eq_self] using stored

/-- A destroy that is not the last one counts down. -/
theorem bmDestroyContext_shared
    (isContext : system.contexts address = some pBMContext)
    (shared : pBMContext.ui32RefCount ≠ 1) :
    bmDestroyContext fuel address system =
      some (.ok, false, system.setContext address pBMContext.dropped) := by
  have positive : 0 < pBMContext.dropped.ui32RefCount :=
    (BitVec.pos_iff_ne_zero _).mpr (mt dropped_eq_zero.mp shared)
  rw [bmDestroyContext, isContext]
  exact if_pos positive

section

variable (formed : Formed system)
  (isContext : system.contexts address = some pBMContext)
include formed isContext

/-- The last destroy tests the heaps, and frees the item of the context only
if they have no leak. -/
theorem bmDestroyContext_last
    (last : pBMContext.ui32RefCount = 1) :
    bmDestroyContext fuel address system =
      match listBmHeapAny (destroyContextAnyCb fuel) pBMContext.psBMHeap with
      | none => none
      | some .ok =>
        (resManFreeResByPtr pBMContext.hResItem
          (system.setContext address pBMContext.dropped)).map
            fun (eError, system) =>
              if eError ≠ .ok then (eError, false, system)
              else (.ok, true, system)
      | some eError =>
        some (eError, false,
          system.setContext address pBMContext.dropped) := by
  have notPositive : ¬0 < pBMContext.dropped.ui32RefCount := by
    rw [dropped_eq_zero.mpr last]
    decide
  have notFreed : ¬pBMContext.dropped.freedHeaps ≠ 0 :=
    not_not_intro (formed.whole isContext).1.heaps
  rw [bmDestroyContext, isContext]
  exact (if_neg notPositive).trans (if_neg notFreed)

/-- Without a leak the last destroy takes the context down. -/
theorem bmDestroyContext_deletable
    (last : pBMContext.ui32RefCount = 1)
    (deletable : ∀ heap ∈ pBMContext.psBMHeap, Deletable fuel heap) :
    ∃ record ∈ system.items, record.context = address ∧
      bmDestroyContext fuel address system =
        some (.ok, true,
          (system.setContext address pBMContext.dropped).takenDown record)
      := by
  obtain ⟨_, record, member, context, hResItem⟩ := formed.whole isContext
  have allSupported : ∀ heap ∈ pBMContext.psBMHeap, heap.Supported :=
    fun heap inHeaps => (deletable heap inHeaps).1
  have isDropped :
      (system.setContext address pBMContext.dropped).contexts
        record.context = some pBMContext.dropped := by
    rw [context]
    exact update_self ..
  refine ⟨record, member, context, ?_⟩
  rw [bmDestroyContext_last formed isContext last,
    (listBmHeapAny_eq_ok allSupported fuel).mpr deletable, hResItem]
  simp only [resManFreeResByPtr,
    freeResourceByPtr_eq (formed.drop isContext) member isDropped allSupported]
  rfl

/-- A context with a heap of an unsupported backing store loses its item. -/
theorem resManFreeResByPtr_unsupported
    (unsupported : ¬∀ heap ∈ pBMContext.psBMHeap, heap.Supported) :
    ∃ after,
      resManFreeResByPtr pBMContext.hResItem system =
        some (unsupportedBackingStore, after) ∧
          after.items ≠ system.items := by
  obtain ⟨whole, record, member, context, hResItem⟩ := formed.whole isContext
  have failed := deleteHeaps_unsupported unsupported
  have shorter : system.items.erase record ≠ system.items := by
    intro same
    have lengths := congrArg List.length same
    have positive := List.length_pos_of_mem member
    rw [List.length_erase_of_mem member] at lengths
    omega
  rw [hResItem, resManFreeResByPtr, freeResourceByPtr, formed.find_item member]
  simp only [bmDestroyContextCallBack, context, isContext, whole.heaps,
    failed, unsupportedBackingStore, ne_eq, not_true_eq_false, if_false,
    reduceCtorEq, not_false_eq_true, if_true]
  exact ⟨_, rfl, shorter⟩

end

/-- A destroy that is admitted is right. -/
theorem destroyRight_of_admitted
    (invariant : Invariant system)
    (isContext : system.contexts address = some pBMContext)
    (admitted : (ContextCall.destroy address).Admitted fuel system) :
    DestroyRight fuel system address := by
  by_cases last : pBMContext.ui32RefCount = 1
  · obtain ⟨record, _, context, destroyed⟩ :=
      bmDestroyContext_deletable invariant.formed isContext last
        (admitted pBMContext isContext last)
    refine ⟨_, _, _, destroyed, fun failed => absurd rfl failed, fun _ => ?_⟩
    rw [← context, takenDown_contexts_self]
    simp
  · refine ⟨_, _, _, bmDestroyContext_shared isContext last,
      fun failed => absurd rfl failed, fun _ => ?_⟩
    simp [setContext]

/-- A destroy that is not admitted has dropped the count, or the item of the
context, when it fails. -/
theorem admitted_of_destroyRight
    (formed : Formed system)
    (right : DestroyRight fuel system address) :
    (ContextCall.destroy address).Admitted fuel system := by
  intro pBMContext isContext last
  by_contra notDeletable
  obtain ⟨eError, bDestroyed, after, destroyed, unchanged, _⟩ := right
  rw [bmDestroyContext_last formed isContext last] at destroyed
  have counted :
      system.setContext address pBMContext.dropped ≠ system := by
    intro same
    have stored := congrArg (fun system => system.contexts address) same
    simp only [setContext, update_self, isContext, Option.some.injEq] at stored
    have count := dropped_eq_zero.mpr last
    rw [stored, last] at count
    exact absurd count (by decide)
  cases test : listBmHeapAny (destroyContextAnyCb fuel)
      pBMContext.psBMHeap with
  | none => simp [test] at destroyed
  | some tested =>
    by_cases noLeak : tested = .ok
    · have unsupported :
          ¬∀ heap ∈ pBMContext.psBMHeap, heap.Supported := by
        intro allSupported
        refine notDeletable ?_
        rw [← listBmHeapAny_eq_ok allSupported, test, noLeak]
      have isDropped :
          (system.setContext address pBMContext.dropped).contexts address =
            some pBMContext.dropped :=
        update_self ..
      obtain ⟨stopped, freed, itemGone⟩ := resManFreeResByPtr_unsupported
        (formed.drop isContext) isDropped unsupported
      have freedItem : resManFreeResByPtr pBMContext.hResItem
          (system.setContext address pBMContext.dropped) =
            some (unsupportedBackingStore, stopped) := freed
      rw [test, noLeak] at destroyed
      simp only [freedItem, map_some, unsupportedBackingStore,
        ne_eq, reduceCtorEq, not_false_eq_true, if_true,
        Option.some.injEq, Prod.mk.injEq] at destroyed
      obtain ⟨failed, _, isAfter⟩ := destroyed
      have restored := unchanged (by rw [← failed]; simp)
      rw [← isAfter] at restored
      exact itemGone (by rw [restored]; rfl)
    · have stopped : some (tested, false,
          system.setContext address pBMContext.dropped) =
            some (eError, bDestroyed, after) := by
        rw [← destroyed, test]
        cases tested <;> first | exact absurd rfl noLeak | rfl
      simp only [Option.some.injEq, Prod.mk.injEq] at stopped
      obtain ⟨failed, _, isAfter⟩ := stopped
      have restored := unchanged (by rw [← failed]; exact noLeak)
      exact counted (by rw [isAfter, restored])

/-- An admitted destroy keeps the invariant. -/
theorem destroy_spec
    (invariant : Invariant system)
    (valid : (ContextCall.destroy address).Valid system)
    (admitted : (ContextCall.destroy address).Admitted fuel system) :
    ∃ after,
      (ContextCall.destroy address).run fuel system = some after ∧
        Invariant after := by
  obtain ⟨formed, counted⟩ := invariant
  obtain ⟨pBMContext, isContext⟩ := isSome_iff_exists.mp valid
  obtain ⟨count, positive⟩ := counted.counts isContext not_mem_nil
  obtain ⟨heaps, hash, mmu, inList⟩ := (formed.whole isContext).1
  have whole : pBMContext.dropped.Whole := ⟨heaps, hash, mmu, inList⟩
  have droppedCount := dropped_toNat (count ▸ positive)
  have storing : ∀ creations,
      (system.setContext address pBMContext.dropped).setCreations address
          creations =
        system.replace address pBMContext.dropped creations :=
    setContext_eq_replace formed isContext pBMContext.dropped rfl
  have stored : ∀ creations,
      Formed (system.replace address pBMContext.dropped creations) :=
    formed.replace isContext whole rfl
  by_cases last : pBMContext.ui32RefCount = 1
  · obtain ⟨record, member, context, destroyed⟩ :=
      bmDestroyContext_deletable formed isContext last
        (admitted pBMContext isContext last)
    have oneCreation : system.creations address - 1 = 0 := by
      rw [← count, last]
      rfl
    have pending := counted.replace_last address pBMContext.dropped
    rw [← context] at pending
    refine ⟨(system.replace address pBMContext.dropped 0).takenDown record,
      ?_, (stored 0).takenDown member, ?_⟩
    · rw [run, destroyed, ← storing, ← oneCreation]
      rfl
    · rw [← context]
      exact pending.takenDown
  · refine ⟨system.replace address pBMContext.dropped
      (system.creations address - 1), ?_, stored _, counted.replace ?_⟩
    · rw [run, bmDestroyContext_shared isContext last, ← storing]
      rfl
    · have notZero := mt dropped_eq_zero.mp last
      rw [← BitVec.toNat_inj] at notZero
      rw [← count, ← droppedCount]
      exact ⟨rfl, Nat.pos_of_ne_zero notZero⟩

end Destroy

/-! ## Creating a context -/

/-- The system while a new context is being made. -/
def ContextSystem.building
    (system : ContextSystem)
    (address : Nat)
    (pBMContext : ContextRecord) : ContextSystem :=
  { system with
    contexts := Function.update system.contexts address (some pBMContext)
    pBMContext :=
      if pBMContext.ppsThis then address :: system.pBMContext
      else system.pBMContext
    held := Function.update system.held address
      ⟨pBMContext.pBufferHash, pBMContext.psMMUContext, 0⟩
    created := system.created ++ [address] }

/-- The system after a context has been made and taken down. -/
def ContextSystem.gaveUp
    (system : ContextSystem) (address : Nat) : ContextSystem :=
  { system with
    created := system.created ++ [address]
    torn := system.torn ++ [address] }

section Create

variable {fuel process address : Nat} {system : ContextSystem}
  {pBMContext : ContextRecord} {services : CreateServices}

theorem Invariant.gaveUp
    (invariant : Invariant system)
    (address : Nat) :
    Invariant (system.gaveUp address) := by
  obtain ⟨formed, counted⟩ := invariant
  refine ⟨⟨fun other => ?_, formed.linked, formed.linkedOnce, formed.holds,
    formed.whole, formed.itemLive, formed.itemsOnce, formed.notKernel⟩,
    ⟨counted.counts, counted.pendingEnded, counted.ended, counted.pendingOnce⟩⟩
  have before := formed.once other
  simp only [ContextSystem.gaveUp, List.count_append, before]
  exact Nat.add_right_comm ..

/-- A context without heaps is taken down whatever has been set up for it. -/
theorem createCleanup_eq
    (formed : Formed system)
    (notThere : system.contexts address = none)
    (notKernel : system.pBMKernelContext ≠ some address)
    (noHeaps : pBMContext.psBMHeap = [])
    (noFreed : pBMContext.freedHeaps = 0) :
    createCleanup address (system.building address pBMContext) =
      some (none, system.gaveUp address) := by
  have heldEq : system.held address = nothing := by
    rw [formed.holds, notThere]
    rfl
  have contextsEq :
      update system.contexts address none = system.contexts := by
    rw [← notThere, update_eq_self]
  have restored :
      update system.held address nothing = system.held := by
    rw [← heldEq, update_eq_self]
  unfold nothing at restored
  cases inList : pBMContext.ppsThis with
  | false | true =>
    simp [createCleanup, bmDestroyContextCallBack,
      ContextSystem.building, ContextSystem.gaveUp, setHeld,
      noHeaps, noFreed, deleteHeaps, notKernel, inList, contextsEq,
      restored]

/-- A context that has been made, before its item is registered. -/
def ContextRecord.made : ContextRecord :=
  { zero with
    pBufferHash := true
    psMMUContext := true
    ppsThis := true
    ui32RefCount := 1 }

/-- The system after the creation of a new context. -/
def ContextSystem.withNew
    (system : ContextSystem) (process address item : Nat) : ContextSystem :=
  { system.building address
      { ContextRecord.made with hResItem := some item } with
    items := ⟨item, process, address⟩ :: system.items }

/-- A new context is made whole, or it is taken down again. -/
theorem newContext_cases
    (formed : Formed system)
    (notThere : system.contexts address = none)
    (notKernel : system.pBMKernelContext ≠ some address)
    (process : Nat)
    (services : CreateServices) :
    newContext process services address system =
        some (none, system.gaveUp address) ∨
      ∃ item ∈ services.hResItem,
        newContext process services address system =
          some (some address, system.withNew process address item) := by
  have heldEq : system.held address = nothing := by
    rw [formed.holds, notThere]
    rfl
  have cleanup : ∀ pBMContext : ContextRecord, pBMContext.psBMHeap = [] →
      pBMContext.freedHeaps = 0 →
        createCleanup address (system.building address pBMContext) =
          some (none, system.gaveUp address) := fun pBMContext =>
    createCleanup_eq formed notThere notKernel
  have blank : { system.setContext address zero with
      created := system.created ++ [address] } =
        system.building address zero := by
    have unchanged : update system.held address ⟨false, false, 0⟩ =
        system.held := by
      rw [← nothing, ← heldEq, update_eq_self]
    simp [ContextSystem.building, setContext, zero, unchanged]
  have stored : ∀ first second : ContextRecord, first.ppsThis = false →
      second.ppsThis = false →
        ((system.building address first).setContext address second).setHeld
            address ⟨second.pBufferHash, second.psMMUContext, 0⟩ =
          system.building address second := by
    intro first second firstOut secondOut
    simp [ContextSystem.building, setContext, setHeld, firstOut, secondOut]
  have hashed :
      ((system.building address zero).setContext address
          { zero with pBufferHash := true }).setHeld address
            { nothing with pBufferHash := true } =
        system.building address { zero with pBufferHash := true } :=
    stored zero { zero with pBufferHash := true } rfl rfl
  have mapped :
      ((system.building address
          { zero with pBufferHash := true }).setContext address
            { zero with
              pBufferHash := true, psMMUContext := true }).setHeld address
                { nothing with
                  pBufferHash := true, psMMUContext := true } =
        system.building address
          { zero with
            pBufferHash := true, psMMUContext := true } :=
    stored { zero with pBufferHash := true }
      { zero with
        pBufferHash := true, psMMUContext := true } rfl rfl
  simp only [newContext, blank, hashed, mapped]
  cases hash : services.hashCreate with
  | false => exact Or.inl (cleanup zero rfl rfl)
  | true =>
  cases mmu : services.mmuInitialise with
  | false => exact Or.inl (cleanup { zero with pBufferHash := true } rfl rfl)
  | true =>
  by_cases noKernel : system.pBMKernelContext = none
  · simp only [noKernel, Bool.not_true, Bool.false_eq_true, if_false, if_true]
    exact Or.inl (cleanup
      { zero with
        pBufferHash := true, psMMUContext := true } rfl rfl)
  · have linked : { (system.building address
          { zero with
            pBufferHash := true, psMMUContext := true }).setContext address
              ContextRecord.made with
          pBMContext := address :: system.pBMContext } =
        system.building address ContextRecord.made := by
      simp [ContextSystem.building, setContext, ContextRecord.made, zero]
    cases registered : services.hResItem with
    | none =>
      refine Or.inl (Eq.trans ?_ (cleanup ContextRecord.made rfl rfl))
      simp only [noKernel, Bool.not_true, Bool.false_eq_true, if_false]
      exact congrArg (createCleanup address) linked
    | some item =>
      refine Or.inr ⟨item, rfl, ?_⟩
      simp only [noKernel, Bool.not_true, Bool.false_eq_true, if_false]
      rw [ContextSystem.withNew]
      simp [ContextSystem.building, setContext, ContextRecord.made, zero]

theorem withNew_contexts_self
    (system : ContextSystem)
    (process address item : Nat) :
    (system.withNew process address item).contexts address =
      some { ContextRecord.made with hResItem := some item } :=
  update_self ..

theorem withNew_contexts_of_ne
    {other : Nat}
    (differs : other ≠ address)
    (system : ContextSystem)
    (process item : Nat) :
    (system.withNew process address item).contexts other =
      system.contexts other :=
  update_of_ne differs ..

theorem Formed.withNew
    {item : Nat}
    (formed : Formed system)
    (notThere : system.contexts address = none)
    (notKernel : system.pBMKernelContext ≠ some address)
    (fresh : ∀ record ∈ system.items, record.item ≠ item)
    (process : Nat) :
    Formed (system.withNew process address item) := by
  have self := withNew_contexts_self system process address item
  have frame : ∀ other, other ≠ address →
      (system.withNew process address item).contexts other =
        system.contexts other :=
    fun other differs => withNew_contexts_of_ne differs system process item
  have notLinked : address ∉ system.pBMContext := by
    rw [formed.linked, notThere]
    simp
  have linkedEq : (system.withNew process address item).pBMContext =
      address :: system.pBMContext :=
    rfl
  refine ⟨?_, ?_, ?_, ?_, ?_, ?_, ?_, ?_⟩
  · intro other
    have before := formed.once other
    by_cases same : other = address
    · rw [same, self]
      rw [same, notThere] at before
      simpa [ContextSystem.withNew, ContextSystem.building] using before
    · rw [frame other same]
      simpa [ContextSystem.withNew, ContextSystem.building, Ne.symm same]
        using before
  · intro other
    rw [linkedEq, mem_cons]
    by_cases same : other = address
    · rw [same, self]
      simp
    · rw [frame other same, ← formed.linked]
      simp [same]
  · rw [linkedEq]
    exact nodup_cons.mpr ⟨notLinked, formed.linkedOnce⟩
  · intro other
    by_cases same : other = address
    · rw [same, self]
      exact update_self ..
    · rw [frame other same, ← formed.holds]
      exact update_of_ne same ..
  · intro other pBMContext isContext
    by_cases same : other = address
    · rw [same, self, Option.some.injEq] at isContext
      rw [← isContext, same]
      exact ⟨⟨rfl, rfl, rfl, rfl⟩, ⟨item, process, address⟩,
        List.mem_cons_self, rfl, rfl⟩
    · rw [frame other same] at isContext
      obtain ⟨whole, record, member, owner⟩ := formed.whole isContext
      exact ⟨whole, record, List.mem_cons_of_mem _ member, owner⟩
  · intro record member
    rcases mem_cons.mp member with isNew | old
    · rw [isNew]
      exact ⟨_, self, rfl⟩
    · obtain ⟨pBMContext, isContext, hResItem⟩ := formed.itemLive old
      have differs : record.context ≠ address := by
        intro same
        rw [same, notThere] at isContext
        cases isContext
      rw [frame _ differs]
      exact ⟨pBMContext, isContext, hResItem⟩
  · refine nodup_cons.mpr ⟨?_, formed.itemsOnce⟩
    intro isOld
    obtain ⟨record, member, same⟩ := List.mem_map.mp isOld
    exact fresh record member same
  · intro other isKernel
    have differs : other ≠ address := by
      rintro rfl
      exact notKernel isKernel
    rw [frame other differs]
    exact formed.notKernel isKernel

theorem Counted.withNew
    (counted : Counted [] system)
    (notThere : system.contexts address = none)
    (process item : Nat) :
    Counted [] ((system.withNew process address item).setCreations address
      (system.creations address + 1)) := by
  refine ⟨?_, (fun member => nomatch member), ?_, nodup_nil⟩
  · intro other pBMContext isContext _
    change (system.withNew process address item).contexts other = _
      at isContext
    by_cases same : other = address
    · rw [same, withNew_contexts_self, Option.some.injEq] at isContext
      rw [← isContext, same]
      simp [setCreations, ContextRecord.made, counted.ended notThere]
    · rw [withNew_contexts_of_ne same] at isContext
      simpa [setCreations, same, ContextSystem.withNew,
        ContextSystem.building] using counted.counts isContext not_mem_nil
  · intro other gone
    change (system.withNew process address item).contexts other = _ at gone
    by_cases same : other = address
    · rw [same, withNew_contexts_self] at gone
      cases gone
    · rw [withNew_contexts_of_ne same] at gone
      simpa [setCreations, same, ContextSystem.withNew,
        ContextSystem.building] using counted.ended gone

/-- The search goes through contexts that are there. -/
theorem findContext_live
    {addresses : List Nat}
    (live : ∀ address ∈ addresses, (system.contexts address).isSome)
    (process : Nat) :
    ∃ found, findContext process system addresses = some found ∧
      ∀ address ∈ found, address ∈ addresses := by
  induction addresses with
  | nil => exact ⟨none, rfl, by simp⟩
  | cons first rest ih =>
    rw [forall_mem_cons] at live
    obtain ⟨pBMContext, isContext⟩ := isSome_iff_exists.mp live.1
    rw [findContext, isContext]
    by_cases owned : ownsItem process pBMContext.hResItem system
    · exact ⟨some first, if_pos owned, by simp⟩
    · obtain ⟨found, search, member⟩ := ih live.2
      exact ⟨found, (if_neg owned).trans search, fun address isFound =>
        List.mem_cons_of_mem _ (member address isFound)⟩

/-- A creation keeps the invariant. -/
theorem create_spec
    (invariant : Invariant system)
    (valid : (ContextCall.create process services).Valid system)
    (admitted : (ContextCall.create process services).Admitted fuel system) :
    ∃ after,
      (ContextCall.create process services).run fuel system = some after ∧
        Invariant after := by
  obtain ⟨formed, counted⟩ := invariant
  obtain ⟨found, search, member⟩ := findContext_live
    (fun _ isLinked => formed.linked.mp isLinked) process
  cases found with
  | some address =>
    obtain ⟨pBMContext, isContext⟩ := isSome_iff_exists.mp
      (formed.linked.mp (member address rfl))
    have noWrap := admitted address pBMContext search isContext
    obtain ⟨count, _⟩ := counted.counts isContext not_mem_nil
    obtain ⟨heaps, hash, mmu, inList⟩ := (formed.whole isContext).1
    let again : ContextRecord := { pBMContext with
      ui32RefCount := pBMContext.ui32RefCount + 1 }
    have whole : again.Whole := ⟨heaps, hash, mmu, inList⟩
    have stored := setContext_eq_replace formed isContext again rfl
      (system.creations address + 1)
    have countAgain :
        again.ui32RefCount.toNat = system.creations address + 1 := by
      change (pBMContext.ui32RefCount + 1).toNat = _
      rw [← count]
      bv_omega
    refine ⟨system.replace address again (system.creations address + 1),
      ?_, formed.replace isContext whole rfl _,
      counted.replace ⟨countAgain, Nat.succ_pos _⟩⟩
    rw [← stored]
    simp only [run, bmCreateContext, search, isContext, map_some]
    rfl
  | none =>
    cases allocated : services.psContext with
    | none =>
      refine ⟨system, ?_, formed, counted⟩
      simp only [run, bmCreateContext, search, allocated, map_some]
    | some address =>
      obtain ⟨notThere, notKernel⟩ := valid.1 address allocated
      rcases newContext_cases formed notThere notKernel process services
        with
        failed | ⟨item, registered, made⟩
      · refine ⟨system.gaveUp address, ?_,
          Invariant.gaveUp ⟨formed, counted⟩ address⟩
        simp only [run, bmCreateContext, search, allocated, failed, map_some]
      · have formedNew := formed.withNew notThere notKernel
          (valid.2 item registered) process
        refine ⟨(system.withNew process address item).setCreations
            address (system.creations address + 1), ?_,
          ⟨formedNew.once, formedNew.linked, formedNew.linkedOnce,
            formedNew.holds, formedNew.whole, formedNew.itemLive,
            formedNew.itemsOnce, formedNew.notKernel⟩,
          counted.withNew notThere process item⟩
        simp only [run, bmCreateContext, search, allocated, made, map_some]
        rfl

end Create

/-! ## Runs -/

/-- An admitted call returns and keeps the invariant. -/
theorem run_spec
    {call : ContextCall}
    (invariant : Invariant system)
    (valid : call.Valid system)
    (admitted : call.Admitted fuel system) :
    ∃ after, call.run fuel system = some after ∧ Invariant after := by
  cases call with
  | create process services => exact create_spec invariant valid admitted
  | destroy address => exact destroy_spec invariant valid admitted
  | useHeaps address psBMHeap => exact useHeaps_spec invariant valid
  | processEnds process => exact processEnds_spec invariant admitted

theorem Reached.invariant
    (reached : Reached fuel (ContextCall.Admitted fuel) system) :
    Invariant system := by
  induction reached with
  | initial pBMKernelContext => exact Invariant.initial pBMKernelContext
  | call _ valid admitted runs ih =>
    obtain ⟨after, returned, invariant⟩ := run_spec ih valid admitted
    rw [returned, Option.some.injEq] at runs
    rw [← runs]
    exact invariant

/-- In every run of admitted calls the count of a context is the number of its
outstanding creations and it is taken down once, when there are none left; and
a destroy is right just when it is admitted. -/
theorem refCount_sound
    (fuel : Nat)
    (system : ContextSystem)
    (reached : Reached fuel (ContextCall.Admitted fuel) system) :
    Sound system ∧
      (∀ call : ContextCall, call.Valid system →
        call.Admitted fuel system → (call.run fuel system).isSome) ∧
        ∀ address pBMContext, system.contexts address = some pBMContext →
          (DestroyRight fuel system address ↔
            (ContextCall.destroy address).Admitted fuel system) := by
  have invariant := reached.invariant
  refine ⟨invariant.sound, ?_, ?_⟩
  · intro call valid admitted
    obtain ⟨after, returned, _⟩ := run_spec invariant valid admitted
    rw [returned]
    rfl
  · intro address pBMContext isContext
    exact ⟨admitted_of_destroyRight invariant.formed,
      destroyRight_of_admitted invariant isContext⟩

/-- Everything that a creation asks for is there. -/
def willing : CreateServices := ⟨some 0x1000, true, true, some 7⟩

/-- A process creates a context. -/
def oneCreation : ContextCall := .create 1 willing

/-- The system after the creation. -/
def createdOnce : ContextSystem :=
  (oneCreation.run 1 (ContextSystem.initial (some 0))).getD
    (ContextSystem.initial (some 0))

theorem oneCreation_valid :
    oneCreation.Valid (ContextSystem.initial (some 0)) := by
  refine ⟨?_, ?_⟩
  · rintro address ⟨⟩
    exact ⟨rfl, by decide⟩
  · intro item _ record member
    cases member

theorem createdOnce_reached
    (admits : ContextSystem → ContextCall → Prop)
    (admitted : admits (ContextSystem.initial (some 0)) oneCreation) :
    Reached 1 admits createdOnce :=
  Reached.call (Reached.initial (some 0)) oneCreation_valid admitted rfl

theorem refCount_sound_created :
    createdOnce.creations 0x1000 = 1 ∧ Sound createdOnce := by
  have admitted : oneCreation.Admitted 1
      (ContextSystem.initial (some 0)) := by
    intro address pBMContext search
    cases search
  exact ⟨rfl, (refCount_sound 1 createdOnce
    (createdOnce_reached _ admitted)).1⟩

/-- An allocation is live in the heap of the context. -/
def leaking : ContextCall :=
  .useHeaps 0x1000
    [⟨pvrsrvBackingstoreSysmemNoncontig, some Arena.allocatedArena⟩]

/-- The system with a live allocation. -/
def leakingOnce : ContextSystem :=
  (leaking.run 1 createdOnce).getD createdOnce

/-- The destroy of a context with a leak fails and has dropped the count, so
that the context is there with no reference and one creation outstanding. -/
theorem refCount_unsound :
    ¬∀ fuel system, Reached fuel (fun _ _ => True) system →
      Sound system ∧
        ∀ address pBMContext, system.contexts address = some pBMContext →
          DestroyRight fuel system address := by
  intro allSound
  have reached := createdOnce_reached (fun _ _ => True) trivial
  have used : leaking.Valid createdOnce := rfl
  have leaked : Reached 1 (fun _ _ => True) leakingOnce :=
    Reached.call reached used trivial rfl
  have destroyed : (ContextCall.destroy 0x1000).Valid leakingOnce := rfl
  have failed : Reached 1 (fun _ _ => True)
      (((ContextCall.destroy 0x1000).run 1 leakingOnce).getD leakingOnce) :=
    Reached.call leaked destroyed trivial rfl
  obtain ⟨count, _⟩ := (allSound 1 _ failed).1.counts 0x1000 _ rfl
  exact absurd count (by decide)

end PvrServices.BufferManager.ContextCounts
