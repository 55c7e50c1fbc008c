import PvrServices.Resman.Base

/-!
# What the resource manager holds

A registry lists the contexts and, for each of them, the registered items with
the last one registered in front.  The lists in memory represent a registry,
and each function of the resource manager changes it as its name says.
-/

namespace PvrServices.Resman

open Function (update update_apply update_of_ne update_self)
open IntrusiveList
open List (map_append map_cons mem_cons mem_map mem_map_of_mem not_mem_nil)

/-! ## Registries -/

/-- A registered item. -/
structure Entry where
  address : Address
  item : ResmanItem
deriving DecidableEq

/-- The contexts, last connected first, and the items of each, last registered
first. -/
structure Registry where
  lists : Address → Option (List Entry)
  contexts : List Address

namespace Registry

/-- No context is connected. -/
def empty : Registry where
  lists := fun _ => none
  contexts := []

/-- Change the items of a context. -/
def setEntries (registry : Registry) (context : Address)
    (entries : List Entry) : Registry :=
  { registry with
    lists := Function.update registry.lists context (some entries) }

/-- Add a context without items. -/
def connect (registry : Registry) (context : Address) : Registry where
  lists := Function.update registry.lists context (some [])
  contexts := context :: registry.contexts

/-- Take a context away. -/
def disconnect (registry : Registry) (context : Address) : Registry where
  lists := Function.update registry.lists context none
  contexts := registry.contexts.erase context

/-- The addresses of the items of a context. -/
def addresses (registry : Registry) (context : Address) :
    Option (List Address) :=
  (registry.lists context).map (List.map Entry.address)

variable (registry : Registry)

@[simp] theorem setEntries_self
    (context : Address)
    (entries : List Entry) :
    (registry.setEntries context entries).lists context = some entries :=
  update_self context _ _

@[simp] theorem setEntries_setEntries
    (context : Address)
    (first second : List Entry) :
    (registry.setEntries context first).setEntries context second =
      registry.setEntries context second := by
  simp only [setEntries, Function.update_idem]

theorem setEntries_same
    {registry : Registry}
    {context : Address}
    {entries : List Entry}
    (owned : registry.lists context = some entries) :
    registry.setEntries context entries = registry := by
  rw [setEntries, ← owned, Function.update_eq_self]

theorem addresses_update
    (lists : Address → Option (List Entry))
    (contexts others : List Address)
    (context : Address)
    (entries : Option (List Entry)) :
    (Registry.mk (update lists context entries) contexts).addresses =
      update (Registry.mk lists others).addresses context
        (entries.map (List.map Entry.address)) := by
  funext other
  simp only [addresses, update_apply]
  split_ifs <;> rfl

theorem addresses_setEntries
    (context : Address)
    (entries : List Entry) :
    (registry.setEntries context entries).addresses =
      update registry.addresses context (some (entries.map Entry.address)) :=
  addresses_update registry.lists registry.contexts registry.contexts context
    (some entries)

end Registry

/-! ## Representation -/

/-- The memory holds the lists of the registry. -/
structure Represents (state : ResmanState) (registry : Registry) : Prop where
  itemLinks : state.itemLinks.Holds registry.addresses
  contextLinks : state.contextLinks.Holds fun _ => some registry.contexts
  connected : ∀ context,
    (state.contexts context).isSome = (registry.lists context).isSome
  listed : ∀ context,
    context ∈ registry.contexts ↔ (registry.lists context).isSome
  items : ∀ context entries, registry.lists context = some entries →
    ∀ entry ∈ entries, state.items entry.address = some entry.item

variable {state after : ResmanState} {registry : Registry} {context : Address}
  {entries others : List Entry} {entry : Entry}

theorem Represents.addresses
    (owned : registry.lists context = some entries) :
    registry.addresses context = some (entries.map Entry.address) := by
  rw [Registry.addresses, owned, Option.map_some]

section

variable (represents : Represents state registry)
include represents

theorem Represents.nodup
    (owned : registry.lists context = some entries) :
    (entries.map Entry.address).Nodup :=
  represents.itemLinks.nodup context _ (Represents.addresses owned)

/-- Items of other contexts have other addresses. -/
theorem Represents.apart
    (owned : registry.lists context = some entries)
    {other : Address}
    (ownedOther : registry.lists other = some others)
    {entryOther : Entry}
    (member : entry ∈ entries)
    (memberOther : entryOther ∈ others)
    (same : entry.address = entryOther.address) :
    context = other :=
  represents.itemLinks.apart context _ other _ (Represents.addresses owned)
    (Represents.addresses ownedOther) entry.address
    (mem_map_of_mem member)
    (same ▸ mem_map_of_mem memberOther)

/-- The context is live. -/
theorem Represents.live
    (owned : registry.lists context = some entries) :
    ∃ psPerProc, state.contexts context = some psPerProc := by
  have connected := represents.connected context
  rw [owned] at connected
  exact Option.isSome_iff_exists.mp connected

end

/-- `ResManInit` holds an empty registry. -/
theorem represents_resManInit
    (contextLinks : Memory Unit Address)
    (itemLinks : Memory Address Address) :
    Represents (resManInit contextLinks itemLinks) Registry.empty := by
  constructor
  · exact ⟨nofun, nofun, nofun⟩
  · constructor
    · rintro owner nodes owned
      rw [← Option.some.inj owned]
      rfl
    · rintro owner nodes owned
      rw [← Option.some.inj owned]
      exact List.nodup_nil
    · intro owner _ other _ _ _ _ _ _
      rfl
  · exact fun _ => rfl
  · exact fun _ => ⟨fun member => absurd member not_mem_nil, nofun⟩
  · exact nofun

/-! ## Connecting and registering -/

section

variable (represents : Represents state registry)
include represents

/-- `PVRSRVResManConnect` adds a context without items. -/
theorem Represents.connect
    {hPerProc psResManContext : Address}
    {eError : PvrsrvError}
    {after : ResmanState}
    (result : pvrsrvResManConnect state hPerProc (some psResManContext) =
      some (eError, after)) :
    Represents after (registry.connect psResManContext) := by
  rw [pvrsrvResManConnect, Option.ite_none_left_eq_some] at result
  obtain ⟨unused, result⟩ := result
  obtain ⟨-, rfl⟩ := Prod.mk.inj (Option.some.inj result)
  have unlisted : registry.lists psResManContext = none := by
    rw [Bool.not_eq_true, represents.connected] at unused
    exact Option.isNone_iff_eq_none.mp (Option.isSome_eq_false_iff.mp unused)
  constructor
  · rw [Registry.connect, Registry.addresses_update _ _ registry.contexts]
    apply represents.itemLinks.update
    · exact update_self _ _ _
    · exact List.nodup_nil
    · intro _ _ _ _ _ _
      exact not_mem_nil
    · intro other notContext
      exact update_of_ne notContext _ _
    · intro _ _ _ _ _ _
      exact ⟨rfl, rfl⟩
  · have fresh : ∀ (other : Unit) others,
        some registry.contexts = some others → psResManContext ∉ others := by
      intro _ others isContexts member
      rw [← Option.some.inj isContexts, represents.listed, unlisted] at member
      exact Bool.noConfusion member
    have same : (fun _ : Unit => some (psResManContext :: registry.contexts)) =
        update (fun _ => some registry.contexts) ()
          (some (psResManContext :: registry.contexts)) := by
      funext owner
      rw [update_apply, if_pos rfl]
    simp only [Registry.connect]
    rw [same]
    exact represents.contextLinks.insert rfl fresh
  · intro other
    simp only [Registry.connect, update_apply]
    split_ifs
    · rfl
    · exact represents.connected other
  · intro other
    simp only [Registry.connect, update_apply, mem_cons]
    split_ifs with isContext
    · exact ⟨fun _ => rfl, fun _ => Or.inl isContext⟩
    · rw [← represents.listed]
      exact ⟨fun member => member.resolve_left isContext, Or.inr⟩
  · intro other entries owned entry member
    simp only [Registry.connect, update_apply] at owned
    split_ifs at owned
    · rw [← Option.some.inj owned] at member
      exact absurd member not_mem_nil
    · exact represents.items other entries owned entry member

/-- Changing the items of one context. -/
theorem Represents.setEntries
    (owned : registry.lists context = some entries)
    {changed : List Entry}
    (itemLinks : after.itemLinks.Holds
      (registry.setEntries context changed).addresses)
    (contextLinks : after.contextLinks = state.contextLinks)
    (contexts : after.contexts = state.contexts)
    (changedItems : ∀ entry ∈ changed,
      after.items entry.address = some entry.item)
    (otherItems : ∀ other others, other ≠ context →
      registry.lists other = some others → ∀ entry ∈ others,
      after.items entry.address = state.items entry.address) :
    Represents after (registry.setEntries context changed) := by
  have sameSome : ∀ other,
      ((registry.setEntries context changed).lists other).isSome =
        (registry.lists other).isSome := by
    intro other
    simp only [Registry.setEntries, update_apply]
    split_ifs with isContext
    · rw [isContext, owned]
      rfl
    · rfl
  constructor
  · exact itemLinks
  · rw [contextLinks]
    exact represents.contextLinks
  · intro other
    rw [contexts, sameSome]
    exact represents.connected other
  · intro other
    rw [sameSome]
    exact represents.listed other
  · intro other others ownedOther entry member
    simp only [Registry.setEntries, update_apply] at ownedOther
    split_ifs at ownedOther with isContext
    · rw [← Option.some.inj ownedOther] at member
      exact changedItems entry member
    · rw [otherItems other others isContext ownedOther entry member]
      exact represents.items other others ownedOther entry member

/-- `ResManRegisterRes` puts the new item in front. -/
theorem Represents.register
    (owned : registry.lists context = some entries)
    {ui32ResType ui32Param : BitVec 32}
    {pvParam pfnFreeResource : BitVec 64}
    {psNewResItem : Address}
    {returned : Option Address}
    {after : ResmanState}
    (result : resManRegisterRes state (some context) ui32ResType pvParam
      ui32Param pfnFreeResource (some psNewResItem) = some (returned, after)) :
    Represents after (registry.setEntries context
      (⟨psNewResItem, ⟨0, ui32ResType, pvParam, ui32Param,
        pfnFreeResource⟩⟩ :: entries)) := by
  obtain ⟨psPerProc, live⟩ := represents.live owned
  simp only [resManRegisterRes, live, Option.bind_eq_bind,
    Option.bind_some, Option.ite_none_left_eq_some] at result
  obtain ⟨unused, result⟩ := result
  obtain ⟨-, rfl⟩ := Prod.mk.inj (Option.some.inj result)
  have fresh : ∀ other others, registry.lists other = some others →
      ∀ entry ∈ others, entry.address ≠ psNewResItem := by
    rintro other others ownedOther entry member rfl
    rw [represents.items other others ownedOther entry member] at unused
    exact unused rfl
  refine represents.setEntries owned ?_ rfl rfl ?_ ?_
  · rw [Registry.addresses_setEntries, map_cons]
    apply represents.itemLinks.insert (Represents.addresses owned)
    intro other nodes ownedNodes member
    obtain ⟨others, ownedOther, rfl⟩ := Option.map_eq_some_iff.mp ownedNodes
    obtain ⟨entry, inOthers, isNew⟩ := mem_map.mp member
    exact fresh other others ownedOther entry inOthers isNew
  · intro entry member
    rcases mem_cons.mp member with rfl | inEntries
    · exact update_self _ _ _
    · refine (update_of_ne ?_ _ _).trans
        (represents.items context entries owned entry inEntries)
      exact fresh context entries owned entry inEntries
  · intro other others _ ownedOther entry member
    exact update_of_ne (fresh other others ownedOther entry member) _ _

end

/-! ## Freeing one item -/

/-- The call of the callback of a registered item. -/
def Entry.call (entry : Entry) (bForceCleanup : Bool) : FreeCall where
  psItem := entry.address
  pfnFreeResource := entry.item.pfnFreeResource
  pvParam := entry.item.pvParam
  ui32Param := entry.item.ui32Param
  bForceCleanup := bForceCleanup

theorem map_address_erase
    (distinct : (entries.map Entry.address).Nodup)
    (member : entry ∈ entries) :
    (entries.erase entry).map Entry.address =
      (entries.map Entry.address).erase entry.address := by
  obtain ⟨front, back, rfl⟩ := List.append_of_mem member
  rw [map_append, map_cons, List.nodup_append] at distinct
  have notAddress : entry.address ∉ front.map Entry.address := by
    intro inFront
    exact distinct.2.2 _ inFront _ List.mem_cons_self rfl
  have notFront : entry ∉ front := fun inFront =>
    notAddress (mem_map_of_mem inFront)
  rw [List.erase_append_right _ notFront, List.erase_cons_head,
    map_append, map_append, map_cons,
    List.erase_append_right _ notAddress, List.erase_cons_head]

/-- Only the links, the contexts and the listed items matter. -/
theorem Represents.congr
    (represents : Represents state registry)
    (itemLinks : after.itemLinks = state.itemLinks)
    (contextLinks : after.contextLinks = state.contextLinks)
    (contexts : after.contexts = state.contexts)
    (items : ∀ context entries, registry.lists context = some entries →
      ∀ entry ∈ entries,
        after.items entry.address = state.items entry.address) :
    Represents after registry := by
  constructor
  · rw [itemLinks]
    exact represents.itemLinks
  · rw [contextLinks]
    exact represents.contextLinks
  · rw [contexts]
    exact represents.connected
  · exact represents.listed
  · intro context entries owned entry member
    rw [items context entries owned entry member]
    exact represents.items context entries owned entry member

section

variable (represents : Represents state registry)
  (owned : registry.lists context = some entries)
include represents owned

section

variable (member : entry ∈ entries)
include member

/-- No list has the address of an item taken out of the one it was in. -/
theorem Represents.unlisted
    {other : Address}
    (ownedOther :
      (registry.setEntries context (entries.erase entry)).lists other =
        some others)
    {entryOther : Entry}
    (memberOther : entryOther ∈ others) :
    entryOther.address ≠ entry.address := by
  intro same
  simp only [Registry.setEntries, update_apply] at ownedOther
  split_ifs at ownedOther with isContext
  · rw [← Option.some.inj ownedOther] at memberOther
    have distinct := represents.nodup owned
    have inErased : entry.address ∈ (entries.map Entry.address).erase
        entry.address := by
      rw [← map_address_erase distinct member, ← same]
      exact mem_map_of_mem memberOther
    exact ((List.Nodup.mem_erase_iff distinct).mp inErased).1 rfl
  · exact isContext (represents.apart ownedOther owned memberOther member same)

/-- `List_RESMAN_ITEM_Remove` takes an item out of its context. -/
theorem Represents.unlink :
    Represents
      { state with itemLinks := state.itemLinks.remove entry.address }
      (registry.setEntries context (entries.erase entry)) := by
  refine represents.setEntries owned ?_ rfl rfl ?_ ?_
  · rw [Registry.addresses_setEntries,
      map_address_erase (represents.nodup owned) member]
    exact represents.itemLinks.remove (Represents.addresses owned)
      (mem_map_of_mem member)
  · intro other memberOther
    exact represents.items context entries owned other
      (List.mem_of_mem_erase memberOther)
  · intro _ _ _ _ _ _
    rfl

/-- `FreeResourceByPtr` unlinks and frees a registered item. -/
theorem Represents.freeResourceByPtr
    (result : Address → PvrsrvError)
    (bExecuteCallback bForceCleanup : Bool) :
    ∃ after,
      freeResourceByPtr result state entry.address bExecuteCallback
          bForceCleanup =
        some (if bExecuteCallback then result entry.address else pvrsrvOk,
          after) ∧
        Represents after (registry.setEntries context (entries.erase entry)) ∧
        after.calls = if bExecuteCallback then
          state.calls ++ [entry.call bForceCleanup] else state.calls := by
  have isItem := represents.items context entries owned entry member
  refine ⟨{ state with
    itemLinks := state.itemLinks.remove entry.address
    calls := if bExecuteCallback then
      state.calls ++ [entry.call bForceCleanup] else state.calls
    items := update state.items entry.address none }, ?_, ?_, rfl⟩
  · rw [Resman.freeResourceByPtr, isItem]
    rfl
  · refine (represents.unlink owned member).congr rfl rfl rfl ?_
    intro other others ownedOther entryOther memberOther
    exact update_of_ne
      (represents.unlisted owned member ownedOther memberOther) _ _

/-- `ResManDissociateRes` moves an item to the front of another context. -/
theorem Represents.dissociate
    {psNewResManContext : Address}
    (ownedNew :
      (registry.setEntries context (entries.erase entry)).lists
        psNewResManContext = some others)
    {result : Address → PvrsrvError}
    {eError : PvrsrvError}
    (returned : resManDissociateRes result state (some entry.address)
      (some psNewResManContext) = some (eError, after)) :
    Represents after
      ((registry.setEntries context (entries.erase entry)).setEntries
        psNewResManContext (entry :: others)) := by
  have unlinked := represents.unlink owned member
  have isItem := represents.items context entries owned entry member
  obtain ⟨psPerProc, live⟩ := unlinked.live ownedNew
  change state.contexts psNewResManContext = some psPerProc at live
  simp only [resManDissociateRes, isItem, live, Option.bind_eq_bind,
    Option.bind_some] at returned
  cases returned
  refine unlinked.setEntries ownedNew ?_ rfl rfl ?_ ?_
  · rw [Registry.addresses_setEntries _ psNewResManContext, map_cons]
    apply unlinked.itemLinks.insert (Represents.addresses ownedNew)
    intro other nodes ownedNodes inNodes
    obtain ⟨_, ownedOther, rfl⟩ := Option.map_eq_some_iff.mp ownedNodes
    obtain ⟨entryOther, memberOther, same⟩ := mem_map.mp inNodes
    exact represents.unlisted owned member ownedOther memberOther same
  · intro entryOther memberOther
    rcases mem_cons.mp memberOther with rfl | inOthers
    · exact isItem
    · exact unlinked.items psNewResManContext others ownedNew entryOther
        inOthers
  · intro _ _ _ _ _ _
    rfl

end

/-- `List_RESMAN_ITEM_Reverse` reverses the items of a context. -/
theorem Represents.reverseItems
    {fuel : Nat}
    (enough : entries.length < fuel) :
    ∃ after, reverseItems fuel context state = some after ∧
      Represents after (registry.setEntries context entries.reverse) ∧
      after.calls = state.calls := by
  obtain ⟨turned, runs, holds⟩ := represents.itemLinks.reverse
    (Represents.addresses owned) (by rwa [List.length_map])
  refine ⟨{ state with itemLinks := turned }, ?_, ?_, rfl⟩
  · rw [Resman.reverseItems, runs, Option.map_some]
  · refine represents.setEntries owned ?_ rfl rfl ?_ ?_
    · rw [Registry.addresses_setEntries, List.map_reverse]
      exact holds
    · intro entry member
      exact represents.items context entries owned entry
        (List.mem_reverse.mp member)
    · intro _ _ _ _ _ _
      rfl

/-- `List_RESMAN_CONTEXT_Remove` and the release of the context. -/
theorem Represents.disconnect :
    Represents
      { state with
        contextLinks := state.contextLinks.remove context
        contexts := update state.contexts context none }
      (registry.disconnect context) := by
  have inContexts : context ∈ registry.contexts := by
    rw [represents.listed, owned]
    rfl
  have distinct := represents.contextLinks.nodup () _ rfl
  constructor
  · rw [Registry.disconnect, Registry.addresses_update _ _ registry.contexts]
    exact represents.itemLinks.forget context
  · have same : (fun _ : Unit => some (registry.contexts.erase context)) =
        update (fun _ => some registry.contexts) ()
          (some (registry.contexts.erase context)) := by
      funext owner
      rw [update_apply, if_pos rfl]
    simp only [Registry.disconnect]
    rw [same]
    exact represents.contextLinks.remove rfl inContexts
  · intro other
    simp only [Registry.disconnect, update_apply]
    split_ifs
    · rfl
    · exact represents.connected other
  · intro other
    simp only [Registry.disconnect, update_apply]
    rw [distinct.mem_erase_iff, represents.listed]
    split_ifs with isContext
    · exact ⟨fun found => absurd isContext found.1, nofun⟩
    · exact ⟨And.right, fun isListed => ⟨isContext, isListed⟩⟩
  · intro other others ownedOther entry member
    simp only [Registry.disconnect, update_apply] at ownedOther
    split_ifs at ownedOther
    exact represents.items other others ownedOther entry member

end

end PvrServices.Resman
