import PvrServices.Resman.Registry

/-!
# The links of items and contexts

Calls on items and contexts are compared with lists of addresses.  In every
state the calls reach, the pointers of each list lead through exactly the
addresses of that list, in its order, and each back pointer is the place that
points to its node.  A free callback may itself call the resource manager, so
the removal of an item and the release of its memory are calls of their own.
-/

namespace PvrServices.Resman

open Function (update update_apply update_of_ne)
open IntrusiveList
open Option (bind_eq_bind bind_some isSome_map map_eq_some_iff map_some)
open Represents (addresses)

/-! ## Calls -/

/-- A call on the lists.  `removeItem` and `freeItem` are the two halves of
`FreeResourceByPtr`, with the callback between them, and `freeContext` is the
end of `PVRSRVResManDisconnect`. -/
inductive ListCall where
  | connect (hPerProc : Address) (allocated : Option Address)
  | registerRes (psResManContext : Option Address) (ui32ResType : BitVec 32)
      (pvParam : BitVec 64) (ui32Param : BitVec 32)
      (pfnFreeResource : BitVec 64) (allocated : Option Address)
  | removeItem (psItem : Address)
  | freeItem (psItem : Address)
  | dissociateRes (psResItem psNewResManContext : Option Address)
  | findResourceByPtr (psResManContext psItem : Option Address)
  | reverse (psResManContext : Address)
  | freeContext (psResManContext : Address)

/-- `FreeResourceByPtr` up to its callback. -/
def removeItem (state : ResmanState) (psItem : Address) :
    Option ResmanState :=
  (state.items psItem).map fun _ =>
    { state with itemLinks := state.itemLinks.remove psItem }

/-- The `OSFreeMem` of `FreeResourceByPtr`. -/
def freeItem (state : ResmanState) (psItem : Address) : Option ResmanState :=
  (state.items psItem).map fun _ =>
    { state with items := Function.update state.items psItem none }

/-- The removal and the release of a context by `PVRSRVResManDisconnect`. -/
def freeContext (state : ResmanState) (psResManContext : Address) :
    Option ResmanState :=
  (state.contexts psResManContext).map fun _ =>
    { state with
      contextLinks := state.contextLinks.remove psResManContext
      contexts := Function.update state.contexts psResManContext none }

/-- A call in memory; its loops have `fuel` steps. -/
def ListCall.perform (fuel : Nat) (state : ResmanState) :
    ListCall → Option ResmanState
  | .connect hPerProc allocated =>
    (pvrsrvResManConnect state hPerProc allocated).map Prod.snd
  | .registerRes psResManContext ui32ResType pvParam ui32Param
      pfnFreeResource allocated =>
    (resManRegisterRes state psResManContext ui32ResType pvParam ui32Param
      pfnFreeResource allocated).map Prod.snd
  | .removeItem psItem => Resman.removeItem state psItem
  | .freeItem psItem => Resman.freeItem state psItem
  | .dissociateRes psResItem psNewResManContext =>
    (resManDissociateRes (fun _ => pvrsrvOk) state psResItem
      psNewResManContext).map Prod.snd
  | .findResourceByPtr psResManContext psItem =>
    (resManFindResourceByPtr fuel state psResManContext psItem).map
      fun _ => state
  | .reverse psResManContext => reverseItems fuel psResManContext state
  | .freeContext psResManContext => Resman.freeContext state psResManContext

/-- `FreeResourceByPtr` removes the item, calls its callback and frees it. -/
theorem freeResourceByPtr_halves
    (result : Address → PvrsrvError)
    (state : ResmanState)
    (psItem : Address)
    (bExecuteCallback bForceCleanup : Bool) :
    (freeResourceByPtr result state psItem bExecuteCallback
        bForceCleanup).map (fun freed => (freed.2.itemLinks, freed.2.items)) =
      ((removeItem state psItem).bind fun removed =>
        (freeItem removed psItem).map fun freed =>
          (freed.itemLinks, freed.items)) := by
  unfold freeResourceByPtr removeItem
  cases isItem : state.items psItem with
  | none => rfl
  | some item => simp [freeItem, isItem]

/-! ## Lists of addresses -/

/-- The items of each context and the contexts, last inserted first, and the
items that have been removed but not freed. -/
structure Lists where
  items : Address → Option (List Address)
  contexts : List Address
  unlinked : List Address

namespace Lists

/-- Nothing has been inserted. -/
def empty : Lists where
  items := fun _ => none
  contexts := []
  unlinked := []

/-- The item is in a list. -/
def Has (lists : Lists) (psItem : Address) : Prop :=
  ∃ context nodes, lists.items context = some nodes ∧ psItem ∈ nodes

/-- The list of a context is shorter than this. -/
def Shorter (lists : Lists) (context : Address) (bound : Nat) : Prop :=
  ∃ nodes, lists.items context = some nodes ∧ nodes.length < bound

/-- Change the items of a context. -/
def modify (lists : Lists) (context : Address)
    (change : List Address → List Address) : Lists :=
  { lists with
    items := Function.update lists.items context
      ((lists.items context).map change) }

/-- Take an item out of its list. -/
def erase (lists : Lists) (psItem : Address) : Lists :=
  { lists with
    items := fun context =>
      (lists.items context).map fun nodes => nodes.erase psItem }

/-- What a call does to the lists. -/
def after (lists : Lists) : ListCall → Lists
  | .connect _ (some psResManContext) =>
    { lists with
      items := Function.update lists.items psResManContext (some [])
      contexts := psResManContext :: lists.contexts }
  | .registerRes (some psResManContext) _ _ _ _ (some psNewResItem) =>
    lists.modify psResManContext (psNewResItem :: ·)
  | .removeItem psItem =>
    { lists.erase psItem with unlinked := psItem :: lists.unlinked }
  | .freeItem psItem =>
    { lists with unlinked := lists.unlinked.filter (· ≠ psItem) }
  | .dissociateRes (some psResItem) none => lists.erase psResItem
  | .dissociateRes (some psResItem) (some psNewResManContext) =>
    (lists.erase psResItem).modify psNewResManContext (psResItem :: ·)
  | .reverse psResManContext => lists.modify psResManContext List.reverse
  | .freeContext psResManContext =>
    { lists with
      items := Function.update lists.items psResManContext none
      contexts := lists.contexts.erase psResManContext }
  | _ => lists

end Lists

/-- Memory for a call is not in use, what it names is in the lists, and a loop
has enough steps for its list. -/
def ListCall.Allowed (fuel : Nat) (state : ResmanState) (lists : Lists) :
    ListCall → Prop
  | .connect _ allocated => ∀ new ∈ allocated, state.contexts new = none
  | .registerRes psResManContext _ _ _ _ allocated =>
    (∀ context ∈ psResManContext, (lists.items context).isSome) ∧
      ∀ new ∈ allocated, state.items new = none
  | .removeItem psItem => lists.Has psItem
  | .freeItem psItem => psItem ∈ lists.unlinked
  | .dissociateRes psResItem psNewResManContext =>
    (∀ psItem ∈ psResItem, lists.Has psItem) ∧
      ∀ context ∈ psNewResManContext, (lists.items context).isSome
  | .findResourceByPtr psResManContext _ =>
    ∀ context ∈ psResManContext, lists.Shorter context fuel
  | .reverse psResManContext => lists.Shorter psResManContext fuel
  | .freeContext psResManContext => (lists.items psResManContext).isSome

/-- The states that calls reach, with the lists they should hold. -/
inductive ListRun : ResmanState → Lists → Prop
  | init (contextLinks : Memory Unit Address)
      (itemLinks : Memory Address Address) :
      ListRun (resManInit contextLinks itemLinks) Lists.empty
  | call {state next lists fuel} {call : ListCall} (run : ListRun state lists)
      (allowed : call.Allowed fuel state lists)
      (performed : call.perform fuel state = some next) :
      ListRun next (lists.after call)

/-! ## What memory holds -/

/-- Memory holds these lists, and the removed items are in none of them. -/
structure Follows (state : ResmanState) (lists : Lists) : Prop where
  represents : ∃ registry, Represents state registry ∧
    registry.addresses = lists.items ∧ registry.contexts = lists.contexts
  unlinked : ∀ psItem ∈ lists.unlinked,
    (state.items psItem).isSome ∧ ¬lists.Has psItem

variable {state next : ResmanState} {lists : Lists} {registry : Registry}
  {psItem context : Address} {entries : List Entry} {entry : Entry}
  {change : List Address → List Address}

theorem Lists.Has.of_modify
    (has : (lists.modify context change).Has psItem) :
    lists.Has psItem ∨
      ∃ nodes, lists.items context = some nodes ∧ psItem ∈ change nodes := by
  obtain ⟨other, nodes, owned, member⟩ := has
  simp only [Lists.modify, update_apply] at owned
  split_ifs at owned with isContext
  · obtain ⟨before, isBefore, rfl⟩ := map_eq_some_iff.mp owned
    exact Or.inr ⟨before, isBefore, member⟩
  · exact Or.inl ⟨other, nodes, owned, member⟩

theorem Lists.Has.of_erase
    {other : Address}
    (has : (lists.erase other).Has psItem) :
    lists.Has psItem := by
  obtain ⟨context, nodes, owned, member⟩ := has
  obtain ⟨before, isBefore, rfl⟩ := map_eq_some_iff.mp owned
  exact ⟨context, before, isBefore, List.mem_of_mem_erase member⟩

section

variable (same : registry.addresses = lists.items)
include same

/-- The entries of a context in the lists. -/
theorem entries_of_isSome
    (isSome : (lists.items context).isSome) :
    ∃ entries, registry.lists context = some entries := by
  rw [← same, Registry.addresses, isSome_map] at isSome
  exact Option.isSome_iff_exists.mp isSome

/-- The entry of an item in the lists. -/
theorem entry_of_has
    (has : lists.Has psItem) :
    ∃ context entries, registry.lists context = some entries ∧
      ∃ entry ∈ entries, entry.address = psItem := by
  obtain ⟨context, nodes, owned, member⟩ := has
  rw [← same] at owned
  obtain ⟨entries, isEntries, rfl⟩ := map_eq_some_iff.mp owned
  exact ⟨context, entries, isEntries, List.mem_map.mp member⟩

/-- Changing the entries of a context changes its addresses. -/
theorem addresses_modify
    (owned : registry.lists context = some entries)
    {changed : List Entry}
    (isChange : changed.map Entry.address =
      change (entries.map Entry.address)) :
    (registry.setEntries context changed).addresses =
      (lists.modify context change).items := by
  rw [Registry.addresses_setEntries, Lists.modify, ← same,
    addresses owned, isChange, map_some]

end

section

variable (represents : Represents state registry)
  (same : registry.addresses = lists.items)
  (owned : registry.lists context = some entries)
include represents same owned

/-- An item taken out of its context is taken out of all lists. -/
theorem Represents.addresses_erase
    (member : entry ∈ entries) :
    (registry.setEntries context (entries.erase entry)).addresses =
      (lists.erase entry.address).items := by
  rw [Registry.addresses_setEntries,
    map_address_erase (represents.nodup owned) member]
  funext other
  simp only [update_apply, Lists.erase, ← same, Registry.addresses]
  split_ifs with isContext
  · rw [isContext, owned]
    rfl
  · cases ownedOther : registry.lists other with
    | none => rfl
    | some others =>
      simp only [map_some, Option.some.injEq]
      refine (List.erase_of_not_mem fun inOthers => ?_).symm
      obtain ⟨entryOther, memberOther, isEntry⟩ := List.mem_map.mp inOthers
      exact isContext
        (represents.apart ownedOther owned memberOther member isEntry)

theorem Represents.not_has_erase
    (member : entry ∈ entries) :
    ¬(lists.erase entry.address).Has entry.address := by
  intro has
  obtain ⟨other, others, ownedOther, entryOther, memberOther, isEntry⟩ :=
    entry_of_has (represents.addresses_erase same owned member) has
  exact represents.unlisted owned member ownedOther memberOther isEntry

end

/-! ## One call -/

/-- A call returns and memory holds the lists after it. -/
def ListCall.Works (call : ListCall) (fuel : Nat) (state : ResmanState)
    (lists : Lists) : Prop :=
  ∃ next, call.perform fuel state = some next ∧
    Follows next (lists.after call)

section

variable (fuel : Nat) (follows : Follows state lists)

include follows

variable {allocated psResManContext : Option Address}

theorem connect_works
    {hPerProc : Address}
    (unused : ∀ new ∈ allocated, state.contexts new = none) :
    (ListCall.connect hPerProc allocated).Works fuel state lists := by
  cases allocated with
  | none => exact ⟨state, rfl, follows⟩
  | some new =>
    obtain ⟨registry, represents, same, sameContexts⟩ := follows.represents
    have connects : ∃ after, pvrsrvResManConnect state hPerProc (some new) =
        some (pvrsrvOk, after) ∧ after.items = state.items := by
      rw [pvrsrvResManConnect, unused new rfl]
      exact ⟨_, rfl, rfl⟩
    obtain ⟨after, connects, sameItems⟩ := connects
    refine ⟨after, ?_, ⟨_, represents.connect connects,
      ?_, congrArg (new :: ·) sameContexts⟩, ?_⟩
    · rw [ListCall.perform, connects, map_some]
    · rw [Registry.connect, Registry.addresses_update _ _ registry.contexts]
      exact congrArg (update · new (some [])) same
    · intro psItem member
      rw [sameItems]
      refine ⟨(follows.unlinked psItem member).1, ?_⟩
      rintro ⟨other, nodes, owned, inNodes⟩
      simp only [Lists.after, update_apply] at owned
      split_ifs at owned
      · rw [← Option.some.inj owned] at inNodes
        exact List.not_mem_nil inNodes
      · exact (follows.unlinked psItem member).2 ⟨other, nodes, owned, inNodes⟩

theorem registerRes_works
    {ui32ResType ui32Param : BitVec 32}
    {pvParam pfnFreeResource : BitVec 64}
    (live : ∀ context ∈ psResManContext, (lists.items context).isSome)
    (unused : ∀ new ∈ allocated, state.items new = none) :
    (ListCall.registerRes psResManContext ui32ResType pvParam ui32Param
      pfnFreeResource allocated).Works fuel state lists := by
  rcases psResManContext with _ | context
  · exact ⟨state, rfl, follows⟩
  rcases allocated with _ | new
  · exact ⟨state, rfl, follows⟩
  obtain ⟨registry, represents, same, sameContexts⟩ := follows.represents
  obtain ⟨entries, owned⟩ := entries_of_isSome same (live context rfl)
  obtain ⟨psPerProc, isLive⟩ := represents.live owned
  have registers : ∃ after, resManRegisterRes state (some context) ui32ResType
      pvParam ui32Param pfnFreeResource (some new) = some (some new, after) ∧
      ∀ other ≠ new, after.items other = state.items other := by
    rw [resManRegisterRes, isLive, unused new rfl]
    exact ⟨_, rfl, fun other notNew => update_of_ne notNew ..⟩
  obtain ⟨after, registers, sameItems⟩ := registers
  refine ⟨after, ?_, ⟨_, represents.register owned registers,
    addresses_modify same owned rfl, sameContexts⟩, ?_⟩
  · rw [ListCall.perform, registers, map_some]
  · intro psItem member
    obtain ⟨isItem, notListed⟩ := follows.unlinked psItem member
    have notNew : psItem ≠ new := by
      rintro rfl
      rw [unused _ rfl] at isItem
      exact Bool.noConfusion isItem
    refine ⟨by rw [sameItems psItem notNew]; exact isItem, fun has => ?_⟩
    rcases has.of_modify with before | ⟨nodes, isNodes, inNodes⟩
    · exact notListed before
    · exact notListed ⟨context, nodes, isNodes,
        (List.mem_cons.mp inNodes).resolve_left notNew⟩

theorem removeItem_works
    (has : lists.Has psItem) :
    (ListCall.removeItem psItem).Works fuel state lists := by
  obtain ⟨registry, represents, same, sameContexts⟩ := follows.represents
  obtain ⟨context, entries, owned, entry, member, rfl⟩ := entry_of_has same has
  have isItem := represents.items context entries owned entry member
  refine ⟨_, ?_, ⟨_, represents.unlink owned member,
    represents.addresses_erase same owned member, sameContexts⟩, ?_⟩
  · rw [ListCall.perform, Resman.removeItem, isItem, map_some]
  · intro other memberOther
    rcases List.mem_cons.mp memberOther with rfl | inUnlinked
    · exact ⟨by rw [isItem]; rfl, represents.not_has_erase same owned member⟩
    · exact ⟨(follows.unlinked other inUnlinked).1,
        fun has => (follows.unlinked other inUnlinked).2 has.of_erase⟩

theorem freeItem_works
    (member : psItem ∈ lists.unlinked) :
    (ListCall.freeItem psItem).Works fuel state lists := by
  obtain ⟨registry, represents, same, sameContexts⟩ := follows.represents
  obtain ⟨isSome, notListed⟩ := follows.unlinked psItem member
  obtain ⟨item, isItem⟩ := Option.isSome_iff_exists.mp isSome
  refine ⟨{ state with items := update state.items psItem none },
    ?_, ⟨registry, represents.congr rfl rfl rfl ?_, same, sameContexts⟩, ?_⟩
  · rw [ListCall.perform, Resman.freeItem, isItem, map_some]
  · rintro context entries owned entry inEntries
    refine update_of_ne ?_ ..
    rintro rfl
    refine notListed ⟨context, _, ?_, List.mem_map_of_mem inEntries⟩
    rw [← same, addresses owned]
  · intro other memberOther
    obtain ⟨inUnlinked, notItem⟩ := List.mem_filter.mp memberOther
    obtain ⟨isOther, notHas⟩ := follows.unlinked other inUnlinked
    exact ⟨(congrArg Option.isSome (update_of_ne
      (of_decide_eq_true notItem) ..)).trans isOther, notHas⟩

theorem dissociateRes_works
    {psResItem psNewResManContext : Option Address}
    (has : ∀ psItem ∈ psResItem, lists.Has psItem)
    (live : ∀ context ∈ psNewResManContext, (lists.items context).isSome) :
    (ListCall.dissociateRes psResItem psNewResManContext).Works fuel
      state lists := by
  rcases psResItem with _ | psItem
  · exact ⟨state, rfl, follows⟩
  obtain ⟨registry, represents, same, sameContexts⟩ := follows.represents
  obtain ⟨context, entries, owned, entry, member, rfl⟩ :=
    entry_of_has same (has psItem rfl)
  have erased := represents.addresses_erase same owned member
  have isItem := represents.items context entries owned entry member
  have gone := represents.not_has_erase same owned member
  rcases psNewResManContext with _ | target
  · refine ⟨{ state with
      itemLinks := state.itemLinks.remove entry.address
      items := update state.items entry.address none },
      ?_, ⟨_, (represents.unlink owned member).congr
        rfl rfl rfl ?_, erased, sameContexts⟩, ?_⟩
    · simp [ListCall.perform, resManDissociateRes, freeResourceByPtr, isItem]
    · intro other others ownedOther entryOther memberOther
      exact update_of_ne
        (represents.unlisted owned member ownedOther memberOther) ..
    · intro other memberOther
      obtain ⟨isOther, notHas⟩ := follows.unlinked other memberOther
      have notEntry : other ≠ entry.address := by
        rintro rfl
        exact notHas (has _ rfl)
      exact ⟨(congrArg Option.isSome (update_of_ne notEntry
        ..)).trans isOther, fun has => notHas has.of_erase⟩
  · have isSome : ((lists.erase entry.address).items target).isSome := by
      rw [Lists.erase, isSome_map]
      exact live target rfl
    obtain ⟨others, ownedNew⟩ := entries_of_isSome erased isSome
    obtain ⟨psPerProc, isLive⟩ :=
      (represents.unlink owned member).live ownedNew
    change state.contexts target = some psPerProc at isLive
    have moves : ∃ after, resManDissociateRes (fun _ => pvrsrvOk) state
        (some entry.address) (some target) = some (pvrsrvOk, after) ∧
          after.items = state.items := by
      simp only [resManDissociateRes, isItem, isLive, bind_eq_bind, bind_some]
      exact ⟨_, rfl, rfl⟩
    obtain ⟨after, moves, sameItems⟩ := moves
    refine ⟨after, ?_,
      ⟨_, represents.dissociate owned member ownedNew moves,
        addresses_modify erased ownedNew rfl, sameContexts⟩, ?_⟩
    · rw [ListCall.perform, moves, map_some]
    · intro other memberOther
      obtain ⟨isOther, notHas⟩ := follows.unlinked other memberOther
      refine ⟨by rw [sameItems]; exact isOther, fun isIn => ?_⟩
      rcases isIn.of_modify with before | ⟨nodes, isNodes, inNodes⟩
      · exact notHas before.of_erase
      · rcases List.mem_cons.mp inNodes with rfl | inOthers
        · exact notHas (has entry.address rfl)
        · exact notHas (Lists.Has.of_erase ⟨target, nodes, isNodes, inOthers⟩)

theorem findResourceByPtr_works
    {psSought : Option Address}
    (shorter : ∀ context ∈ psResManContext, lists.Shorter context fuel) :
    (ListCall.findResourceByPtr psResManContext psSought).Works fuel
      state lists := by
  rcases psResManContext with _ | context
  · exact ⟨state, rfl, follows⟩
  rcases psSought with _ | psItem
  · exact ⟨state, rfl, follows⟩
  obtain ⟨registry, represents, same, _⟩ := follows.represents
  obtain ⟨nodes, isNodes, enough⟩ := shorter context rfl
  obtain ⟨entries, owned⟩ := entries_of_isSome same (by rw [isNodes]; rfl)
  obtain ⟨psPerProc, isLive⟩ := represents.live owned
  rw [← same, addresses owned] at isNodes
  cases isNodes
  have answers : ∀ address ∈ entries.map Entry.address,
      ((state.items address).map fun _ =>
        if address = psItem then some () else none) =
          some (if address = psItem then some () else none) := by
    intro address member
    obtain ⟨entry, inEntries, rfl⟩ := List.mem_map.mp member
    rw [represents.items context entries owned entry inEntries]
    rfl
  refine ⟨state, ?_, follows⟩
  simp only [ListCall.perform, resManFindResourceByPtr, isLive,
    bind_eq_bind, bind_some]
  rw [Memory.anyVa_leads (represents.itemLinks.leads context _
    (addresses owned)) answers enough]
  rfl

theorem reverse_works
    (shorter : lists.Shorter context fuel) :
    (ListCall.reverse context).Works fuel state lists := by
  obtain ⟨registry, represents, same, sameContexts⟩ := follows.represents
  obtain ⟨nodes, isNodes, enough⟩ := shorter
  obtain ⟨entries, owned⟩ := entries_of_isSome same (by rw [isNodes]; rfl)
  rw [← same, addresses owned] at isNodes
  cases isNodes
  rw [List.length_map] at enough
  obtain ⟨turned, runs, turnedRepresents, _⟩ :=
    represents.reverseItems owned enough
  have sameItems : turned.items = state.items := by
    obtain ⟨_, _, rfl⟩ := map_eq_some_iff.mp runs
    rfl
  refine ⟨turned, runs, ⟨_, turnedRepresents,
    addresses_modify same owned (List.map_reverse ..), sameContexts⟩, ?_⟩
  intro psItem member
  obtain ⟨isItem, notHas⟩ := follows.unlinked psItem member
  refine ⟨by rw [sameItems]; exact isItem, fun has => notHas ?_⟩
  rcases has.of_modify with before | ⟨nodes, isNodes, inNodes⟩
  · exact before
  · exact ⟨context, nodes, isNodes, List.mem_reverse.mp inNodes⟩

theorem freeContext_works
    (live : (lists.items context).isSome) :
    (ListCall.freeContext context).Works fuel state lists := by
  obtain ⟨registry, represents, same, sameContexts⟩ := follows.represents
  obtain ⟨entries, owned⟩ := entries_of_isSome same live
  obtain ⟨psPerProc, isLive⟩ := represents.live owned
  refine ⟨_, ?_, ⟨_, represents.disconnect owned, ?_,
    congrArg (List.erase · context) sameContexts⟩, ?_⟩
  · rw [ListCall.perform, Resman.freeContext, isLive, map_some]
  · rw [Registry.disconnect, Registry.addresses_update _ _ registry.contexts]
    exact congrArg (update · context none) same
  · intro psItem member
    refine ⟨(follows.unlinked psItem member).1, ?_⟩
    rintro ⟨other, nodes, isNodes, inNodes⟩
    simp only [Lists.after, update_apply] at isNodes
    split_ifs at isNodes
    exact (follows.unlinked psItem member).2 ⟨other, nodes, isNodes, inNodes⟩

theorem ListCall.Allowed.works
    {call : ListCall}
    (allowed : call.Allowed fuel state lists) :
    call.Works fuel state lists := by
  cases call with
  | connect => exact connect_works fuel follows allowed
  | registerRes => exact registerRes_works fuel follows allowed.1 allowed.2
  | removeItem => exact removeItem_works fuel follows allowed
  | freeItem => exact freeItem_works fuel follows allowed
  | dissociateRes => exact dissociateRes_works fuel follows allowed.1 allowed.2
  | findResourceByPtr => exact findResourceByPtr_works fuel follows allowed
  | reverse => exact reverse_works fuel follows allowed
  | freeContext => exact freeContext_works fuel follows allowed

end

/-! ## Every run -/

theorem ListRun.follows
    (run : ListRun state lists) :
    Follows state lists := by
  induction run with
  | init contextLinks itemLinks =>
    exact ⟨⟨_, represents_resManInit contextLinks itemLinks, rfl, rfl⟩, nofun⟩
  | call run allowed performed follows =>
    obtain ⟨next, works, nextFollows⟩ := allowed.works _ follows
    cases works.symm.trans performed
    exact nextFollows

/-- Each list of memory has exactly these nodes in this order, each pointed to
by the place its back pointer names, and no item is in two lists. -/
structure Linked (state : ResmanState) (lists : Lists) : Prop where
  items : ∀ context nodes, lists.items context = some nodes →
    state.itemLinks.InOrder (.head context) nodes
  contexts : state.contextLinks.InOrder (.head ()) lists.contexts
  apart : ∀ context nodes other others, lists.items context = some nodes →
    lists.items other = some others →
    ∀ psItem ∈ nodes, psItem ∈ others → context = other

/-- In every state that calls reach, the links are those of the lists, and
each further call returns if it does not wait for the mutex. -/
theorem ListRun.linked
    (run : ListRun state lists) :
    Linked state lists ∧
      ∀ fuel (call : ListCall), call.Allowed fuel state lists →
        ∃ next, call.perform fuel state = some next := by
  obtain ⟨registry, represents, same, sameContexts⟩ := run.follows.represents
  refine ⟨⟨?_, ?_, ?_⟩, ?_⟩
  · rw [← same]
    exact fun context nodes owned =>
      Memory.Leads.inOrder (represents.itemLinks.leads context nodes owned)
        (represents.itemLinks.nodup context nodes owned)
  · rw [← sameContexts]
    exact Memory.Leads.inOrder (represents.contextLinks.leads () _ rfl)
      (represents.contextLinks.nodup () _ rfl)
  · rw [← same]
    exact represents.itemLinks.apart
  · intro fuel call allowed
    obtain ⟨next, works, _⟩ := allowed.works fuel run.follows
    exact ⟨next, works⟩

/-- Two items are registered with one context, and the first is moved to
another. -/
theorem ListRun.linked_moved :
    ∃ state lists, ListRun state lists ∧ lists.items 1 = some [20] ∧
      lists.items 2 = some [10] ∧ Linked state lists := by
  have start := ListRun.init ⟨fun _ => none, fun _ => none, .next⟩
    ⟨fun _ => none, fun _ => none, .next⟩
  have connected := @ListRun.call _ _ _ 0 (.connect 0 (some 1)) start
    (by rintro _ ⟨⟩; rfl) rfl
  have both := @ListRun.call _ _ _ 0 (.connect 0 (some 2)) connected
    (by rintro _ ⟨⟩; rfl) rfl
  have first := @ListRun.call _ _ _ 0
    (.registerRes (some 1) resmanTypeSyncInfo 5 0 100 (some 10)) both
    ⟨by rintro _ ⟨⟩; rfl, by rintro _ ⟨⟩; rfl⟩ rfl
  have second := @ListRun.call _ _ _ 0
    (.registerRes (some 1) resmanTypeSyncInfo 7 0 100 (some 20)) first
    ⟨by rintro _ ⟨⟩; rfl, by rintro _ ⟨⟩; rfl⟩ rfl
  have moved := @ListRun.call _ _ _ 0 (.dissociateRes (some 10) (some 2))
    second ⟨by rintro _ ⟨⟩; exact ⟨1, [20, 10], rfl, by decide⟩,
      by rintro _ ⟨⟩; rfl⟩ rfl
  exact ⟨_, _, moved, rfl, rfl, moved.linked.1⟩

end PvrServices.Resman
