import PvrServices.Resman.Disconnect

/-!
# Disconnecting frees what was registered

Runs of the resource manager keep its lists equal to the registry of what has
been registered.  On a reachable state, a disconnecting context has every item
freed once and in order exactly when no callback in front of another of its
type fails.
-/

namespace PvrServices.Resman

open IntrusiveList

/-! ## Runs -/

/-- States the resource manager reaches, with the registry of what has been
connected and registered.  Items are only given up by those who hold them;
calls that fail to allocate change nothing and are left out. -/
inductive Run : ResmanState → Registry → Prop
  | init (contextLinks : Memory Unit Address)
      (itemLinks : Memory Address Address) :
      Run (resManInit contextLinks itemLinks) Registry.empty
  | connect {state registry hPerProc psResManContext eError after}
      (run : Run state registry)
      (result : pvrsrvResManConnect state hPerProc (some psResManContext) =
        some (eError, after)) :
      Run after (registry.connect psResManContext)
  | register {state registry context entries ui32ResType pvParam ui32Param
      pfnFreeResource psNewResItem returned after}
      (run : Run state registry)
      (owned : registry.lists context = some entries)
      (result : resManRegisterRes state (some context) ui32ResType pvParam
        ui32Param pfnFreeResource (some psNewResItem) =
          some (returned, after)) :
      Run after (registry.setEntries context
        (⟨psNewResItem, ⟨0, ui32ResType, pvParam, ui32Param,
          pfnFreeResource⟩⟩ :: entries))
  | freeResByPtr {state registry context entries entry result bForceCleanup
      eError after}
      (run : Run state registry)
      (owned : registry.lists context = some entries)
      (member : entry ∈ entries)
      (returned : resManFreeResByPtr result state (some entry.address)
        bForceCleanup = some (eError, after)) :
      Run after (registry.setEntries context (entries.erase entry))
  | freeResByCriteria {state registry context entries fuel result
      ui32SearchCriteria ui32ResType pvParam ui32Param eError after}
      (run : Run state registry)
      (owned : registry.lists context = some entries)
      (enough : entries.length < fuel)
      (returned : resManFreeResByCriteria fuel result state context
        ui32SearchCriteria ui32ResType pvParam ui32Param =
          some (eError, after)) :
      Run after (registry.setEntries context
        (without entries (attempted result (entries.filter fun entry =>
          entry.item.fits ui32SearchCriteria ui32ResType pvParam ui32Param))))
  | dissociate {state registry context entries entry psNewResManContext
      others result eError after}
      (run : Run state registry)
      (owned : registry.lists context = some entries)
      (member : entry ∈ entries)
      (ownedNew :
        (registry.setEntries context (entries.erase entry)).lists
          psNewResManContext = some others)
      (returned : resManDissociateRes result state (some entry.address)
        (some psNewResManContext) = some (eError, after)) :
      Run after
        ((registry.setEntries context (entries.erase entry)).setEntries
          psNewResManContext (entry :: others))
  | dissociateFree {state registry context entries entry result eError after}
      (run : Run state registry)
      (owned : registry.lists context = some entries)
      (member : entry ∈ entries)
      (returned : resManDissociateRes result state (some entry.address)
        none = some (eError, after)) :
      Run after (registry.setEntries context (entries.erase entry))
  | disconnect {state registry context entries fuel result bKernelContext
      after}
      (run : Run state registry)
      (owned : registry.lists context = some entries)
      (enough : entries.length < fuel)
      (returned : pvrsrvResManDisconnect fuel result state context
        bKernelContext = some after) :
      Run after (registry.disconnect context)

variable
  {state : ResmanState}
  {registry : Registry}
  {context : Address}
  {entries : List Entry}
  {result : Address → PvrsrvError}
  {fuel : Nat}

/-! ## One disconnect -/

/-- The items in the order their callbacks should be called. -/
def disconnectOrder (entries : List Entry) : List Entry :=
  disconnectTypes.flatMap (freeOrder entries)

/-- Every callback has been called once and in order, and neither items nor
context are left. -/
structure DisconnectRight (before : ResmanState) (registry : Registry)
    (context : Address) (entries : List Entry) (after : ResmanState) :
    Prop where
  called : after.calls = before.calls ++
    (disconnectOrder entries).map (Entry.call · cleanupWithPoll)
  once : (disconnectOrder entries).Perm entries
  empty : after.itemLinks.head context = none
  unlinked : context ∉ registry.contexts.erase context ∧
    after.contextLinks.Leads (after.contextLinks.head ()) (.head ())
      (registry.contexts.erase context)

/-- No item is left out: the context is not the kernel's, the types are known,
and no callback fails in front of another one of its type. -/
structure DisconnectClean (result : Address → PvrsrvError)
    (entries : List Entry) (bKernelContext : Bool) : Prop where
  kernel : bKernelContext = true → entries = []
  known : ∀ entry ∈ entries, entry.item.ui32ResType ∈ disconnectTypes
  succeeds : ∀ ui32ResType ∈ disconnectTypes,
    ∀ entry ∈ (freeOrder entries ui32ResType).dropLast,
      result entry.address = pvrsrvOk

/-- The items whose callbacks `PVRSRVResManDisconnect` calls. -/
def disconnectCalled (result : Address → PvrsrvError) (entries : List Entry)
    (bKernelContext : Bool) : List Entry :=
  if bKernelContext then [] else calledFor result entries disconnectTypes

/-- What `PVRSRVResManDisconnect` does. -/
theorem Represents.pvrsrvResManDisconnect
    (represents : Represents state registry)
    (owned : registry.lists context = some entries)
    (result : Address → PvrsrvError)
    (bKernelContext : Bool)
    (enough : entries.length < fuel) :
    ∃ after,
      pvrsrvResManDisconnect fuel result state context bKernelContext =
          some after ∧
        Represents after (registry.disconnect context) ∧
        after.itemLinks.head context =
          ((without entries
            (disconnectCalled result entries bKernelContext)).map
              Entry.address).head? ∧
        after.calls = state.calls ++
          (disconnectCalled result entries bKernelContext).map
            (Entry.call · cleanupWithPoll) := by
  obtain ⟨psPerProc, live⟩ := represents.live owned
  obtain ⟨freed, runs, freedRepresents, freedCalls⟩ : ∃ freed,
      (if bKernelContext then some state
        else Resman.freeAllResources fuel result context state) = some freed ∧
        Represents freed (registry.setEntries context (without entries
          (disconnectCalled result entries bKernelContext))) ∧
        freed.calls = state.calls ++
          (disconnectCalled result entries bKernelContext).map
            (Entry.call · cleanupWithPoll) := by
    cases bKernelContext with
    | true =>
      have nothing : without entries
          (disconnectCalled result entries true) = entries :=
        List.filter_eq_self.mpr fun entry _ => decide_eq_true List.not_mem_nil
      refine ⟨state, rfl, ?_, (List.append_nil _).symm⟩
      rw [nothing, Registry.setEntries_same owned]
      exact represents
    | false =>
      obtain ⟨freed, runs, isFreed⟩ :=
        represents.freeAllResources owned result enough
      exact ⟨freed, runs, isFreed.represents, isFreed.calls⟩
  have disconnected :=
    freedRepresents.disconnect (Registry.setEntries_self _ _ _)
  have leads := freedRepresents.itemLinks.leads context _
    (Represents.addresses (Registry.setEntries_self _ _ _))
  refine ⟨{ freed with
    contextLinks := freed.contextLinks.remove context
    contexts := Function.update freed.contexts context none },
    ?_, ?_, Memory.leads_head leads, freedCalls⟩
  · refine Option.bind_eq_some_iff.mpr ⟨psPerProc, live, ?_⟩
    cases bKernelContext with
    | true =>
      cases runs
      rfl
    | false => exact Option.bind_eq_some_iff.mpr ⟨freed, runs, rfl⟩
  · have same : (registry.setEntries context (without entries
        (disconnectCalled result entries bKernelContext))).disconnect
          context = registry.disconnect context := by
      simp only [Registry.setEntries, Registry.disconnect,
        Function.update_idem]
    rw [same] at disconnected
    exact disconnected

/-- All types are called in full if as many items are called as there are. -/
theorem attempted_of_length_eq
    {types : List (BitVec 32)}
    (full : (calledFor result entries types).length =
      (types.flatMap (freeOrder entries)).length) :
    ∀ ui32ResType ∈ types,
      attempted result (freeOrder entries ui32ResType) =
        freeOrder entries ui32ResType := by
  have shorter : ∀ types : List (BitVec 32),
      (calledFor result entries types).length ≤
        (types.flatMap (freeOrder entries)).length := by
    intro types
    induction types with
    | nil => exact Nat.le_refl _
    | cons ui32ResType types ih =>
      have first := (attempted_isPrefix result
        (freeOrder entries ui32ResType)).length_le
      simp only [calledFor, List.flatMap_cons, List.length_append] at *
      omega
  induction types with
  | nil => exact fun _ member => absurd member List.not_mem_nil
  | cons ui32ResType types ih =>
    have isPrefix := attempted_isPrefix result (freeOrder entries ui32ResType)
    have first := isPrefix.length_le
    have rest := shorter types
    simp only [calledFor, List.flatMap_cons, List.length_append] at full
    rw [List.forall_mem_cons]
    refine ⟨isPrefix.eq_of_length ?_, ih ?_⟩
    · simp only [calledFor] at rest
      omega
    · simp only [calledFor] at rest ⊢
      omega

section

variable (distinct : entries.Nodup)
include distinct

theorem freeOrder_nodup
    (ui32ResType : BitVec 32) :
    (freeOrder entries ui32ResType).Nodup := by
  rw [freeOrder]
  split_ifs
  · exact List.nodup_reverse.mpr (distinct.filter _)
  · exact distinct.filter _

theorem disconnectOrder_nodup :
    (disconnectOrder entries).Nodup := by
  rw [disconnectOrder, List.nodup_flatMap]
  refine ⟨fun ui32ResType _ => freeOrder_nodup distinct ui32ResType, ?_⟩
  apply disconnectTypes_nodup.imp
  intro first second differ entry inFirst inSecond
  exact differ ((mem_freeOrder.mp inFirst).2.symm.trans
    (mem_freeOrder.mp inSecond).2)

/-- Every item is freed once if its type is one that is freed. -/
theorem disconnectOrder_perm_iff :
    (disconnectOrder entries).Perm entries ↔
      ∀ entry ∈ entries, entry.item.ui32ResType ∈ disconnectTypes := by
  have mem_order : ∀ entry, entry ∈ disconnectOrder entries ↔
      entry ∈ entries ∧ entry.item.ui32ResType ∈ disconnectTypes := by
    intro entry
    rw [disconnectOrder, List.mem_flatMap]
    constructor
    · rintro ⟨ui32ResType, known, inOrder⟩
      obtain ⟨member, rfl⟩ := mem_freeOrder.mp inOrder
      exact ⟨member, known⟩
    · rintro ⟨member, known⟩
      exact ⟨_, known, mem_freeOrder.mpr ⟨member, rfl⟩⟩
  rw [List.perm_ext_iff_of_nodup (disconnectOrder_nodup distinct) distinct]
  constructor
  · intro same entry member
    exact ((mem_order entry).mp ((same entry).mpr member)).2
  · intro known entry
    rw [mem_order]
    exact ⟨And.left, fun member => ⟨member, known entry member⟩⟩

end

/-- A disconnect does what it should exactly when no item is left out. -/
theorem Represents.disconnectRight_iff
    (represents : Represents state registry)
    (owned : registry.lists context = some entries)
    (result : Address → PvrsrvError)
    (bKernelContext : Bool)
    (enough : entries.length < fuel) :
    ∃ after,
      Resman.pvrsrvResManDisconnect fuel result state context
          bKernelContext = some after ∧
        (DisconnectRight state registry context entries after ↔
          DisconnectClean result entries bKernelContext) := by
  obtain ⟨after, runs, afterRepresents, head, calls⟩ :=
    represents.pvrsrvResManDisconnect owned result bKernelContext enough
  have distinct : entries.Nodup :=
    (represents.nodup owned).of_map Entry.address
  have isOnce := disconnectOrder_perm_iff distinct
  refine ⟨after, runs, ?_, ?_⟩
  · intro right
    have sameLength : (disconnectCalled result entries
        bKernelContext).length = (disconnectOrder entries).length := by
      have sameCalls := List.append_cancel_left (calls.symm.trans right.called)
      simpa only [List.length_map] using congrArg List.length sameCalls
    refine ⟨?_, isOnce.mp right.once, ?_⟩
    · rintro rfl
      rw [right.once.length_eq] at sameLength
      exact List.eq_nil_of_length_eq_zero sameLength.symm
    · cases bKernelContext with
      | true =>
        rw [right.once.length_eq] at sameLength
        obtain rfl := List.eq_nil_of_length_eq_zero sameLength.symm
        intro ui32ResType _ entry member
        have inOrder := List.dropLast_subset _ member
        exact absurd (mem_freeOrder.mp inOrder).1 List.not_mem_nil
      | false =>
        intro ui32ResType known
        exact attempted_eq_self_iff.mp
          (attempted_of_length_eq sameLength ui32ResType known)
  · intro clean
    have once := isOnce.mpr clean.known
    have isOrder : disconnectCalled result entries bKernelContext =
        disconnectOrder entries := by
      cases bKernelContext with
      | true =>
        obtain rfl := clean.kernel rfl
        exact (List.perm_nil.mp once).symm
      | false =>
        rw [disconnectCalled, if_neg Bool.false_ne_true, calledFor,
          disconnectOrder]
        apply List.flatMap_congr
        intro ui32ResType known
        exact attempted_eq_self_iff.mpr (clean.succeeds ui32ResType known)
    rw [isOrder] at head calls
    refine ⟨calls, once, ?_, ?_, ?_⟩
    · have nothing : without entries (disconnectOrder entries) = [] := by
        rw [without, List.filter_eq_nil_iff]
        intro entry member
        rw [decide_eq_true_eq, not_not]
        exact once.mem_iff.mpr member
      rw [head, nothing]
      rfl
    · exact (represents.contextLinks.nodup () _ rfl).not_mem_erase
    · exact afterRepresents.contextLinks.leads () _ rfl

/-! ## Reachable states -/

/-- The lists in memory are those of the registry, on every run. -/
theorem Run.represents
    (run : Run state registry) :
    Represents state registry := by
  induction run with
  | init contextLinks itemLinks =>
    exact represents_resManInit contextLinks itemLinks
  | connect _ result represents => exact represents.connect result
  | register _ owned result represents =>
    exact represents.register owned result
  | freeResByPtr _ owned member returned represents =>
    obtain ⟨freed, frees, freedRepresents, _⟩ :=
      represents.freeResourceByPtr owned member _ true _
    rw [resManFreeResByPtr, frees] at returned
    obtain ⟨-, rfl⟩ := Prod.mk.inj (Option.some.inj returned)
    exact freedRepresents
  | freeResByCriteria _ owned enough returned represents =>
    obtain ⟨psPerProc, live⟩ := represents.live owned
    obtain ⟨eError, freed, frees, freedRepresents, _⟩ :=
      represents.freeResourceByCriteriaLoop owned _ rfl enough
        (Nat.lt_of_le_of_lt (List.length_filter_le _ _) enough)
    rw [resManFreeResByCriteria, freeResourceByCriteria, live,
      Option.bind_eq_bind, Option.bind_some, frees] at returned
    obtain ⟨-, rfl⟩ := Prod.mk.inj (Option.some.inj returned)
    exact freedRepresents
  | dissociate _ owned member ownedNew returned represents =>
    exact represents.dissociate owned member ownedNew returned
  | dissociateFree _ owned member returned represents =>
    obtain ⟨freed, frees, freedRepresents, _⟩ :=
      represents.freeResourceByPtr owned member _ false cleanupWithPoll
    rw [resManDissociateRes, frees] at returned
    obtain ⟨-, rfl⟩ := Prod.mk.inj (Option.some.inj returned)
    exact freedRepresents
  | disconnect _ owned enough returned represents =>
    obtain ⟨disconnected, runs, disconnectedRepresents, _⟩ :=
      represents.pvrsrvResManDisconnect owned _ _ enough
    rw [runs] at returned
    cases returned
    exact disconnectedRepresents

/-- On a reachable state, `PVRSRVResManDisconnect` calls the callback of each
item once and in order and leaves nothing behind exactly when no item is left
out. -/
theorem run_pvrsrvResManDisconnect_iff
    (run : Run state registry)
    (owned : registry.lists context = some entries)
    (result : Address → PvrsrvError)
    (bKernelContext : Bool)
    (enough : entries.length < fuel) :
    ∃ after,
      pvrsrvResManDisconnect fuel result state context bKernelContext =
          some after ∧
        (DisconnectRight state registry context entries after ↔
          DisconnectClean result entries bKernelContext) :=
  run.represents.disconnectRight_iff owned result bKernelContext enough

/-- Two sync infos, the one at 20 registered last. -/
def twoSyncInfos : List Entry :=
  [⟨20, ⟨0, resmanTypeSyncInfo, 7, 0, 100⟩⟩,
   ⟨10, ⟨0, resmanTypeSyncInfo, 5, 0, 100⟩⟩]

theorem run_twoSyncInfos :
    ∃ state registry, Run state registry ∧
      registry.lists 1 = some twoSyncInfos := by
  have start := Run.init ⟨fun _ => none, fun _ => none, .next⟩
    ⟨fun _ => none, fun _ => none, .next⟩
  have connected := @Run.connect _ _ 0 1 _ _ start rfl
  have first := @Run.register _ _ 1 [] resmanTypeSyncInfo 5 0 100 10 _ _
    connected rfl rfl
  have second := @Run.register _ _ 1 _ resmanTypeSyncInfo 7 0 100 20 _ _
    first rfl rfl
  exact ⟨_, _, second, rfl⟩

theorem run_pvrsrvResManDisconnect_iff_twoSyncInfos :
    ∃ state registry after, Run state registry ∧
      pvrsrvResManDisconnect 3 (fun _ => pvrsrvOk) state 1 false =
          some after ∧
        (DisconnectRight state registry 1 twoSyncInfos after ↔
          DisconnectClean (fun _ => pvrsrvOk) twoSyncInfos false) := by
  obtain ⟨state, registry, run, owned⟩ := run_twoSyncInfos
  obtain ⟨after, runs, iff⟩ := run_pvrsrvResManDisconnect_iff run owned
    (fun _ => pvrsrvOk) false (by decide : twoSyncInfos.length < 3)
  exact ⟨state, registry, after, run, runs, iff⟩

/-- When the callback of the sync info at 20 fails, that of the one at 10 is
not called. -/
theorem run_pvrsrvResManDisconnect_skips :
    ∃ state registry after, Run state registry ∧
      registry.lists 1 = some twoSyncInfos ∧
      pvrsrvResManDisconnect 3
          (fun address => if address = 20 then pvrsrvErrorInvalidParams
            else pvrsrvOk) state 1 false = some after ∧
        ¬DisconnectRight state registry 1 twoSyncInfos after := by
  obtain ⟨state, registry, run, owned⟩ := run_twoSyncInfos
  obtain ⟨after, runs, iff⟩ := run.represents.disconnectRight_iff owned
    (fun address => if address = 20 then pvrsrvErrorInvalidParams
      else pvrsrvOk) false (by decide : twoSyncInfos.length < 3)
  refine ⟨state, registry, after, run, owned, runs, ?_⟩
  intro right
  have succeeds := (iff.mp right).succeeds resmanTypeSyncInfo
    (by decide +kernel) ⟨20, ⟨0, resmanTypeSyncInfo, 7, 0, 100⟩⟩
    (by decide +kernel)
  exact absurd succeeds (by decide +kernel)

end PvrServices.Resman
