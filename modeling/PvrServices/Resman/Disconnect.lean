import PvrServices.Resman.Registry

/-!
# Disconnecting from the resource manager

A disconnecting context has its items freed type by type.  The loop over the
items of a type stops at the first callback that fails, which is where the
items behind it are lost.
-/

namespace PvrServices.Resman

open IntrusiveList
open Registry (setEntries_same setEntries_self setEntries_setEntries)
open List (append_assoc append_cons append_nil filter_congr filter_filter
  mem_cons_self nodup_append not_mem_nil)
open Option (bind_eq_bind bind_eq_some_iff bind_some map_some)

variable {state : ResmanState} {registry : Registry} {context : Address}
  {entries : List Entry} {bound : Nat} {ui32ResType : BitVec 32}
  {types : List (BitVec 32)}

/-! ## Freeing by criteria -/

/-- The items of a list whose callbacks are called, up to the first that
fails. -/
def attempted (result : Address → PvrsrvError) : List Entry → List Entry
  | [] => []
  | entry :: rest =>
    if result entry.address = pvrsrvOk then entry :: attempted result rest
    else [entry]

theorem attempted_isPrefix
    (result : Address → PvrsrvError)
    (entries : List Entry) :
    attempted result entries <+: entries := by
  induction entries with
  | nil => exact List.prefix_rfl
  | cons entry rest ih =>
    rw [attempted]
    split_ifs
    · exact (List.prefix_cons_inj entry).mpr ih
    · exact (List.prefix_cons_inj entry).mpr List.nil_prefix

/-- All callbacks are called if all but the last succeed. -/
theorem attempted_eq_self_iff
    {result : Address → PvrsrvError} :
    attempted result entries = entries ↔
      ∀ entry ∈ entries.dropLast, result entry.address = pvrsrvOk := by
  induction entries with
  | nil => exact ⟨fun _ _ member => absurd member not_mem_nil, fun _ => rfl⟩
  | cons entry rest ih =>
    rw [attempted]
    cases rest with
    | nil =>
      refine ⟨fun _ _ member => absurd member not_mem_nil, ?_⟩
      intro _
      split_ifs <;> rfl
    | cons second rest =>
      rw [List.dropLast_cons_cons, List.forall_mem_cons, ← ih]
      split_ifs with isOk
      · rw [List.cons.injEq]
        exact ⟨fun same => ⟨isOk, same.2⟩, fun same => ⟨rfl, same.2⟩⟩
      · refine ⟨fun same => ?_, fun same => absurd same.1 isOk⟩
        exact absurd (List.cons.inj same).2.symm (List.cons_ne_nil _ _)

/-- What the search of `FreeResourceByCriteria` finds. -/
theorem Represents.search
    (represents : Represents state registry)
    (owned : registry.lists context = some entries)
    (ui32SearchCriteria ui32ResType : BitVec 32)
    (pvParam : BitVec 64)
    (ui32Param : BitVec 32)
    (enough : entries.length < bound) :
    Memory.anyVa
        (freeResourceByCriteriaAnyVaCb state ui32SearchCriteria ui32ResType
          pvParam ui32Param)
        bound state.itemLinks (state.itemLinks.head context) =
      some ((entries.filter fun entry => entry.item.fits ui32SearchCriteria
        ui32ResType pvParam ui32Param).head?.map Entry.address) := by
  have leads := represents.itemLinks.leads context _
    (Represents.addresses owned)
  have answers : ∀ address ∈ entries.map Entry.address,
      freeResourceByCriteriaAnyVaCb state ui32SearchCriteria ui32ResType
          pvParam ui32Param address =
        some ((state.items address).bind fun item =>
          if item.fits ui32SearchCriteria ui32ResType pvParam ui32Param then
            some address else none) := by
    intro address member
    obtain ⟨entry, inEntries, rfl⟩ := List.mem_map.mp member
    rw [freeResourceByCriteriaAnyVaCb,
      represents.items context entries owned entry inEntries]
    rfl
  rw [Memory.anyVa_leads leads answers (by rwa [List.length_map]),
    List.head?_filter, List.findSome?_map]
  have isItem := represents.items context entries owned
  clear owned leads answers enough
  congr 1
  induction entries with
  | nil => rfl
  | cons entry rest ih =>
    have following := ih fun other member =>
      isItem other (List.mem_cons_of_mem _ member)
    rw [List.findSome?_cons, List.find?_cons, Function.comp_apply,
      isItem entry mem_cons_self, bind_some]
    cases entry.item.fits ui32SearchCriteria ui32ResType pvParam
      ui32Param with
    | false => exact following
    | true => rfl

/-- The items of `entries` that are not in `gone`. -/
def without (entries gone : List Entry) : List Entry :=
  entries.filter fun entry => entry ∉ gone

/-- `FreeResourceByCriteria` calls the callbacks of the fitting items in the
order of the list, up to the first that fails. -/
theorem Represents.freeResourceByCriteriaLoop
    {matching : List Entry}
    (represents : Represents state registry)
    (owned : registry.lists context = some entries)
    {ui32SearchCriteria : BitVec 32}
    {pvParam : BitVec 64}
    {ui32Param : BitVec 32}
    (result : Address → PvrsrvError)
    (isMatching : (entries.filter fun entry => entry.item.fits
      ui32SearchCriteria ui32ResType pvParam ui32Param) = matching)
    {fuel : Nat}
    (enoughBound : entries.length < bound)
    (enough : matching.length < fuel) :
    ∃ eError after,
      freeResourceByCriteriaLoop bound result context ui32SearchCriteria
          ui32ResType pvParam ui32Param true fuel pvrsrvOk state =
        some (eError, after) ∧
        Represents after (registry.setEntries context
          (without entries (attempted result matching))) ∧
        after.calls = state.calls ++
          (attempted result matching).map (Entry.call · cleanupWithPoll) := by
  induction matching generalizing state registry entries fuel with
  | nil =>
    obtain ⟨fuel, rfl⟩ := Nat.exists_eq_add_of_lt enough
    refine ⟨pvrsrvOk, state, ?_, ?_, (append_nil _).symm⟩
    · rw [Resman.freeResourceByCriteriaLoop,
        represents.search owned _ _ _ _ enoughBound, isMatching]
      rfl
    · have nothing : without entries (attempted result []) = entries :=
        List.filter_eq_self.mpr fun entry _ => decide_eq_true not_mem_nil
      rw [nothing, setEntries_same owned]
      exact represents
  | cons first rest ih =>
    cases fuel with
    | zero => exact absurd enough (Nat.not_lt_zero _)
    | succ fuel =>
      have inMatching : first ∈ entries.filter fun entry =>
          entry.item.fits ui32SearchCriteria ui32ResType pvParam
            ui32Param := isMatching ▸ mem_cons_self
      have member := (List.mem_filter.mp inMatching).1
      have distinct : entries.Nodup :=
        (represents.nodup owned).of_map Entry.address
      have restMatching : ((entries.erase first).filter fun entry =>
          entry.item.fits ui32SearchCriteria ui32ResType pvParam
            ui32Param) = rest := by
        have matchingDistinct := distinct.filter fun entry =>
          entry.item.fits ui32SearchCriteria ui32ResType pvParam ui32Param
        rw [isMatching] at matchingDistinct
        rw [distinct.erase_eq_filter, filter_filter,
          filter_congr fun entry _ => Bool.and_comm _ _,
          ← filter_filter, isMatching,
          ← matchingDistinct.erase_eq_filter, List.erase_cons_head]
      obtain ⟨middle, frees, middleRepresents, middleCalls⟩ :=
        represents.freeResourceByPtr owned member result true
          cleanupWithPoll
      rw [if_pos rfl] at frees middleCalls
      have shorter : (entries.erase first).length < bound :=
        Nat.lt_of_le_of_lt List.length_erase_le enoughBound
      rw [Resman.freeResourceByCriteriaLoop,
        represents.search owned _ _ _ _ enoughBound, isMatching]
      simp only [bind_eq_bind, bind_some, List.head?_cons,
        map_some, if_true, frees]
      by_cases isOk : result first.address = pvrsrvOk
      · rw [isOk]
        obtain ⟨eError, after, runs, afterRepresents, afterCalls⟩ :=
          ih middleRepresents (setEntries_self _ _ _) restMatching shorter
            (Nat.lt_of_succ_lt_succ enough)
        refine ⟨eError, after, runs, ?_, ?_⟩
        · rw [setEntries_setEntries] at afterRepresents
          have same : without (entries.erase first)
              (attempted result rest) =
              without entries (attempted result (first :: rest)) := by
            rw [attempted, if_pos isOk, without, without,
              distinct.erase_eq_filter, filter_filter]
            apply filter_congr
            intro entry _
            rw [Bool.eq_iff_iff]
            simp [and_comm]
          rwa [same] at afterRepresents
        · rw [afterCalls, middleCalls, attempted, if_pos isOk,
            List.map_cons, append_assoc, List.singleton_append]
      · obtain ⟨fuel, rfl⟩ := Nat.exists_eq_add_of_lt
          (Nat.lt_of_succ_lt_succ enough)
        refine ⟨result first.address, middle, ?_, ?_, ?_⟩
        · rw [Resman.freeResourceByCriteriaLoop,
            middleRepresents.search (setEntries_self _ _ _)
              _ _ _ _ shorter, bind_eq_bind, bind_some]
          split
          · rfl
          · rw [if_neg isOk]
        · have same : entries.erase first =
              without entries (attempted result (first :: rest)) := by
            rw [attempted, if_neg isOk, without, distinct.erase_eq_filter]
            apply filter_congr
            intro entry _
            rw [Bool.eq_iff_iff]
            simp
          rwa [same] at middleRepresents
        · rw [middleCalls, attempted, if_neg isOk, List.map_singleton]

/-! ## Freeing types in order -/

/-- The types `PVRSRVResManDisconnect` frees, in its order. -/
def disconnectTypes : List (BitVec 32) :=
  typesBeforeSyncOps ++ resmanTypeModifySyncOps :: typesAfterSyncOps

/-- The items of a type, in the order they are to be freed: last registered
first, except for the sync modifications. -/
def freeOrder (entries : List Entry) (ui32ResType : BitVec 32) :
    List Entry :=
  let ofType := entries.filter fun entry =>
    entry.item.ui32ResType == ui32ResType
  if ui32ResType = resmanTypeModifySyncOps then ofType.reverse else ofType

/-- The items whose callbacks are called while these types are freed. -/
def calledFor (result : Address → PvrsrvError) (entries : List Entry)
    (types : List (BitVec 32)) : List Entry :=
  types.flatMap fun ui32ResType =>
    attempted result (freeOrder entries ui32ResType)

theorem mem_freeOrder
    {entry : Entry} :
    entry ∈ freeOrder entries ui32ResType ↔
      entry ∈ entries ∧ entry.item.ui32ResType = ui32ResType := by
  rw [freeOrder]
  split_ifs <;> simp

theorem mem_calledFor
    {result : Address → PvrsrvError}
    {entry : Entry}
    (member : entry ∈ calledFor result entries types) :
    entry ∈ entries ∧ entry.item.ui32ResType ∈ types := by
  obtain ⟨ui32ResType, inTypes, called⟩ := List.mem_flatMap.mp member
  obtain ⟨inEntries, rfl⟩ :=
    mem_freeOrder.mp ((attempted_isPrefix result _).subset called)
  exact ⟨inEntries, inTypes⟩

theorem fits_restype
    (item : ResmanItem)
    (ui32ResType : BitVec 32)
    (pvParam : BitVec 64)
    (ui32Param : BitVec 32) :
    item.fits resmanCriteriaRestype ui32ResType pvParam ui32Param =
      (item.ui32ResType == ui32ResType) := by
  simp [ResmanItem.fits]

/-- Freeing some types leaves the items of another type. -/
theorem filter_without_calledFor
    (result : Address → PvrsrvError)
    (newType : ui32ResType ∉ types) :
    ((without entries (calledFor result entries types)).filter fun entry =>
        entry.item.ui32ResType == ui32ResType) =
      entries.filter fun entry => entry.item.ui32ResType == ui32ResType := by
  rw [without, filter_filter]
  apply filter_congr
  intro entry _
  rw [Bool.and_eq_left_iff_imp]
  intro isType
  apply decide_eq_true
  intro called
  rw [← beq_iff_eq.mp isType] at newType
  exact newType (mem_calledFor called).2

theorem without_without
    (first second : List Entry) :
    without (without entries first) second =
      without entries (first ++ second) := by
  rw [without, without, without, filter_filter]
  apply filter_congr
  intro entry _
  rw [Bool.eq_iff_iff]
  simp [and_comm]

theorem without_reverse
    (gone : List Entry) :
    without entries.reverse gone = (without entries gone).reverse :=
  List.filter_reverse

/-- These types of the items have been freed. -/
structure Freed (before : ResmanState) (registry : Registry)
    (context : Address) (entries : List Entry)
    (result : Address → PvrsrvError) (types : List (BitVec 32))
    (after : ResmanState) : Prop where
  represents : Represents after (registry.setEntries context
    (without entries (calledFor result entries types)))
  calls : after.calls = before.calls ++
    (calledFor result entries types).map (Entry.call · cleanupWithPoll)

variable
  {before : ResmanState}
  {result : Address → PvrsrvError}
  {types : List (BitVec 32)}
  {fuel : Nat}

theorem without_length_lt
    {gone : List Entry}
    (enough : entries.length < fuel) :
    (without entries gone).length < fuel :=
  Nat.lt_of_le_of_lt (List.length_filter_le _ _) enough

/-- `FreeResourceByCriteria` for one type. -/
theorem Represents.freeResourceType
    (represents : Represents state registry)
    (owned : registry.lists context = some entries)
    (result : Address → PvrsrvError)
    (ui32ResType : BitVec 32)
    (enough : entries.length < fuel) :
    ∃ after,
      freeResourceType fuel result context state ui32ResType = some after ∧
        Represents after (registry.setEntries context
          (without entries (attempted result (entries.filter fun entry =>
            entry.item.ui32ResType == ui32ResType)))) ∧
        after.calls = state.calls ++
          (attempted result (entries.filter fun entry =>
            entry.item.ui32ResType == ui32ResType)).map
              (Entry.call · cleanupWithPoll) := by
  obtain ⟨psPerProc, live⟩ := represents.live owned
  have isMatching : (entries.filter fun entry => entry.item.fits
      resmanCriteriaRestype ui32ResType 0 0) =
        entries.filter fun entry => entry.item.ui32ResType == ui32ResType :=
    filter_congr fun entry _ => fits_restype entry.item ui32ResType 0 0
  obtain ⟨eError, after, runs, afterRepresents, afterCalls⟩ :=
    represents.freeResourceByCriteriaLoop owned result isMatching enough
      (Nat.lt_of_le_of_lt (List.length_filter_le _ _) enough)
  refine ⟨after, ?_, afterRepresents, afterCalls⟩
  rw [Resman.freeResourceType, freeResourceByCriteria, live,
    bind_eq_bind, bind_some, runs, map_some]

section

variable (freed : Freed before registry context entries result types state)
include freed

theorem Freed.freeResourceType
    (newType : ui32ResType ∉ types)
    (forward : ui32ResType ≠ resmanTypeModifySyncOps)
    (enough : entries.length < fuel) :
    ∃ after,
      freeResourceType fuel result context state ui32ResType = some after ∧
        Freed before registry context entries result
          (types ++ [ui32ResType]) after := by
  obtain ⟨after, runs, represents, calls⟩ :=
    freed.represents.freeResourceType (setEntries_self _ _ _) result
      ui32ResType (without_length_lt enough)
  have order : freeOrder entries ui32ResType = entries.filter fun entry =>
      entry.item.ui32ResType == ui32ResType := if_neg forward
  rw [filter_without_calledFor result newType, ← order] at represents calls
  have called : calledFor result entries (types ++ [ui32ResType]) =
      calledFor result entries types ++
        attempted result (freeOrder entries ui32ResType) := by
    rw [calledFor, List.flatMap_append, List.flatMap_singleton]
    rfl
  refine ⟨after, runs, ?_, ?_⟩
  · rw [called, ← without_without]
    rwa [setEntries_setEntries] at represents
  · rw [called, List.map_append, ← append_assoc, ← freed.calls]
    exact calls

theorem Freed.foldlM
    {more : List (BitVec 32)}
    (distinct : (types ++ more).Nodup)
    (forward : resmanTypeModifySyncOps ∉ more)
    (enough : entries.length < fuel) :
    ∃ after,
      more.foldlM (Resman.freeResourceType fuel result context) state =
          some after ∧
        Freed before registry context entries result (types ++ more)
          after := by
  induction more generalizing types state with
  | nil => exact ⟨state, rfl, by rwa [append_nil]⟩
  | cons ui32ResType more ih =>
    have newType : ui32ResType ∉ types := fun inTypes =>
      (nodup_append.mp distinct).2.2 _ inTypes _ mem_cons_self rfl
    rw [append_cons] at distinct ⊢
    obtain ⟨middle, runs, middleFreed⟩ := freed.freeResourceType newType
      (fun isModify => forward (isModify ▸ mem_cons_self)) enough
    obtain ⟨after, restRuns, afterFreed⟩ := ih middleFreed
      distinct (fun member => forward (List.mem_cons_of_mem _ member))
    refine ⟨after, ?_, afterFreed⟩
    rw [List.foldlM_cons, runs]
    exact restRuns

/-- The sync modifications are freed on the reversed list. -/
theorem Freed.freeSyncOps
    (newType : resmanTypeModifySyncOps ∉ types)
    (enough : entries.length < fuel) :
    ∃ turned middle after,
      Resman.reverseItems fuel context state = some turned ∧
        Resman.freeResourceType fuel result context turned
          resmanTypeModifySyncOps = some middle ∧
        Resman.reverseItems fuel context middle = some after ∧
        Freed before registry context entries result
          (types ++ [resmanTypeModifySyncOps]) after := by
  have shorter : (without entries (calledFor result entries types)).length <
      fuel := without_length_lt enough
  obtain ⟨turned, reverses, turnedRepresents, turnedCalls⟩ :=
    freed.represents.reverseItems (setEntries_self _ _ _) shorter
  obtain ⟨middle, runs, middleRepresents, middleCalls⟩ :=
    turnedRepresents.freeResourceType (setEntries_self _ _ _) result
      resmanTypeModifySyncOps (by rwa [List.length_reverse])
  have order : freeOrder entries resmanTypeModifySyncOps =
      (entries.filter fun entry =>
        entry.item.ui32ResType == resmanTypeModifySyncOps).reverse := by
    rw [freeOrder, if_pos rfl]
  rw [List.filter_reverse, filter_without_calledFor result newType, ← order]
    at middleRepresents middleCalls
  obtain ⟨after, reversesBack, afterRepresents, afterCalls⟩ :=
    middleRepresents.reverseItems (setEntries_self _ _ _)
      (without_length_lt (by rwa [List.length_reverse]))
  have called :
      calledFor result entries (types ++ [resmanTypeModifySyncOps]) =
        calledFor result entries types ++
          attempted result (freeOrder entries resmanTypeModifySyncOps) := by
    rw [calledFor, List.flatMap_append, List.flatMap_singleton]
    rfl
  refine ⟨turned, middle, after, reverses, runs, reversesBack, ?_, ?_⟩
  · rw [called, ← without_without]
    rwa [setEntries_setEntries, setEntries_setEntries,
      setEntries_setEntries, without_reverse, List.reverse_reverse]
      at afterRepresents
  · rw [called, List.map_append, ← append_assoc, ← freed.calls,
      ← turnedCalls, afterCalls]
    exact middleCalls

end

theorem disconnectTypes_nodup : disconnectTypes.Nodup := by
  decide +kernel

/-- All types are freed. -/
theorem Represents.freeAllResources
    (represents : Represents state registry)
    (owned : registry.lists context = some entries)
    (result : Address → PvrsrvError)
    (enough : entries.length < fuel) :
    ∃ after, freeAllResources fuel result context state = some after ∧
      Freed state registry context entries result disconnectTypes after := by
  have start : Freed state registry context entries result [] state := by
    have nothing : without entries (calledFor result entries []) = entries :=
      List.filter_eq_self.mpr fun entry _ => decide_eq_true not_mem_nil
    refine ⟨?_, (append_nil _).symm⟩
    rw [nothing, setEntries_same owned]
    exact represents
  have distinct := disconnectTypes_nodup
  rw [disconnectTypes, append_cons] at distinct
  obtain ⟨distinctFront, distinctAfter, _⟩ := nodup_append.mp distinct
  obtain ⟨distinctBefore, _, apart⟩ := nodup_append.mp distinctFront
  rw [← List.nil_append typesBeforeSyncOps] at distinctBefore
  have notBefore : resmanTypeModifySyncOps ∉ typesBeforeSyncOps := by
    intro member
    exact apart _ member _ (List.mem_singleton_self _) rfl
  have notAfter : resmanTypeModifySyncOps ∉ typesAfterSyncOps := by
    decide +kernel
  obtain ⟨first, firstRuns, firstFreed⟩ :=
    start.foldlM distinctBefore notBefore enough
  rw [List.nil_append] at firstFreed
  obtain ⟨turned, middle, second, reverses, runs, reversesBack,
    secondFreed⟩ := firstFreed.freeSyncOps notBefore enough
  obtain ⟨after, afterRuns, afterFreed⟩ :=
    secondFreed.foldlM distinct notAfter enough
  rw [← append_cons] at afterFreed
  refine ⟨after, ?_, afterFreed⟩
  exact bind_eq_some_iff.mpr ⟨first, firstRuns,
    bind_eq_some_iff.mpr ⟨turned, reverses,
      bind_eq_some_iff.mpr ⟨middle, runs,
        bind_eq_some_iff.mpr ⟨second, reversesBack, afterRuns⟩⟩⟩⟩

end PvrServices.Resman
