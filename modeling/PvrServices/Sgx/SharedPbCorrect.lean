import PvrServices.Sgx.SharedPb
import Mathlib.Data.List.Count
import Mathlib.Data.List.Perm.Basic

/-!
# The shared parameter buffer is shared safely

The reference count of a stub is the number of its items modulo `2 ^ 32`.  The
list and the lock exclude each other: the lock is taken only while the list is
empty, and given back before a stub is added.
-/

namespace PvrServices.SharedPb

open Function (update update_of_ne update_self)
open Resman
open List (countP_cons mem_cons mem_cons_of_mem mem_cons_self mem_map
  mem_singleton not_mem_nil)

/-! ## Counting -/

section Counting

variable {items : List Item} {item : Item} {stub : Nat}

theorem references_cons (item : Item) (items : List Item) (stub : Nat) :
    references stub (item :: items) = references stub items +
      if item.resource = .sharedPb stub then 1 else 0 := by
  simp [references, countP_cons]

theorem references_erase (isItem : item ∈ items) (stub : Nat) :
    references stub items = references stub (items.erase item) +
      if item.resource = .sharedPb stub then 1 else 0 := by
  rw [← references_cons]
  exact (List.perm_cons_erase isItem).countP_eq _

theorem references_pos :
    0 < references stub items ↔
      ∃ item ∈ items, item.resource = .sharedPb stub := by
  simp [references, List.countP_pos_iff]

theorem references_le_length (stub : Nat) (items : List Item) :
    references stub items ≤ items.length :=
  List.countP_le_length

theorem additions_cons (event : Event) (history : List Event) (stub : Nat) :
    additions stub (event :: history) = additions stub history +
      match event with
      | .added other _ => if other = stub then 1 else 0
      | _ => 0 := by
  cases event <;> simp [additions, countP_cons]

theorem releases_cons (event : Event) (history : List Event) (stub : Nat) :
    releases stub (event :: history) = releases stub history +
      match event with
      | .released other _ => if other = stub then 1 else 0
      | _ => 0 := by
  cases event <;> simp [releases, countP_cons]

end Counting

/-! ## The invariant -/

/-- The items are allocated at different addresses. -/
structure ItemsApart (state : State) : Prop where
  fresh : ∀ item ∈ state.items, item.address < state.nextItem
  nodup : (state.items.map (·.address)).Nodup

/-- The creation lock is an item, or free. -/
structure LockMatches (state : State) : Prop where
  held : ∀ psPerProc, state.psPerProcCreateSharedPB = some psPerProc →
    state.psStubPBDescListKM = [] ∧
      ∃ item ∈ state.items, item.resource = .createLock psPerProc
  holder : ∀ item ∈ state.items, ∀ psPerProc,
    item.resource = .createLock psPerProc →
      state.psResItemCreateSharedPB = some item.address ∧
        state.psPerProcCreateSharedPB = some psPerProc ∧
        item.process = psPerProc
  same : state.psResItemCreateSharedPB = none ↔
    state.psPerProcCreateSharedPB = none

/-- The list is the stub that the items refer to. -/
structure StubsMatch (state : State) : Prop where
  short : state.psStubPBDescListKM.length ≤ 1
  live : ∀ stub, stub ∈ state.psStubPBDescListKM ↔
    ∃ desc, state.stubs stub = some desc
  referred : ∀ stub, 0 < references stub state.items ↔
    stub ∈ state.psStubPBDescListKM
  counted : ∀ stub desc, state.stubs stub = some desc →
    desc.ui32RefCount = BitVec.ofNat 32 (references stub state.items)
  old : ∀ stub, stub ∈ state.psStubPBDescListKM → stub < state.nextStub

/-- Every stub that was added is live or has been released. -/
structure HistoryMatches (state : State) : Prop where
  fresh : ∀ stub, state.nextStub ≤ stub → additions stub state.history = 0
  once : ∀ stub, additions stub state.history ≤ 1
  balanced : ∀ stub, additions stub state.history =
    releases stub state.history +
      if stub ∈ state.psStubPBDescListKM then 1 else 0
  added : ∀ stub desc, state.stubs stub = some desc →
    .added stub desc.memInfos ∈ state.history
  released : ∀ stub freed, .released stub freed ∈ state.history →
    ∃ memInfos, .added stub memInfos ∈ state.history ∧
      freed = memInfos.cleanupOrder

/-- The invariant of the protocol. -/
structure PbInvariant (state : State) : Prop where
  apart : ItemsApart state
  lock : LockMatches state
  stubs : StubsMatch state
  history : HistoryMatches state

section Calls

variable {state next : State} {item : Item} {stub : Nat} {desc : StubPbDesc}

theorem ItemsApart.erase
    (apart : ItemsApart state)
    (item : Item) :
    ItemsApart { state with items := state.items.erase item } where
  fresh := fun other isOther =>
    apart.fresh other (List.mem_of_mem_erase isOther)
  nodup := apart.nodup.sublist (List.erase_sublist.map _)

section

variable (apart : ItemsApart state)
include apart

theorem ItemsApart.eq_of_address
    {other : Item}
    (isItem : item ∈ state.items)
    (isOther : other ∈ state.items)
    (same : other.address = item.address) :
    other = item :=
  List.inj_on_of_nodup_map apart.nodup isOther isItem same

theorem ItemsApart.find
    (isItem : item ∈ state.items) :
    state.items.find? (·.address == item.address) = some item := by
  cases isFound : state.items.find? (·.address == item.address) with
  | none =>
    have := List.find?_eq_none.mp isFound item isItem
    exact absurd this (by simp)
  | some found =>
    have sameAddress := List.find?_some isFound
    rw [apart.eq_of_address isItem (List.mem_of_find?_eq_some isFound)
      (by simpa using sameAddress)]

theorem ItemsApart.mem_erase
    {item other : Item} :
    other ∈ state.items.erase item ↔ other ∈ state.items ∧ other ≠ item := by
  have nodup : state.items.Nodup := apart.nodup.of_map
  rw [nodup.mem_erase_iff]
  exact and_comm

/-- A registered item is a new one. -/
theorem ItemsApart.register
    (psPerProc : Nat)
    (resource : Resource)
    (registered : Bool) :
    ItemsApart (state.resManRegisterRes psPerProc resource registered).2 := by
  unfold State.resManRegisterRes
  split_ifs
  · constructor
    · intro item isItem
      rcases mem_cons.mp isItem with rfl | before
      · exact Nat.lt_succ_self _
      · exact Nat.lt_succ_of_lt (apart.fresh item before)
    · refine List.nodup_cons.mpr ⟨fun isOld => ?_, apart.nodup⟩
      obtain ⟨item, isItem, sameAddress⟩ := mem_map.mp isOld
      exact absurd sameAddress (Nat.ne_of_lt (apart.fresh item isItem))
  · exact apart

end

section

variable (stubs : StubsMatch state)
include stubs

/-- The list holds nothing but the stub. -/
theorem StubsMatch.list_eq
    (isListed : stub ∈ state.psStubPBDescListKM) :
    state.psStubPBDescListKM = [stub] := by
  obtain ⟨only, isOnly⟩ := List.length_eq_one_iff.mp
    (Nat.le_antisymm stubs.short (List.length_pos_of_mem isListed))
  rw [isOnly] at isListed ⊢
  rw [mem_singleton.mp isListed]

theorem StubsMatch.unlisted
    (notListed : stub ∉ state.psStubPBDescListKM) :
    references stub state.items = 0 :=
  Nat.eq_zero_of_not_pos fun isPos => notListed ((stubs.referred stub).mp isPos)

/-- A live stub is the one of the list. -/
theorem StubsMatch.eq_of_live
    {other : Nat}
    (isListed : stub ∈ state.psStubPBDescListKM)
    (isOther : state.stubs other = some desc) :
    other = stub := by
  have otherListed := (stubs.live other).mpr ⟨desc, isOther⟩
  rw [stubs.list_eq isListed] at otherListed
  exact mem_singleton.mp otherListed

theorem StubsMatch.none_live
    (isEmpty : state.psStubPBDescListKM = [])
    (stub : Nat) :
    state.stubs stub = none := by
  cases isStub : state.stubs stub with
  | none => rfl
  | some desc =>
    have isListed := (stubs.live stub).mpr ⟨desc, isStub⟩
    rw [isEmpty] at isListed
    exact absurd isListed not_mem_nil

end

/-- The creation lock is free while a stub is listed. -/
theorem LockMatches.isFree
    (lock : LockMatches state)
    (isListed : stub ∈ state.psStubPBDescListKM) :
    state.psPerProcCreateSharedPB = none := by
  cases isHeld : state.psPerProcCreateSharedPB with
  | none => rfl
  | some psPerProc =>
    obtain ⟨isEmpty, -⟩ := lock.held psPerProc isHeld
    rw [isEmpty] at isListed
    exact absurd isListed not_mem_nil

theorem LockMatches.unlocked
    (lock : LockMatches state)
    (isListed : stub ∈ state.psStubPBDescListKM)
    (sameOwner :
      next.psPerProcCreateSharedPB = state.psPerProcCreateSharedPB)
    (sameItem : next.psResItemCreateSharedPB = state.psResItemCreateSharedPB)
    (fewer : ∀ item ∈ next.items, item ∈ state.items) :
    LockMatches next := by
  have isFree := lock.isFree isListed
  constructor
  · intro psPerProc isHeld
    rw [sameOwner, isFree] at isHeld
    cases isHeld
  · intro item isItem psPerProc isLock
    obtain ⟨-, isHeld, -⟩ :=
      lock.holder item (fewer item isItem) psPerProc isLock
    rw [isFree] at isHeld
    cases isHeld
  · rw [sameOwner, sameItem]
    exact lock.same

/-- The stub of the list gets another reference count. -/
theorem StubsMatch.recount
    (stubs : StubsMatch state)
    (isListed : stub ∈ state.psStubPBDescListKM)
    (isDesc : state.stubs stub = some desc)
    (sameList : next.psStubPBDescListKM = state.psStubPBDescListKM)
    (sameNext : next.nextStub = state.nextStub)
    (recounted : next.stubs = update state.stubs stub
      (some { desc with
        ui32RefCount := BitVec.ofNat 32 (references stub next.items) }))
    (some : 0 < references stub next.items)
    (others : ∀ other, other ≠ stub → references other next.items = 0) :
    StubsMatch next := by
  have isOnly := stubs.list_eq isListed
  constructor
  · rw [sameList]
    exact stubs.short
  · intro other
    rw [sameList, recounted]
    by_cases isThis : other = stub
    · subst isThis
      simpa using isListed
    · rw [update_of_ne isThis]
      exact stubs.live other
  · intro other
    rw [sameList, isOnly, mem_singleton]
    by_cases isThis : other = stub
    · subst isThis
      simpa using some
    · simp [isThis, others other isThis]
  · intro other otherDesc isOther
    rw [recounted] at isOther
    by_cases isThis : other = stub
    · subst isThis
      rw [update_self] at isOther
      cases isOther
      rfl
    · rw [update_of_ne isThis] at isOther
      exact absurd (stubs.eq_of_live isListed isOther) isThis
  · intro other isOther
    rw [sameNext]
    exact stubs.old other (sameList ▸ isOther)

/-- The stub leaves the list with its last reference. -/
theorem StubsMatch.release
    (stubs : StubsMatch state)
    (isListed : stub ∈ state.psStubPBDescListKM)
    (emptied : next.psStubPBDescListKM = [])
    (released : next.stubs = update state.stubs stub none)
    (unreferred : ∀ other, references other next.items = 0) :
    StubsMatch next := by
  have noneLive : ∀ other, next.stubs other = none := by
    intro other
    rw [released]
    by_cases isThis : other = stub
    · rw [isThis, update_self]
    · rw [update_of_ne isThis]
      cases isOther : state.stubs other with
      | none => rfl
      | some desc => exact absurd (stubs.eq_of_live isListed isOther) isThis
  constructor
  · simp [emptied]
  · simp [emptied, noneLive]
  · simp [emptied, unreferred]
  · simp [noneLive]
  · simp [emptied]

/-- The first stub is listed with one reference. -/
theorem StubsMatch.first
    (stubs : StubsMatch state)
    (isEmpty : state.psStubPBDescListKM = [])
    (counted : desc.ui32RefCount = 1)
    (listed : next.psStubPBDescListKM = [state.nextStub])
    (made : next.stubs =
      update state.stubs state.nextStub (some desc))
    (fresh : next.nextStub = state.nextStub + 1)
    (referred : ∀ stub, references stub next.items =
      if stub = state.nextStub then 1 else 0) :
    StubsMatch next := by
  constructor
  · simp [listed]
  · intro stub
    rw [listed, made, mem_singleton]
    by_cases isThis : stub = state.nextStub
    · simp [isThis]
    · simp [isThis, stubs.none_live isEmpty]
  · intro stub
    rw [listed, referred, mem_singleton]
    by_cases isThis : stub = state.nextStub
    · simp [isThis]
    · simp [isThis]
  · intro stub other isOther
    rw [made] at isOther
    by_cases isThis : stub = state.nextStub
    · subst isThis
      rw [update_self] at isOther
      cases isOther
      simp [counted, referred]
    · rw [update_of_ne isThis, stubs.none_live isEmpty] at isOther
      cases isOther
  · intro stub isStub
    rw [listed, mem_singleton] at isStub
    rw [isStub, fresh]
    exact Nat.lt_succ_self _

/-- The history of a stub does not depend on its reference count. -/
theorem HistoryMatches.recount
    (history : HistoryMatches state)
    {ui32RefCount : BitVec 32}
    (isDesc : state.stubs stub = some desc)
    (sameList : next.psStubPBDescListKM = state.psStubPBDescListKM)
    (sameNext : next.nextStub = state.nextStub)
    (recounted : next.stubs = update state.stubs stub
      (some { desc with ui32RefCount }))
    (sameHistory : next.history = state.history) :
    HistoryMatches next := by
  constructor
  · rw [sameNext, sameHistory]
    exact history.fresh
  · rw [sameHistory]
    exact history.once
  · rw [sameHistory, sameList]
    exact history.balanced
  · intro other otherDesc isOther
    rw [sameHistory]
    rw [recounted] at isOther
    by_cases isThis : other = stub
    · subst isThis
      rw [update_self] at isOther
      cases isOther
      exact history.added other desc isDesc
    · rw [update_of_ne isThis] at isOther
      exact history.added other otherDesc isOther
  · rw [sameHistory]
    exact history.released

/-- The release of the only stub is logged. -/
theorem HistoryMatches.release
    (history : HistoryMatches state)
    {sHWPBDescDevVAddr : BitVec 32}
    (isDesc : state.stubs stub = some desc)
    (isOnly : state.psStubPBDescListKM = [stub])
    (emptied : next.psStubPBDescListKM = [])
    (sameNext : next.nextStub = state.nextStub)
    (released : next.stubs = update state.stubs stub none)
    (logged : next.history = .cleanup sHWPBDescDevVAddr ::
      .released stub desc.memInfos.cleanupOrder :: state.history) :
    HistoryMatches next := by
  have later : ∀ event ∈ state.history, event ∈ next.history := by
    intro event before
    rw [logged]
    exact mem_cons_of_mem _ (mem_cons_of_mem _ before)
  constructor
  · intro other isFresh
    rw [sameNext] at isFresh
    simp only [logged, additions_cons]
    exact history.fresh other isFresh
  · intro other
    simp only [logged, additions_cons]
    exact history.once other
  · intro other
    have balanced := history.balanced other
    simp only [logged, additions_cons, releases_cons, emptied]
    rw [isOnly] at balanced
    by_cases isThis : other = stub
    · simpa [isThis] using balanced
    · simpa [isThis, Ne.symm isThis] using balanced
  · intro other otherDesc isOther
    rw [released] at isOther
    by_cases isThis : other = stub
    · subst isThis
      rw [update_self] at isOther
      cases isOther
    · rw [update_of_ne isThis] at isOther
      exact later _ (history.added other otherDesc isOther)
  · intro other freed isReleased
    rw [logged] at isReleased
    rcases mem_cons.mp isReleased with isCleanup | isReleased
    · exact absurd isCleanup (by simp)
    · rcases mem_cons.mp isReleased with isNow | before
      · obtain ⟨rfl, rfl⟩ := Event.released.inj isNow
        exact ⟨desc.memInfos, later _ (history.added other desc isDesc), rfl⟩
      · obtain ⟨memInfos, isAdded, isOrder⟩ :=
          history.released other freed before
        exact ⟨memInfos, later _ isAdded, isOrder⟩

/-- The addition of the first stub is logged. -/
theorem HistoryMatches.first
    (history : HistoryMatches state)
    (noStubs : ∀ stub, state.stubs stub = none)
    (isEmpty : state.psStubPBDescListKM = [])
    (listed : next.psStubPBDescListKM = [state.nextStub])
    (made : next.stubs =
      update state.stubs state.nextStub (some desc))
    (fresh : next.nextStub = state.nextStub + 1)
    (logged : next.history =
      .added state.nextStub desc.memInfos :: state.history) :
    HistoryMatches next := by
  have noAdditions : additions state.nextStub state.history = 0 :=
    history.fresh _ (Nat.le_refl _)
  constructor
  · intro stub isFresh
    rw [fresh] at isFresh
    have notThis : state.nextStub ≠ stub := Nat.ne_of_lt isFresh
    simp only [logged, additions_cons, if_neg notThis]
    exact history.fresh stub (Nat.le_of_succ_le isFresh)
  · intro stub
    simp only [logged, additions_cons]
    by_cases isThis : state.nextStub = stub
    · simp [← isThis, noAdditions]
    · rw [if_neg isThis]
      exact history.once stub
  · intro stub
    have balanced := history.balanced stub
    simp only [isEmpty, not_mem_nil, if_false] at balanced
    simp only [logged, additions_cons, releases_cons, listed,
      mem_singleton, balanced]
    by_cases isThis : stub = state.nextStub
    · simp [isThis]
    · simp [isThis, Ne.symm isThis]
  · intro stub other isOther
    rw [made] at isOther
    rw [logged]
    by_cases isThis : stub = state.nextStub
    · subst isThis
      rw [update_self] at isOther
      cases isOther
      exact mem_cons_self
    · rw [update_of_ne isThis, noStubs] at isOther
      cases isOther
  · intro stub freed isReleased
    rw [logged] at isReleased ⊢
    rcases mem_cons.mp isReleased with isAdded | before
    · exact absurd isAdded (by simp)
    · obtain ⟨its, isAdded, isOrder⟩ := history.released stub freed before
      exact ⟨its, mem_cons_of_mem _ isAdded, isOrder⟩

theorem ofNat_succ_sub_one (count : Nat) :
    BitVec.ofNat 32 (count + 1) - 1 = BitVec.ofNat 32 count := by
  rw [BitVec.ofNat_add]
  exact BitVec.add_sub_cancel _ _

/-- `ResManFreeResByPtr` on the lock item. -/
theorem PbInvariant.freeLock
    (invariant : PbInvariant state)
    {psPerProc : Nat}
    (isItem : item ∈ state.items)
    (isLock : item.resource = .createLock psPerProc) :
    state.resManFreeResByPtr item.address =
        some { state with
          items := state.items.erase item
          psPerProcCreateSharedPB := none
          psResItemCreateSharedPB := none } ∧
      PbInvariant { state with
        items := state.items.erase item
        psPerProcCreateSharedPB := none
        psResItemCreateSharedPB := none } := by
  obtain ⟨apart, lock, stubs, history⟩ := invariant
  have sameReferences : ∀ stub,
      references stub (state.items.erase item) =
        references stub state.items := by
    intro stub
    rw [references_erase isItem stub, if_neg (by simp [isLock])]
    rfl
  have erased := apart.erase item
  refine ⟨?_, ⟨erased.fresh, erased.nodup⟩, ?_, ?_,
    ⟨history.fresh, history.once, history.balanced, history.added,
      history.released⟩⟩
  · simp only [State.resManFreeResByPtr, apart.find isItem, isLock,
      State.freeCallback]
  · refine ⟨nofun, fun other isOther owner otherLock => ?_, by simp⟩
    obtain ⟨before, notThis⟩ := apart.mem_erase.mp isOther
    obtain ⟨isHeld, -⟩ := lock.holder item isItem psPerProc isLock
    obtain ⟨otherHeld, -⟩ := lock.holder other before owner otherLock
    exact absurd (apart.eq_of_address isItem before
      (Option.some.inj (otherHeld.symm.trans isHeld))) notThis
  · constructor
    · exact stubs.short
    · exact stubs.live
    · intro stub
      rw [sameReferences]
      exact stubs.referred stub
    · intro stub desc isStub
      rw [sameReferences]
      exact stubs.counted stub desc isStub
    · exact stubs.old

/-- `ResManFreeResByPtr` on an item that refers to a stub. -/
theorem PbInvariant.freeShared
    (invariant : PbInvariant state)
    (few : FewReferences state)
    (isItem : item ∈ state.items)
    (isShared : item.resource = .sharedPb stub) :
    ∃ next, state.resManFreeResByPtr item.address = some next ∧
      PbInvariant next ∧ next.items = state.items.erase item := by
  obtain ⟨apart, lock, stubs, history⟩ := invariant
  have isListed : stub ∈ state.psStubPBDescListKM :=
    (stubs.referred stub).mp (references_pos.mpr ⟨item, isItem, isShared⟩)
  obtain ⟨desc, isDesc⟩ := (stubs.live stub).mp isListed
  have isOnly := stubs.list_eq isListed
  have oneLess : references stub state.items =
      references stub (state.items.erase item) + 1 := by
    rw [references_erase isItem stub, if_pos isShared]
  have otherReferences : ∀ other, other ≠ stub →
      references other (state.items.erase item) = 0 := by
    intro other notThis
    have unlisted : references other state.items = 0 :=
      stubs.unlisted (by rw [isOnly]; simpa using notThis)
    rw [references_erase isItem other] at unlisted
    omega
  have refCount : desc.ui32RefCount - 1 =
      BitVec.ofNat 32 (references stub (state.items.erase item)) := by
    rw [stubs.counted stub desc isDesc, oneLess, ofNat_succ_sub_one]
  have small : references stub (state.items.erase item) < 2 ^ 32 := by
    have := references_le_length stub state.items
    unfold FewReferences at few
    omega
  have fewer : ∀ other ∈ state.items.erase item, other ∈ state.items :=
    fun _ => List.mem_of_mem_erase
  have erased := apart.erase item
  have freed : state.resManFreeResByPtr item.address =
      { state with items := state.items.erase item }.sgxCleanupSharedPBDesc
        stub := by
    simp only [State.resManFreeResByPtr, apart.find isItem, isShared,
      State.freeCallback]
  rw [freed]
  simp only [State.sgxCleanupSharedPBDesc, isDesc, refCount]
  split_ifs with isLast
  · -- the last item: the stub leaves the list and is released
    have noneLeft : ∀ other,
        references other (state.items.erase item) = 0 := by
      intro other
      by_cases isThis : other = stub
      · have value := congrArg BitVec.toNat isLast
        rw [BitVec.toNat_ofNat, Nat.mod_eq_of_lt small] at value
        rw [isThis]
        exact value
      · exact otherReferences other isThis
    have emptied : state.psStubPBDescListKM.erase stub = [] := by
      rw [isOnly]
      simp
    refine ⟨_, rfl, ⟨⟨erased.fresh, erased.nodup⟩, ?_, ?_, ?_⟩, rfl⟩
    · exact lock.unlocked isListed rfl rfl fewer
    · exact stubs.release isListed emptied rfl noneLeft
    · exact history.release isDesc isOnly emptied rfl rfl rfl
  · -- other items refer to the stub
    refine ⟨_, rfl, ⟨⟨erased.fresh, erased.nodup⟩, ?_, ?_, ?_⟩, rfl⟩
    · exact lock.unlocked isListed rfl rfl fewer
    · exact stubs.recount isListed isDesc rfl rfl rfl
        (Nat.pos_of_ne_zero fun none => isLast (by rw [none]; rfl))
        otherReferences
    · exact history.recount isDesc rfl rfl rfl rfl

/-! ## Freeing items -/

theorem FewReferences.erase
    (few : FewReferences state)
    (erased : next.items = state.items.erase item) :
    FewReferences next := by
  have shorter : (state.items.erase item).length ≤ state.items.length :=
    List.length_erase_le
  unfold FewReferences at few ⊢
  rw [erased]
  omega

section

variable (invariant : PbInvariant state) (few : FewReferences state)
include invariant few

theorem PbInvariant.free
    (isItem : item ∈ state.items) :
    ∃ next, state.resManFreeResByPtr item.address = some next ∧
      PbInvariant next ∧ next.items = state.items.erase item := by
  cases isResource : item.resource with
  | createLock psPerProc =>
    obtain ⟨freed, kept⟩ := invariant.freeLock isItem isResource
    exact ⟨_, freed, kept, rfl⟩
  | sharedPb stub => exact invariant.freeShared few isItem isResource

/-- The items of a list are freed one after the other. -/
theorem PbInvariant.freeAll
    {addresses : List Nat}
    (apart : addresses.Nodup)
    (each : ∀ address ∈ addresses, ∃ item ∈ state.items,
      item.address = address) :
    ∃ next, addresses.foldlM State.resManFreeResByPtr state = some next ∧
      PbInvariant next ∧ FewReferences next := by
  induction addresses generalizing state with
  | nil => exact ⟨state, rfl, invariant, few⟩
  | cons address rest ih =>
    obtain ⟨item, isItem, rfl⟩ := each address mem_cons_self
    obtain ⟨notLater, restApart⟩ := List.nodup_cons.mp apart
    obtain ⟨middle, freed, kept, erased⟩ := invariant.free few isItem
    obtain ⟨next, others, keptNext, fewNext⟩ :=
      ih kept (few.erase erased) restApart
        fun other isLater => by
          obtain ⟨otherItem, isOther, sameAddress⟩ :=
            each other (mem_cons_of_mem _ isLater)
          refine ⟨otherItem, ?_, sameAddress⟩
          rw [erased]
          refine invariant.apart.mem_erase.mpr ⟨isOther, ?_⟩
          rintro rfl
          exact notLater (sameAddress ▸ isLater)
    refine ⟨next, ?_, keptNext, fewNext⟩
    rw [List.foldlM_cons, freed]
    exact others

theorem PbInvariant.freeOfType
    (process : Nat)
    (ofType : Resource → Bool) :
    ∃ next, (state.itemsOf process ofType).foldlM State.resManFreeResByPtr
        state = some next ∧
      PbInvariant next ∧ FewReferences next := by
  refine invariant.freeAll few
    (invariant.apart.nodup.sublist (List.filter_sublist.map _))
    fun address isAddress => ?_
  obtain ⟨item, isItem, sameAddress⟩ := mem_map.mp isAddress
  exact ⟨item, (List.mem_filter.mp isItem).1, sameAddress⟩

theorem PbInvariant.processExit
    (process : Nat) :
    ∃ next, state.processExit process = some next ∧ PbInvariant next := by
  obtain ⟨middle, locks, kept, fewMiddle⟩ :=
    invariant.freeOfType few process Resource.isCreateLock
  obtain ⟨next, stubs, keptNext, -⟩ :=
    kept.freeOfType fewMiddle process Resource.isSharedPb
  refine ⟨next, ?_, keptNext⟩
  rw [State.processExit, locks]
  exact stubs

end

/-! ## Finding and adding -/

section

variable (invariant : PbInvariant state)
include invariant

/-- The memory of the caller is none of the stub. -/
theorem PbInvariant.refuse
    (memInfos : MemInfos) :
    PbInvariant (state.refuse memInfos) := by
  obtain ⟨apart, lock, stubs, history⟩ := invariant
  refine ⟨⟨apart.fresh, apart.nodup⟩, ⟨lock.held, lock.holder, lock.same⟩,
    ⟨stubs.short, stubs.live, stubs.referred, stubs.counted, stubs.old⟩, ?_⟩
  constructor
  · intro stub isFresh
    simp only [State.refuse, additions_cons]
    exact history.fresh stub isFresh
  · intro stub
    simp only [State.refuse, additions_cons]
    exact history.once stub
  · intro stub
    simp only [State.refuse, additions_cons, releases_cons]
    exact history.balanced stub
  · intro stub desc isDesc
    exact mem_cons_of_mem _ (history.added stub desc isDesc)
  · intro stub freed isReleased
    rcases mem_cons.mp isReleased with isRefused | before
    · exact absurd isRefused (by simp)
    · obtain ⟨memInfos, isAdded, isOrder⟩ := history.released stub freed before
      exact ⟨memInfos, mem_cons_of_mem _ isAdded, isOrder⟩

section

variable (psPerProc : Nat)
include psPerProc

/-- A process that finds the stub refers to it. -/
theorem PbInvariant.addReference
    (isListed : stub ∈ state.psStubPBDescListKM)
    (isDesc : state.stubs stub = some desc) :
    PbInvariant { state with
      items := ⟨state.nextItem, psPerProc, .sharedPb stub⟩ :: state.items
      nextItem := state.nextItem + 1
      stubs := update state.stubs stub (some { desc with
        ui32RefCount := desc.ui32RefCount + 1 }) } := by
  have unlocked := invariant.lock.isFree isListed
  have registered := invariant.apart.register psPerProc (.sharedPb stub) true
  obtain ⟨apart, lock, stubs, history⟩ := invariant
  have isOnly := stubs.list_eq isListed
  have oneMore : desc.ui32RefCount + 1 = BitVec.ofNat 32 (references stub
      (⟨state.nextItem, psPerProc, .sharedPb stub⟩ :: state.items)) := by
    rw [references_cons, if_pos rfl, BitVec.ofNat_add,
      stubs.counted stub desc isDesc]
    rfl
  refine ⟨⟨registered.fresh, registered.nodup⟩, ?_, ?_, ?_⟩
  · refine ⟨fun owner isHeld => absurd (unlocked.symm.trans isHeld) (by simp),
      fun item isItem owner isLock => ?_, lock.same⟩
    rcases mem_cons.mp isItem with rfl | before
    · exact absurd isLock (by simp)
    · exact lock.holder item before owner isLock
  · rw [oneMore]
    refine stubs.recount isListed isDesc rfl rfl rfl ?_ fun other notThis => ?_
    · rw [references_cons, if_pos rfl]
      exact Nat.succ_pos _
    · rw [references_cons, if_neg (by simp [Ne.symm notThis]),
        stubs.unlisted (by rw [isOnly]; simpa using notThis)]
  · exact history.recount isDesc rfl rfl rfl rfl

/-- A process takes the creation lock while the list is empty. -/
theorem PbInvariant.takeLock
    (isEmpty : state.psStubPBDescListKM = [])
    (isFree : state.psResItemCreateSharedPB = none) :
    PbInvariant { state with
      items := ⟨state.nextItem, psPerProc, .createLock psPerProc⟩ :: state.items
      nextItem := state.nextItem + 1
      psResItemCreateSharedPB := some state.nextItem
      psPerProcCreateSharedPB := some psPerProc } := by
  have registered :=
    invariant.apart.register psPerProc (.createLock psPerProc) true
  obtain ⟨apart, lock, stubs, history⟩ := invariant
  have sameReferences : ∀ stub, references stub
      (⟨state.nextItem, psPerProc, .createLock psPerProc⟩ :: state.items) =
        references stub state.items := by
    intro stub
    rw [references_cons, if_neg (by simp)]
    rfl
  refine ⟨⟨registered.fresh, registered.nodup⟩, ?_, ?_,
    ⟨history.fresh, history.once, history.balanced, history.added,
      history.released⟩⟩
  · refine ⟨fun owner isHeld => ?_, fun item isItem owner isLock => ?_,
      by simp⟩
    · cases isHeld
      exact ⟨isEmpty, _, mem_cons_self, rfl⟩
    · rcases mem_cons.mp isItem with rfl | before
      · obtain rfl := Resource.createLock.inj isLock
        exact ⟨rfl, rfl, rfl⟩
      · obtain ⟨isHeld, -⟩ := lock.holder item before owner isLock
        exact absurd (isFree.symm.trans isHeld) (by simp)
  · constructor
    · exact stubs.short
    · exact stubs.live
    · intro stub
      rw [sameReferences]
      exact stubs.referred stub
    · intro stub desc isDesc
      rw [sameReferences]
      exact stubs.counted stub desc isDesc
    · exact stubs.old

theorem PbInvariant.find
    (bLockOnFailure allocated registered : Bool) :
    ∃ result next, state.sgxFindSharedPBDesc psPerProc bLockOnFailure allocated
        registered = some (result, next) ∧
      PbInvariant next := by
  unfold State.sgxFindSharedPBDesc
  split
  next stub rest isList =>
    have isListed : stub ∈ state.psStubPBDescListKM := by
      rw [isList]
      exact mem_cons_self
    obtain ⟨desc, isDesc⟩ := (invariant.stubs.live stub).mp isListed
    simp only [isDesc]
    split_ifs
    · cases registered with
      | true =>
        exact ⟨_, _, rfl, invariant.addReference psPerProc isListed isDesc⟩
      | false => exact ⟨_, _, rfl, invariant⟩
    · exact ⟨_, _, rfl, invariant⟩
  next isEmpty =>
    split_ifs with wantsLock isHeld
    · exact ⟨_, _, rfl, invariant⟩
    · cases registered with
      | true =>
        exact ⟨_, _, rfl, invariant.takeLock psPerProc isEmpty
          (Option.not_isSome_iff_eq_none.mp isHeld)⟩
      | false => exact ⟨_, _, rfl, invariant⟩
    · exact ⟨_, _, rfl, invariant⟩

variable (memInfos : MemInfos) (sHWPBDescDevVAddr : BitVec 32)

/-- The first stub is referred to by the process that adds it. -/
theorem PbInvariant.addStub
    (isEmpty : state.psStubPBDescListKM = [])
    (isFree : state.psPerProcCreateSharedPB = none) :
    PbInvariant { state with
      items :=
        ⟨state.nextItem, psPerProc, .sharedPb state.nextStub⟩ :: state.items
      nextItem := state.nextItem + 1
      stubs := update state.stubs state.nextStub
        (some ⟨1, memInfos, sHWPBDescDevVAddr⟩)
      nextStub := state.nextStub + 1
      psStubPBDescListKM := state.nextStub :: state.psStubPBDescListKM
      history := .added state.nextStub memInfos :: state.history } := by
  have registered :=
    invariant.apart.register psPerProc (.sharedPb state.nextStub) true
  obtain ⟨apart, lock, stubs, history⟩ := invariant
  have noReferences : ∀ stub, references stub state.items = 0 := fun stub =>
    stubs.unlisted (by simp [isEmpty])
  have listed : state.nextStub :: state.psStubPBDescListKM =
      [state.nextStub] := by
    rw [isEmpty]
  refine ⟨⟨registered.fresh, registered.nodup⟩, ?_, ?_, ?_⟩
  · refine ⟨fun owner isHeld => absurd (isFree.symm.trans isHeld) (by simp),
      fun item isItem owner isLock => ?_, lock.same⟩
    rcases mem_cons.mp isItem with rfl | before
    · exact absurd isLock (by simp)
    · exact lock.holder item before owner isLock
  · apply stubs.first isEmpty rfl listed rfl rfl
    intro stub
    simp only [references_cons, noReferences, Nat.zero_add,
      Resource.sharedPb.injEq, eq_comm]
  · exact history.first (stubs.none_live isEmpty) isEmpty listed rfl rfl rfl

theorem PbInvariant.addSharedPBDesc
    (outcome : AddOutcome)
    (isFree : state.psPerProcCreateSharedPB = none) :
    ∃ result next, state.addSharedPBDesc psPerProc memInfos sHWPBDescDevVAddr
        outcome = some (result, next) ∧
      PbInvariant next := by
  unfold State.addSharedPBDesc
  split
  next stub rest isList =>
    have isListed : stub ∈ state.psStubPBDescListKM := by
      rw [isList]
      exact mem_cons_self
    obtain ⟨desc, isDesc⟩ := (invariant.stubs.live stub).mp isListed
    simp only [isDesc]
    cases isRegistered : outcome.registered with
    | true =>
      exact ⟨_, _, rfl,
        (invariant.addReference psPerProc isListed isDesc).refuse memInfos⟩
    | false => exact ⟨_, _, rfl, invariant.refuse memInfos⟩
  next isEmpty =>
    split_ifs
    · cases isRegistered : outcome.registered with
      | true =>
        exact ⟨_, _, rfl, invariant.addStub psPerProc memInfos
          sHWPBDescDevVAddr isEmpty isFree⟩
      | false => exact ⟨_, _, rfl, invariant.refuse memInfos⟩
    · exact ⟨_, _, rfl, invariant.refuse memInfos⟩
    · exact ⟨_, _, rfl, invariant.refuse memInfos⟩

/-- The process that holds the lock gives it back before it adds the stub. -/
theorem PbInvariant.add
    (outcome : AddOutcome) :
    ∃ result next, state.sgxAddSharedPBDesc psPerProc memInfos
        sHWPBDescDevVAddr outcome = some (result, next) ∧
      PbInvariant next := by
  unfold State.sgxAddSharedPBDesc
  split_ifs with notHolder
  · exact ⟨_, _, rfl, invariant.refuse memInfos⟩
  · have isHolder := not_not.mp notHolder
    obtain ⟨-, item, isItem, isLock⟩ := invariant.lock.held psPerProc isHolder
    obtain ⟨isHeld, -⟩ := invariant.lock.holder item isItem psPerProc isLock
    obtain ⟨freed, kept⟩ := invariant.freeLock isItem isLock
    simp only [isHeld, freed, Option.bind_eq_bind, Option.bind_some]
    exact kept.addSharedPBDesc psPerProc memInfos sHWPBDescDevVAddr outcome rfl

end

theorem PbInvariant.call
    (few : FewReferences state)
    {call : Call}
    (allowed : call.Allowed state) :
    ∃ next, state.call call = some next ∧ PbInvariant next := by
  cases call with
  | find psPerProc bLockOnFailure allocated registered =>
    obtain ⟨result, next, found, kept⟩ :=
      invariant.find psPerProc bLockOnFailure allocated registered
    exact ⟨next, by rw [State.call, found]; rfl, kept⟩
  | add psPerProc memInfos sHWPBDescDevVAddr outcome =>
    obtain ⟨result, next, added, kept⟩ :=
      invariant.add psPerProc memInfos sHWPBDescDevVAddr outcome
    exact ⟨next, by rw [State.call, added]; rfl, kept⟩
  | unref psResItem =>
    obtain ⟨item, isItem, rfl, -⟩ := allowed
    obtain ⟨next, freed, kept, -⟩ := invariant.free few isItem
    exact ⟨next, freed, kept⟩
  | processExit process => exact invariant.processExit few process

end

/-! ## The protocol -/

theorem PbInvariant.protocolKept
    (invariant : PbInvariant state)
    (few : FewReferences state) :
    state.ProtocolKept where
  oneHolder := invariant.lock.holder
  held := fun psPerProc isHeld => (invariant.lock.held psPerProc isHeld).2
  lockedEmpty := fun psPerProc isHeld =>
    (invariant.lock.held psPerProc isHeld).1
  oneStub := invariant.stubs.short
  counted := fun stub isListed => by
    obtain ⟨desc, isDesc⟩ := (invariant.stubs.live stub).mp isListed
    refine ⟨desc, isDesc, ?_⟩
    have bounded := references_le_length stub state.items
    rw [invariant.stubs.counted stub desc isDesc, BitVec.toNat_ofNat,
      Nat.mod_eq_of_lt (Nat.lt_of_le_of_lt bounded few)]
  listed := invariant.stubs.referred
  releasedOnce := fun stub =>
    ⟨invariant.history.once stub, invariant.history.balanced stub⟩
  released := invariant.history.released
  defined := fun call allowed => by
    obtain ⟨next, performed, -⟩ := invariant.call few allowed
    rw [performed]
    rfl

theorem pbInvariant_initial : PbInvariant initialState where
  apart := ⟨nofun, List.nodup_nil⟩
  lock := ⟨nofun, nofun, Iff.rfl⟩
  stubs := by
    refine ⟨Nat.zero_le _, fun stub => ?_, fun stub => ?_, nofun, nofun⟩
    · simp [initialState]
    · simp [initialState, references]
  history := ⟨fun _ _ => rfl, fun _ => Nat.zero_le _, fun _ => rfl, nofun,
    nofun⟩

theorem Reachable.invariant
    (reached : Reachable FewReferences state) :
    PbInvariant state ∧ FewReferences state := by
  induction reached with
  | initial => exact ⟨pbInvariant_initial, by decide⟩
  | call call _ allowed performed meets ih =>
    obtain ⟨invariant, few⟩ := ih
    obtain ⟨next, isNext, kept⟩ := invariant.call few allowed
    cases performed.symm.trans isNext
    exact ⟨kept, meets⟩

/-- As long as fewer than `2 ^ 32` items exist at a time, the shared parameter
buffer keeps to its protocol. -/
theorem reachable_protocolKept
    (reached : Reachable FewReferences state) :
    state.ProtocolKept :=
  reached.invariant.1.protocolKept reached.invariant.2

end Calls

/-! ## Runs -/

/-- A buffer of six allocations. -/
def sixMemInfos : MemInfos where
  psSharedPBDescKernelMemInfo := 10
  psHWPBDescKernelMemInfo := 11
  psBlockKernelMemInfo := 12
  psHWBlockKernelMemInfo := 13
  ppsSubKernelMemInfos := [14, 15]

/-- Every allocation succeeds. -/
def allAllocated : AddOutcome where
  allocatedStub := true
  allocatedArray := true
  dissociated := fun _ => true
  registered := true

/-- The state in which process 1 holds the lock. -/
def lockedState : State :=
  { initialState with
    items := [⟨0, 1, .createLock 1⟩]
    nextItem := 1
    psResItemCreateSharedPB := some 0
    psPerProcCreateSharedPB := some 1 }

/-- The state in which process 1 has added the buffer. -/
def addedState : State :=
  { initialState with
    stubs := Function.update (fun _ => none) 0 (some ⟨1, sixMemInfos, 0x1000⟩)
    nextStub := 1
    psStubPBDescListKM := [0]
    items := [⟨1, 1, .sharedPb 0⟩]
    nextItem := 2
    history := [.added 0 sixMemInfos] }

theorem reachable_addedState
    {condition : State → Prop}
    (locked : condition lockedState)
    (added : condition addedState) :
    Reachable condition addedState :=
  Reachable.initial.call (.find 1 true true true) trivial
      (by rfl : _ = some lockedState) locked
    |>.call (.add 1 sixMemInfos 0x1000 allAllocated) trivial rfl added

/-- Process 2 finds the buffer, and both processes exit. -/
theorem reachable_protocolKept_exits :
    ∃ state : State, state.ProtocolKept ∧ state.items = [] ∧
      state.history = [.cleanup 0x1000, .released 0 [14, 15, 12, 13, 11, 10],
        .added 0 sixMemInfos] := by
  have added : Reachable FewReferences addedState :=
    reachable_addedState (by decide) (by decide)
  have left := added.call (.find 2 false true true) trivial rfl (by decide)
    |>.call (.processExit 1) trivial rfl (by decide)
    |>.call (.processExit 2) trivial rfl (by decide)
  exact ⟨_, reachable_protocolKept left, rfl, rfl⟩

/-- Any number of items may refer to the stub. -/
theorem reachable_manyReferences (count : Nat) :
    ∃ state desc, Reachable (fun _ => True) state ∧
      state.psStubPBDescListKM = [0] ∧
      state.stubs 0 = some desc ∧
      references 0 state.items = count + 1 := by
  induction count with
  | zero => exact ⟨_, _, reachable_addedState trivial trivial, rfl, rfl, rfl⟩
  | succ count ih =>
    obtain ⟨state, desc, reached, isList, isDesc, isCount⟩ := ih
    obtain ⟨next, isNext⟩ : ∃ next, next = { state with
        items := ⟨state.nextItem, 2, .sharedPb 0⟩ :: state.items
        nextItem := state.nextItem + 1
        stubs := update state.stubs 0 (some { desc with
          ui32RefCount := desc.ui32RefCount + 1 }) } := ⟨_, rfl⟩
    have performed : state.call (.find 2 false true true) = some next := by
      simp only [State.call, State.sgxFindSharedPBDesc, isList, isDesc,
        State.resManRegisterRes, isNext]
      rfl
    refine ⟨next, { desc with ui32RefCount := desc.ui32RefCount + 1 },
      reached.call (.find 2 false true true) trivial performed trivial,
      ?_, ?_, ?_⟩
    · rw [isNext, isList]
    · rw [isNext]
      simp only [update_self]
    · rw [isNext]
      simp only [references_cons, isCount, if_true]

/-- With `2 ^ 32` items the reference count is zero. -/
theorem reachable_protocolKept_wrapped :
    ¬ ∀ state, Reachable (fun _ => True) state → state.ProtocolKept := by
  intro kept
  obtain ⟨state, desc, reached, isList, -, isCount⟩ :=
    reachable_manyReferences (2 ^ 32 - 1)
  obtain ⟨its, -, isRight⟩ :=
    (kept state reached).counted 0 (by rw [isList]; exact mem_cons_self)
  have bounded := its.ui32RefCount.isLt
  omega

end PvrServices.SharedPb
