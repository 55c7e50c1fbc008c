import Mathlib.Algebra.Group.Nat.Defs
import Mathlib.Data.List.Nodup

/-!
# Intrusive lists

A node of an intrusive list holds a pointer to the next node and a pointer to
the place that points to it: the head of its list or the next pointer of the
node before it.  A memory holds the nodes of many lists.  The operations
follow the pointers; `Holds` says which list of nodes each head leads to, and
each operation is shown to act on those lists as its name says.
-/

namespace IntrusiveList

open Function (update_apply update_of_ne update_self)
open List (mem_cons mem_cons_of_mem mem_cons_self nodup_cons)

variable {list node : Type}

/-! ## Memory -/

/-- What can point to a node. -/
inductive Place (list node : Type) where
  | head (owner : list)
  | next (before : node)
deriving DecidableEq

/-- The pointers of all lists. -/
structure Memory (list node : Type) where
  head : list → Option node
  psNext : node → Option node
  ppsThis : node → Place list node

namespace Memory

/-- The pointer in a place. -/
def load (memory : Memory list node) : Place list node → Option node
  | .head owner => memory.head owner
  | .next before => memory.psNext before

variable [DecidableEq list] [DecidableEq node]

/-- Write a pointer to a place. -/
def store (memory : Memory list node) (place : Place list node)
    (pointer : Option node) : Memory list node :=
  match place with
  | .head owner =>
    { memory with head := Function.update memory.head owner pointer }
  | .next before =>
    { memory with psNext := Function.update memory.psNext before pointer }

/-- Write the back pointer of a node. -/
def setThis (memory : Memory list node) (target : node)
    (place : Place list node) : Memory list node :=
  { memory with ppsThis := Function.update memory.ppsThis target place }

/-- Write the back pointer of a node, if there is one. -/
def setThisOf (memory : Memory list node) (target : Option node)
    (place : Place list node) : Memory list node :=
  match target with
  | none => memory
  | some target => memory.setThis target place

theorem load_store
    (memory : Memory list node)
    (place other : Place list node)
    (pointer : Option node) :
    (memory.store place pointer).load other =
      if other = place then pointer else memory.load other := by
  cases place <;> cases other <;>
    simp [store, load, update_apply]

@[simp] theorem ppsThis_store
    (memory : Memory list node)
    (place : Place list node)
    (pointer : Option node) :
    (memory.store place pointer).ppsThis = memory.ppsThis := by
  cases place <;> rfl

omit [DecidableEq list] in
@[simp] theorem load_setThis
    (memory : Memory list node)
    (target : node)
    (place other : Place list node) :
    (memory.setThis target place).load other = memory.load other := by
  cases other <;> rfl

omit [DecidableEq list] in
@[simp] theorem ppsThis_setThis
    (memory : Memory list node)
    (target other : node)
    (place : Place list node) :
    (memory.setThis target place).ppsThis other =
      if other = target then place else memory.ppsThis other :=
  update_apply memory.ppsThis target place other

omit [DecidableEq list] in
@[simp] theorem load_setThisOf
    (memory : Memory list node)
    (target : Option node)
    (place other : Place list node) :
    (memory.setThisOf target place).load other = memory.load other := by
  cases target with
  | none => rfl
  | some target => exact load_setThis memory target place other

omit [DecidableEq list] in
@[simp] theorem ppsThis_setThisOf
    (memory : Memory list node)
    (target : Option node)
    (other : node)
    (place : Place list node) :
    (memory.setThisOf target place).ppsThis other =
      if some other = target then place else memory.ppsThis other := by
  cases target with
  | none => rfl
  | some target =>
    rw [setThisOf, ppsThis_setThis]
    simp only [Option.some.injEq]

omit [DecidableEq list] in
@[simp] theorem head_setThisOf
    (memory : Memory list node)
    (target : Option node)
    (place : Place list node) :
    (memory.setThisOf target place).head = memory.head := by
  cases target <;> rfl

omit [DecidableEq list] in
@[simp] theorem psNext_setThisOf
    (memory : Memory list node)
    (target : Option node)
    (place : Place list node) :
    (memory.setThisOf target place).psNext = memory.psNext := by
  cases target <;> rfl

/-! ## Operations -/

/-- Insert a node at the head of a list. -/
def insert (memory : Memory list node) (owner : list) (new : node) :
    Memory list node :=
  let linked := (memory.setThis new (.head owner)).store (.next new)
    (memory.head owner)
  let inserted := linked.store (.head owner) (some new)
  inserted.setThisOf (inserted.psNext new) (.next new)

/-- Take a node out of its list. -/
def remove (memory : Memory list node) (old : node) : Memory list node :=
  let unlinked := memory.store (memory.ppsThis old) (memory.psNext old)
  unlinked.setThisOf (unlinked.psNext old) (unlinked.ppsThis old)

/-- The place that will point to the last reversed node. -/
def reversedPlace (owner : list) : Option node → Place list node
  | none => .head owner
  | some current => .next current

/-- Turn the pointers from `current` on around, with `reversed` the last node
turned around.  The memory returned has the new first node with it. -/
def reverseLoop (owner : list) :
    Nat → Memory list node → Option node → Option node →
      Option (Memory list node × Option node)
  | 0, _, _, _ => none
  | _ + 1, memory, reversed, none => some (memory, reversed)
  | fuel + 1, memory, reversed, some current =>
    let following := memory.psNext current
    reverseLoop owner fuel
      ((memory.store (.next current) reversed).setThis current
        (reversedPlace owner following))
      (some current) following

/-- Reverse a list. -/
def reverse (fuel : Nat) (memory : Memory list node) (owner : list) :
    Option (Memory list node) :=
  (reverseLoop owner fuel memory none (memory.head owner)).map
    fun (turned, first) => turned.store (.head owner) first

omit [DecidableEq list] [DecidableEq node] in
/-- Call `callback` on the nodes from `start` on until it gives a result.  A
callback that reads a freed node has no value. -/
def anyVa {result : Type} (callback : node → Option (Option result)) :
    Nat → Memory list node → Option node → Option (Option result)
  | 0, _, _ => none
  | _ + 1, _, none => some none
  | fuel + 1, memory, some current => do
      match ← callback current with
      | some found => some (some found)
      | none => anyVa callback fuel memory (memory.psNext current)

/-! ## The nodes of a list -/

omit [DecidableEq list] [DecidableEq node] in
/-- The pointer, which is in `place`, leads to these nodes, and their back
pointers lead back. -/
def Leads (memory : Memory list node) :
    Option node → Place list node → List node → Prop
  | pointer, _, [] => pointer = none
  | pointer, place, first :: rest =>
    pointer = some first ∧ memory.ppsThis first = place ∧
      memory.Leads (memory.psNext first) (.next first) rest

omit [DecidableEq list] [DecidableEq node]

variable {pointer : Option node} {nodes : List node} {entry : node}
  {owner : list} {memory : Memory list node} {fuel : Nat}

section

variable {place : Place list node}

theorem leads_head
    (leads : memory.Leads pointer place nodes) :
    pointer = nodes.head? := by
  cases nodes with
  | nil => exact leads
  | cons first rest => exact leads.1

/-- Pointers outside a list do not matter to it. -/
theorem leads_congr
    {other : Memory list node}
    (sameNext : ∀ entry ∈ nodes, other.psNext entry = memory.psNext entry)
    (sameThis : ∀ entry ∈ nodes, other.ppsThis entry = memory.ppsThis entry)
    (leads : memory.Leads pointer place nodes) :
    other.Leads pointer place nodes := by
  induction nodes generalizing pointer place with
  | nil => exact leads
  | cons first rest ih =>
    obtain ⟨isFirst, isPlace, following⟩ := leads
    refine ⟨isFirst, ?_, ?_⟩
    · rw [sameThis first mem_cons_self]
      exact isPlace
    · rw [sameNext first mem_cons_self]
      exact ih
        (fun entry member => sameNext entry (mem_cons_of_mem _ member))
        (fun entry member => sameThis entry (mem_cons_of_mem _ member))
        following

/-- The back pointer of a node: to the place of the list, or to a node of the
list in front of it. -/
theorem leads_place
    (leads : memory.Leads pointer place nodes)
    (member : entry ∈ nodes) :
    memory.ppsThis entry = place ∨
      ∃ before ∈ nodes, memory.ppsThis entry = .next before := by
  induction nodes generalizing pointer place with
  | nil => exact absurd member List.not_mem_nil
  | cons first rest ih =>
    obtain ⟨_, isPlace, following⟩ := leads
    rcases mem_cons.mp member with rfl | inRest
    · exact Or.inl isPlace
    · rcases ih following inRest with
        isFirst | ⟨before, beforeMember, isBefore⟩
      · exact Or.inr ⟨first, mem_cons_self, isFirst⟩
      · exact Or.inr ⟨before, mem_cons_of_mem _ beforeMember, isBefore⟩

/-- The next pointer of a node leads to nodes of the same list. -/
theorem leads_psNext
    (leads : memory.Leads pointer place nodes)
    {following : node}
    (member : entry ∈ nodes)
    (isNext : memory.psNext entry = some following) :
    following ∈ nodes := by
  induction nodes generalizing pointer place with
  | nil => exact absurd member List.not_mem_nil
  | cons first rest ih =>
    obtain ⟨_, _, restLeads⟩ := leads
    rcases mem_cons.mp member with rfl | inRest
    · rw [isNext] at restLeads
      have isHead := leads_head restLeads
      exact mem_cons_of_mem _ (List.mem_of_mem_head? isHead.symm)
    · exact mem_cons_of_mem _ (ih restLeads inRest)

end

/-- The place that points to the node of an index: that of the list, or the
next pointer of the node in front. -/
def placeAt (place : Place list node) (nodes : List node) :
    Nat → Place list node
  | 0 => place
  | index + 1 => (nodes[index]?).elim place .next

theorem placeAt_cons
    {place : Place list node}
    {first : node}
    {rest : List node}
    {index : Nat}
    (within : index ≤ rest.length) :
    placeAt place (first :: rest) (index + 1) =
      placeAt (.next first) rest index := by
  cases index with
  | zero => rfl
  | succ index =>
    simp only [placeAt, List.getElem?_cons_succ,
      List.getElem?_eq_getElem within, Option.elim_some]

/-- From a place on, pointers lead through exactly these nodes, none of them
twice, and each back pointer is the place that points to its node. -/
structure InOrder
    (memory : Memory list node) (place : Place list node)
    (nodes : List node) : Prop where
  distinct : nodes.Nodup
  points : ∀ index ≤ nodes.length,
    memory.load (placeAt place nodes index) = nodes[index]?
  back : ∀ index entry, nodes[index]? = some entry →
    memory.ppsThis entry = placeAt place nodes index

theorem Leads.inOrder
    {place : Place list node}
    (leads : memory.Leads (memory.load place) place nodes)
    (distinct : nodes.Nodup) :
    memory.InOrder place nodes := by
  induction nodes generalizing place with
  | nil =>
    refine ⟨distinct, fun index within => ?_, nofun⟩
    rw [Nat.le_zero.mp within]
    exact leads
  | cons first rest ih =>
    obtain ⟨isFirst, isPlace, following⟩ := leads
    have others := @ih (.next first) following (nodup_cons.mp distinct).2
    refine ⟨distinct, fun index within => ?_, fun index entry isEntry => ?_⟩
    · cases index with
      | zero => exact isFirst
      | succ index =>
        have within := Nat.le_of_succ_le_succ within
        rw [placeAt_cons within, List.getElem?_cons_succ]
        exact others.points index within
    · cases index with
      | zero =>
        cases isEntry
        exact isPlace
      | succ index =>
        rw [List.getElem?_cons_succ] at isEntry
        have within := (List.getElem?_eq_some_iff.mp isEntry).1
        rw [placeAt_cons (Nat.le_of_lt within)]
        exact others.back index entry isEntry

/-- A search gives the first result along the list. -/
theorem anyVa_leads
    {result : Type}
    {callback : node → Option (Option result)}
    {answer : node → Option result}
    {place : Place list node}
    (leads : memory.Leads pointer place nodes)
    (answers : ∀ entry ∈ nodes, callback entry = some (answer entry))
    (enough : nodes.length < fuel) :
    anyVa callback fuel memory pointer = some (nodes.findSome? answer) := by
  induction nodes generalizing pointer place fuel with
  | nil =>
    obtain ⟨fuel, rfl⟩ := Nat.exists_eq_add_of_lt enough
    rw [show pointer = none from leads]
    rfl
  | cons first rest ih =>
    cases fuel with
    | zero => exact absurd enough (Nat.not_lt_zero _)
    | succ fuel =>
      obtain ⟨rfl, _, following⟩ := leads
      have rest := ih following
        (fun entry member => answers entry (mem_cons_of_mem _ member))
        (Nat.lt_of_succ_lt_succ enough)
      rw [anyVa, answers first mem_cons_self, List.findSome?_cons]
      cases answer first with
      | none => exact rest
      | some found => rfl

/-! ## All lists of a memory -/

/-- The heads lead to these lists of nodes, no two of which share a node.  A
head that is not in use has none. -/
structure Holds
    (memory : Memory list node)
    (lists : list → Option (List node)) : Prop where
  leads : ∀ owner nodes, lists owner = some nodes →
    memory.Leads (memory.head owner) (.head owner) nodes
  nodup : ∀ owner nodes, lists owner = some nodes → nodes.Nodup
  apart : ∀ owner nodes other others, lists owner = some nodes →
    lists other = some others →
    ∀ entry ∈ nodes, entry ∈ others → owner = other

variable {memory : Memory list node} {lists : list → Option (List node)}

/-- The back pointer of a node in a list: to the head of that list, or to a
node of it. -/
theorem Holds.place
    (holds : memory.Holds lists)
    (owned : lists owner = some nodes)
    (member : entry ∈ nodes) :
    memory.ppsThis entry = .head owner ∨
      ∃ before ∈ nodes, memory.ppsThis entry = .next before :=
  leads_place (holds.leads owner nodes owned) member

variable [DecidableEq list]

/-- Changing one list and what its pointers are changes no other list. -/
theorem Holds.update
    (holds : memory.Holds lists)
    {changed : Memory list node}
    (leads : changed.Leads (changed.head owner) (.head owner) nodes)
    (nodup : nodes.Nodup)
    (apart : ∀ other others, other ≠ owner → lists other = some others →
      ∀ entry ∈ others, entry ∉ nodes)
    (sameHead : ∀ other, other ≠ owner →
      changed.head other = memory.head other)
    (sameNodes : ∀ other others, other ≠ owner → lists other = some others →
      ∀ entry ∈ others, changed.psNext entry = memory.psNext entry ∧
        changed.ppsThis entry = memory.ppsThis entry) :
    changed.Holds (Function.update lists owner (some nodes)) := by
  constructor
  · intro other others owned
    rw [update_apply] at owned
    split_ifs at owned with isOwner
    · subst isOwner
      rw [← Option.some.inj owned]
      exact leads
    · rw [sameHead other isOwner]
      apply leads_congr _ _ (holds.leads other others owned)
      · intro entry member
        exact (sameNodes other others isOwner owned entry member).1
      · intro entry member
        exact (sameNodes other others isOwner owned entry member).2
  · intro other others owned
    rw [update_apply] at owned
    split_ifs at owned with isOwner
    · rw [← Option.some.inj owned]
      exact nodup
    · exact holds.nodup other others owned
  · intro first firsts second seconds ownedFirst ownedSecond entry
      inFirst inSecond
    rw [update_apply] at ownedFirst ownedSecond
    split_ifs at ownedFirst ownedSecond with isFirst isSecond isSecond
    · rw [isFirst, isSecond]
    · rw [← Option.some.inj ownedFirst] at inFirst
      exact absurd inFirst
        (apart second seconds isSecond ownedSecond entry inSecond)
    · rw [← Option.some.inj ownedSecond] at inSecond
      exact absurd inSecond
        (apart first firsts isFirst ownedFirst entry inFirst)
    · exact holds.apart first firsts second seconds ownedFirst ownedSecond
        entry inFirst inSecond

/-- A head that goes out of use leaves the other lists. -/
theorem Holds.forget
    (holds : memory.Holds lists)
    (owner : list) :
    memory.Holds (Function.update lists owner none) := by
  have kept : ∀ other others,
      Function.update lists owner none other = some others →
        lists other = some others := by
    intro other others owned
    rw [update_apply] at owned
    split_ifs at owned
    exact owned
  constructor
  · intro other others owned
    exact holds.leads other others (kept other others owned)
  · intro other others owned
    exact holds.nodup other others (kept other others owned)
  · intro first firsts second seconds ownedFirst ownedSecond
    exact holds.apart first firsts second seconds
      (kept first firsts ownedFirst) (kept second seconds ownedSecond)

variable [DecidableEq node]

/-! ## Insertion -/

section

variable (memory : Memory list node) (owner : list)

@[simp] theorem insert_head
    (new : node) :
    (memory.insert owner new).head =
      Function.update memory.head owner (some new) := by
  simp [insert, store, setThis]

@[simp] theorem insert_psNext
    (new : node) :
    (memory.insert owner new).psNext =
      Function.update memory.psNext new (memory.head owner) := by
  simp [insert, store, setThis]

theorem insert_ppsThis
    (new entry : node) :
    (memory.insert owner new).ppsThis entry =
      if some entry = memory.head owner then .next new
      else if entry = new then .head owner
      else memory.ppsThis entry := by
  simp [insert, store, setThis, update_apply]

end

/-- Insertion puts a new node in front of a list. -/
theorem Holds.insert
    (holds : memory.Holds lists)
    {owner : list}
    {nodes : List node}
    (owned : lists owner = some nodes)
    {new : node}
    (fresh : ∀ other others, lists other = some others → new ∉ others) :
    (memory.insert owner new).Holds
      (Function.update lists owner (some (new :: nodes))) := by
  have leads := holds.leads owner nodes owned
  have newApart := fresh owner nodes owned
  have headNotNew : some new ≠ memory.head owner := by
    intro isHead
    rw [leads_head leads] at isHead
    exact newApart (List.mem_of_mem_head? isHead.symm)
  have nextKept : ∀ entry, entry ≠ new →
      (memory.insert owner new).psNext entry = memory.psNext entry := by
    intro entry notNew
    rw [insert_psNext, update_of_ne notNew]
  apply holds.update
  · refine ⟨?_, ?_, ?_⟩
    · rw [insert_head, update_self]
    · rw [insert_ppsThis, if_neg headNotNew, if_pos rfl]
    · rw [insert_psNext, update_self]
      cases nodes with
      | nil => exact leads
      | cons first rest =>
        obtain ⟨isFirst, _, following⟩ := leads
        have distinct := holds.nodup owner _ owned
        have firstNotNew : first ≠ new := by
          rintro rfl
          exact newApart mem_cons_self
        refine ⟨isFirst, ?_, ?_⟩
        · rw [insert_ppsThis, if_pos isFirst.symm]
        · rw [nextKept first firstNotNew]
          apply leads_congr _ _ following
          · intro entry member
            apply nextKept entry
            rintro rfl
            exact newApart (mem_cons_of_mem _ member)
          · intro entry member
            rw [insert_ppsThis, if_neg, if_neg]
            · rintro rfl
              exact newApart (mem_cons_of_mem _ member)
            · rw [isFirst, Option.some.injEq]
              rintro rfl
              exact (nodup_cons.mp distinct).1 member
  · exact nodup_cons.mpr ⟨newApart, holds.nodup owner nodes owned⟩
  · intro other others notOwner ownedOther entry member inNew
    rcases mem_cons.mp inNew with rfl | inNodes
    · exact fresh other others ownedOther member
    · exact notOwner (holds.apart other others owner nodes ownedOther owned
        entry member inNodes)
  · intro other notOwner
    rw [insert_head, update_of_ne notOwner]
  · intro other others notOwner ownedOther entry member
    have notNew : entry ≠ new := by
      rintro rfl
      exact fresh other others ownedOther member
    refine ⟨nextKept entry notNew, ?_⟩
    rw [insert_ppsThis, if_neg, if_neg notNew]
    intro isHead
    rw [leads_head leads] at isHead
    exact notOwner (holds.apart other others owner nodes ownedOther owned
      entry member (List.mem_of_mem_head? isHead.symm))

/-! ## Removal -/

theorem remove_load
    (memory : Memory list node)
    (old : node)
    (place : Place list node) :
    (memory.remove old).load place =
      if place = memory.ppsThis old then memory.psNext old
      else memory.load place := by
  rw [remove, load_setThisOf, load_store]

theorem remove_ppsThis
    (memory : Memory list node)
    (old entry : node) :
    (memory.remove old).ppsThis entry =
      if some entry = memory.psNext old then memory.ppsThis old
      else memory.ppsThis entry := by
  have kept : (memory.store (memory.ppsThis old) (memory.psNext old)).psNext
      old = memory.psNext old := by
    have loaded := load_store memory (memory.ppsThis old) (.next old)
      (memory.psNext old)
    exact loaded.trans (ite_eq_left_iff.mpr fun _ => rfl)
  rw [remove, ppsThis_setThisOf, kept, ppsThis_store]

/-- Removal takes a node out of the list that leads to it. -/
theorem leads_remove
    {place : Place list node}
    {front back : List node}
    {old : node}
    (leads : memory.Leads (memory.load place) place (front ++ old :: back))
    (nodup : (front ++ old :: back).Nodup)
    (outside : ∀ entry ∈ front ++ old :: back, place ≠ .next entry) :
    (memory.remove old).Leads ((memory.remove old).load place) place
      (front ++ back) := by
  induction front generalizing place with
  | nil =>
    obtain ⟨_, isPlace, following⟩ := leads
    rw [remove_load, if_pos isPlace.symm]
    cases back with
    | nil => exact following
    | cons first rest =>
      obtain ⟨isFirst, _, restLeads⟩ := following
      have distinct := (nodup_cons.mp nodup).2
      refine ⟨isFirst, ?_, ?_⟩
      · rw [remove_ppsThis, if_pos isFirst.symm]
        exact isPlace
      · have nextKept : ∀ entry ∈ first :: rest,
            (memory.remove old).psNext entry = memory.psNext entry := by
          intro entry member
          refine (remove_load memory old (.next entry)).trans (if_neg ?_)
          rw [isPlace]
          exact (outside entry (mem_cons_of_mem _ member)).symm
        rw [nextKept first mem_cons_self]
        apply leads_congr _ _ restLeads
        · intro entry member
          exact nextKept entry (mem_cons_of_mem _ member)
        · intro entry member
          rw [remove_ppsThis, if_neg]
          rw [isFirst, Option.some.injEq]
          rintro rfl
          exact (nodup_cons.mp distinct).1 member
  | cons first front ih =>
    obtain ⟨isFirst, isPlace, following⟩ := leads
    have distinct := nodup_cons.mp nodup
    have oldMember : old ∈ front ++ old :: back :=
      List.mem_append_right _ mem_cons_self
    have placeKept : place ≠ memory.ppsThis old := by
      intro isThis
      rcases leads_place following oldMember with
        beforeIsFirst | ⟨before, beforeMember, isBefore⟩
      · exact outside first mem_cons_self (isThis.trans beforeIsFirst)
      · exact outside before (mem_cons_of_mem _ beforeMember)
          (isThis.trans isBefore)
    refine ⟨?_, ?_, ?_⟩
    · rw [remove_load, if_neg placeKept]
      exact isFirst
    · rw [remove_ppsThis, if_neg]
      · exact isPlace
      · intro isNext
        exact distinct.1 (leads_psNext following oldMember isNext.symm)
    · apply @ih (.next first) following distinct.2
      rintro entry member isEntry
      rw [Place.next.injEq] at isEntry
      exact distinct.1 (isEntry ▸ member)

/-- Removal takes a node out of the list it is in. -/
theorem Holds.remove
    (holds : memory.Holds lists)
    (owned : lists owner = some nodes)
    {old : node}
    (member : old ∈ nodes) :
    (memory.remove old).Holds
      (Function.update lists owner (some (nodes.erase old))) := by
  have leads := holds.leads owner nodes owned
  have nodup := holds.nodup owner nodes owned
  have oldPlace := holds.place owned member
  obtain ⟨front, back, rfl⟩ := List.append_of_mem member
  have notFront : old ∉ front := by
    intro inFront
    exact (List.nodup_append.mp nodup).2.2 old inFront old mem_cons_self rfl
  rw [List.erase_append_right _ notFront, List.erase_cons_head]
  apply holds.update
  · exact @leads_remove _ _ memory _ _ (.head owner) front back old leads
      nodup nofun
  · exact nodup.sublist ((List.sublist_cons_self old back).append_left front)
  · intro other others notOwner ownedOther entry inOther inRest
    refine notOwner (holds.apart other others owner _ ownedOther owned
      entry inOther ?_)
    exact ((List.sublist_cons_self old back).append_left front).subset inRest
  · intro other notOwner
    refine (remove_load memory old (.head other)).trans (if_neg ?_)
    rcases oldPlace with isHead | ⟨before, _, isBefore⟩
    · rw [isHead, Place.head.injEq]
      exact notOwner
    · rw [isBefore]
      nofun
  · intro other others notOwner ownedOther entry inOther
    have entryApart : entry ∉ front ++ old :: back := fun inNodes =>
      notOwner (holds.apart other others owner _ ownedOther owned
        entry inOther inNodes)
    constructor
    · refine (remove_load memory old (.next entry)).trans (if_neg ?_)
      rcases oldPlace with isHead | ⟨before, beforeMember, isBefore⟩
      · rw [isHead]
        nofun
      · rw [isBefore, Place.next.injEq]
        rintro rfl
        exact entryApart beforeMember
    · rw [remove_ppsThis, if_neg]
      intro isNext
      exact entryApart (leads_psNext leads member isNext.symm)

/-! ## Reversal -/

/-- What the reversal does to the nodes still to be turned around. -/
theorem reverseLoop_leads
    {owner : list}
    {reversed current : Option node}
    {place : Place list node}
    {done rest : List node}
    (turnedLeads :
      memory.Leads reversed (reversedPlace owner current) done)
    (restLeads : memory.Leads current place rest)
    (nodup : (rest ++ done).Nodup)
    {fuel : Nat}
    (enough : rest.length < fuel) :
    ∃ turned first,
      reverseLoop owner fuel memory reversed current = some (turned, first) ∧
        turned.Leads first (.head owner) (rest.reverse ++ done) ∧
        turned.head = memory.head ∧
        ∀ entry ∉ rest, turned.psNext entry = memory.psNext entry ∧
          turned.ppsThis entry = memory.ppsThis entry := by
  induction rest generalizing memory reversed current place done fuel with
  | nil =>
    obtain ⟨fuel, rfl⟩ := Nat.exists_eq_add_of_lt enough
    obtain rfl : current = none := restLeads
    exact ⟨memory, reversed, rfl, turnedLeads, rfl, fun _ _ => ⟨rfl, rfl⟩⟩
  | cons first rest ih =>
    cases fuel with
    | zero => exact absurd enough (Nat.not_lt_zero _)
    | succ fuel =>
      obtain ⟨rfl, _, following⟩ := restLeads
      obtain ⟨firstApart, distinct⟩ := nodup_cons.mp nodup
      have nextKept : ∀ entry, entry ≠ first →
          ((memory.store (.next first) reversed).setThis first
            (reversedPlace owner (memory.psNext first))).psNext entry =
            memory.psNext entry := fun entry notFirst =>
        update_of_ne notFirst _ _
      have thisKept : ∀ entry, entry ≠ first →
          ((memory.store (.next first) reversed).setThis first
            (reversedPlace owner (memory.psNext first))).ppsThis entry =
            memory.ppsThis entry := fun entry notFirst =>
        update_of_ne notFirst _ _
      have inDone : ∀ entry ∈ done, entry ≠ first := by
        rintro entry member rfl
        exact firstApart (List.mem_append_right _ member)
      have inRest : ∀ entry ∈ rest, entry ≠ first := by
        rintro entry member rfl
        exact firstApart (List.mem_append_left _ member)
      have turnedFirst :
          ((memory.store (.next first) reversed).setThis first
            (reversedPlace owner (memory.psNext first))).Leads
            (some first) (reversedPlace owner (memory.psNext first))
            (first :: done) := by
        refine ⟨rfl, update_self _ _ _, ?_⟩
        rw [show ((memory.store (.next first) reversed).setThis first
          (reversedPlace owner (memory.psNext first))).psNext first =
            reversed from update_self _ _ _]
        exact leads_congr
          (fun entry member => nextKept entry (inDone entry member))
          (fun entry member => thisKept entry (inDone entry member))
          turnedLeads
      have restKept := leads_congr
        (fun entry member => nextKept entry (inRest entry member))
        (fun entry member => thisKept entry (inRest entry member))
        following
      obtain ⟨turned, newFirst, runs, leads, sameHead, sameNodes⟩ :=
        ih turnedFirst restKept
          (List.nodup_middle.mpr nodup) (Nat.lt_of_succ_lt_succ enough)
      refine ⟨turned, newFirst, runs, ?_, sameHead, ?_⟩
      · rw [List.reverse_cons, List.append_assoc]
        exact leads
      · intro entry outside
        obtain ⟨notFirst, notRest⟩ := List.ne_and_not_mem_of_not_mem_cons outside
        have same := sameNodes entry notRest
        exact ⟨same.1.trans (nextKept entry notFirst),
          same.2.trans (thisKept entry notFirst)⟩

/-- Reversal reverses a list. -/
theorem Holds.reverse
    (holds : memory.Holds lists)
    (owned : lists owner = some nodes)
    (enough : nodes.length < fuel) :
    ∃ turned, memory.reverse fuel owner = some turned ∧
      turned.Holds (Function.update lists owner (some nodes.reverse)) := by
  have nodup := holds.nodup owner nodes owned
  obtain ⟨turned, first, runs, leads, sameHead, sameNodes⟩ :=
    @reverseLoop_leads _ _ memory _ _ owner none _ _ [] _ rfl
      (holds.leads owner nodes owned) (by rwa [List.append_nil]) _ enough
  refine ⟨turned.store (.head owner) first, ?_, ?_⟩
  · rw [Memory.reverse, runs, Option.map_some]
  · rw [List.append_nil] at leads
    apply holds.update
    · rw [show (turned.store (.head owner) first).head owner = first from
        update_self _ _ _]
      exact leads_congr (by exact fun _ _ => rfl) (by exact fun _ _ => rfl)
        leads
    · exact List.nodup_reverse.mpr nodup
    · intro other others notOwner ownedOther entry inOther inNodes
      exact notOwner (holds.apart other others owner nodes ownedOther owned
        entry inOther (List.mem_reverse.mp inNodes))
    · intro other notOwner
      rw [← sameHead]
      exact update_of_ne notOwner _ _
    · intro other others notOwner ownedOther entry inOther
      apply sameNodes
      intro inNodes
      exact notOwner (holds.apart other others owner nodes ownedOther owned
        entry inOther inNodes)

end Memory
end IntrusiveList
