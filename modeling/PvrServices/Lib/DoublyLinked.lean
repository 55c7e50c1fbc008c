import Mathlib.Data.List.Nodup
import PvrServices.Lib.Links

/-!
# Null-terminated doubly linked lists

A list has a head and a tail pointer, and each node points to the nodes after
and before it, or nowhere.  Reading "nowhere" as a place of its own, whose
links are the head and the tail, turns the list into a ring through that
place; insertion and removal then change two links of one place each.
-/

namespace DoublyLinked

open List (map_append map_cons nodup_cons)
open Function (update update_apply)

variable {node : Type}

/-- The pointers of one list. -/
structure Memory (node : Type) where
  head : Option node
  tail : Option node
  next : node → Option node
  prev : node → Option node

namespace Memory

/-- Where the list goes on after a place. -/
def forward (memory : Memory node) : Option node → Option node
  | none => memory.head
  | some entry => memory.next entry

/-- Where the list comes from in front of a place. -/
def backward (memory : Memory node) : Option node → Option node
  | none => memory.tail
  | some entry => memory.prev entry

variable [DecidableEq node]

/-- Redirect the list after a place. -/
def setForward (memory : Memory node) (place target : Option node) :
    Memory node :=
  match place with
  | none => { memory with head := target }
  | some entry => { memory with next := update memory.next entry target }

/-- Redirect the list in front of a place. -/
def setBackward (memory : Memory node) (place target : Option node) :
    Memory node :=
  match place with
  | none => { memory with tail := target }
  | some entry => { memory with prev := update memory.prev entry target }

section

variable (memory : Memory node) (place target : Option node)
include memory place target

@[simp] theorem forward_setForward :
    (memory.setForward place target).forward =
      update memory.forward place target := by
  funext other
  cases place <;> cases other <;>
    simp [setForward, forward, update_apply]

@[simp] theorem backward_setBackward :
    (memory.setBackward place target).backward =
      update memory.backward place target := by
  funext other
  cases place <;> cases other <;>
    simp [setBackward, backward, update_apply]

@[simp] theorem backward_setForward :
    (memory.setForward place target).backward = memory.backward := by
  funext other
  cases place <;> cases other <;> rfl

@[simp] theorem forward_setBackward :
    (memory.setBackward place target).forward = memory.forward := by
  funext other
  cases place <;> cases other <;> rfl

end

/-- Unlink an entry. -/
def remove (memory : Memory node) (entry : node) : Memory node :=
  (memory.setForward (memory.prev entry) (memory.next entry)).setBackward
    (memory.next entry) (memory.prev entry)

/-- Link an entry in behind a place. -/
def insertAfter (memory : Memory node) (place : Option node) (entry : node) :
    Memory node :=
  (((memory.setForward (some entry) (memory.forward place)).setForward place
    (some entry)).setBackward (memory.forward place) (some entry)).setBackward
      (some entry) place

end Memory

open Memory

/-- The pointers lead through the entries and back. -/
def Holds (memory : Memory node) (entries : List node) : Prop :=
  Links.Ring memory.forward memory.backward none (entries.map some)

variable {memory : Memory node} {entries front back : List node}
  {entry : node}

private theorem places_nodup
    (distinct : entries.Nodup) :
    (none :: entries.map some).Nodup := by
  rw [nodup_cons]
  refine ⟨?_, distinct.map fun _ _ same => Option.some.inj same⟩
  simp

namespace Holds

/-- The pointers of other nodes do not matter. -/
theorem congr
    {other : Memory node}
    (holds : Holds memory entries)
    (head : other.head = memory.head)
    (tail : other.tail = memory.tail)
    (next : ∀ entry ∈ entries, other.next entry = memory.next entry)
    (prev : ∀ entry ∈ entries, other.prev entry = memory.prev entry) :
    Holds other entries := by
  apply Links.path_congr _ _ holds
  · intro place member
    cases place with
    | none => exact head
    | some entry => exact next entry (by simpa using member)
  · intro place member
    cases place with
    | none => exact tail
    | some entry => exact prev entry (by simpa using member)

/-- What comes in front of an entry. -/
theorem prev_eq
    (holds : Holds memory (front ++ entry :: back)) :
    memory.prev entry = front.getLast? := by
  unfold Holds Links.Ring at holds
  rw [map_append, map_cons] at holds
  have link := Links.path_prev (Links.path_append.mp holds).1
  rw [show memory.prev entry = memory.backward (some entry) from rfl, link]
  cases front using List.reverseRecOn with
  | nil => rfl
  | append_singleton front last => simp

/-- What comes after an entry. -/
theorem next_eq
    (holds : Holds memory (front ++ entry :: back)) :
    memory.next entry = back.head? := by
  unfold Holds Links.Ring at holds
  rw [map_append, map_cons] at holds
  have link := Links.path_next (Links.path_append.mp holds).2
  rw [show memory.next entry = memory.forward (some entry) from rfl, link]
  cases back <;> rfl

theorem head_eq
    (holds : Holds memory entries) :
    memory.head = entries.head? := by
  have link := Links.path_next holds
  rw [show memory.head = memory.forward none from rfl, link]
  cases entries <;> rfl

section Updates

variable [DecidableEq node]

/-- An unlinked entry leaves its place in the list. -/
theorem remove
    (holds : Holds memory (front ++ entry :: back))
    (distinct : (front ++ entry :: back).Nodup) :
    Holds (memory.remove entry) (front ++ back) := by
  unfold Holds Links.Ring at holds ⊢
  rw [map_append, map_cons] at holds
  rw [map_append]
  have places := places_nodup distinct
  rw [map_append, map_cons] at places
  have removed := Links.path_remove places (nodup_cons.mp places).1 holds
  rw [Memory.remove, forward_setBackward, forward_setForward,
    backward_setBackward, backward_setForward]
  exact removed

/-- An entry that is linked in stands behind its place. -/
theorem insertAfter
    (holds : Holds memory (front ++ back))
    (distinct : (front ++ back).Nodup)
    (outside : entry ∉ front ++ back) :
    Holds (memory.insertAfter front.getLast? entry)
      (front ++ entry :: back) := by
  unfold Holds Links.Ring at holds ⊢
  rw [Memory.insertAfter, forward_setBackward, forward_setBackward,
    forward_setForward, forward_setForward, backward_setBackward,
    backward_setBackward, backward_setForward, backward_setForward,
    map_append, map_cons]
  rw [map_append] at holds
  have places := places_nodup distinct
  rw [map_append] at places
  have last : (front.map some).getLastD none = front.getLast? := by
    cases front using List.reverseRecOn with
    | nil => rfl
    | append_singleton front last => simp
  have following : (back.map some).headD none =
      memory.forward front.getLast? := by
    rw [← last]
    exact (Links.path_next_between holds).symm
  have absent : some entry ∉ none :: (front.map some ++ back.map some) := by
    simpa using outside
  have inserted := Links.path_insertBetween places absent
    (nodup_cons.mp places).1 (Option.some_ne_none entry) holds
  rw [last, following] at inserted
  exact inserted

end Updates

end Holds

/-! ## Walking a list -/

/-- The entries from a pointer on, as many as the fuel allows. -/
def walk (next : node → Option node) : Nat → Option node → List node
  | _, none => []
  | 0, some _ => []
  | fuel + 1, some entry => entry :: walk next fuel (next entry)

/-- Walking from the head visits the entries. -/
theorem Holds.walk
    (holds : Holds memory (front ++ back))
    {fuel : Nat}
    (enough : back.length ≤ fuel) :
    walk memory.next fuel back.head? = back := by
  induction back generalizing front fuel with
  | nil => cases fuel <;> rfl
  | cons entry rest ih =>
    cases fuel with
    | zero => exact absurd enough (by simp)
    | succ fuel =>
      have following : memory.next entry = rest.head? := holds.next_eq
      rw [List.append_cons] at holds
      rw [List.head?_cons, DoublyLinked.walk, following,
        ih holds (by simpa using enough)]

end DoublyLinked
