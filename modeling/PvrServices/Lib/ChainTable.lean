import Mathlib.Algebra.Group.Nat.Defs
import Mathlib.Data.List.Nodup
import Mathlib.Data.List.Perm.Basic

/-!
# Tables of chains

A table of chains is an array of pointers, each the start of a chain of nodes
linked by a next pointer.  Nodes are put in front of a chain and taken out
from anywhere in it.  `Holds` says which nodes are in which chain.
-/

namespace ChainTable

open Function (update update_of_ne update_self)

variable {node : Type} {next other : node → Option node}
  {pointer head : Option node} {nodes front back chain : List node}
  {old : node} {heads : List (Option node)} {chains : List (List node)}
  {index : Nat}

/-! ## Chains -/

/-- The pointer leads to these nodes, one after the other. -/
def Follows (next : node → Option node) : Option node → List node → Prop
  | pointer, [] => pointer = none
  | pointer, first :: rest =>
    pointer = some first ∧ Follows next (next first) rest

/-- Links outside a chain do not matter to it. -/
theorem follows_congr
    (same : ∀ entry ∈ nodes, other entry = next entry)
    (follows : Follows next pointer nodes) :
    Follows other pointer nodes := by
  induction nodes generalizing pointer with
  | nil => exact follows
  | cons first rest ih =>
    refine ⟨follows.1, ?_⟩
    rw [same first List.mem_cons_self]
    exact ih (fun entry member => same entry (List.mem_cons_of_mem _ member))
      follows.2

/-! ## Searching -/

/-- What points to a node: a cell of the array or the node before. -/
inductive Place (node : Type) where
  | head (index : Nat)
  | next (before : node)
deriving DecidableEq

/-- The first node from `pointer` on that matches, with the place that points
to it.  A test that reads a freed node has no value. -/
def search (next : node → Option node) (isMatch : node → Option Bool) :
    Nat → Place node → Option node → Option (Option (Place node × node))
  | 0, _, _ => none
  | _ + 1, _, none => some none
  | fuel + 1, place, some current => do
      if ← isMatch current then some (some (place, current))
      else search next isMatch fuel (.next current) (next current)

/-- The place that points behind some nodes of a chain. -/
def placeAfter (start : Place node) (nodes : List node) : Place node :=
  nodes.foldl (fun _ before => .next before) start

/-- A search finds the first match of the chain. -/
theorem search_follows
    {isMatch : node → Option Bool}
    {answer : node → Bool}
    {place : Place node}
    {fuel : Nat}
    (follows : Follows next pointer nodes)
    (answers : ∀ entry ∈ nodes, isMatch entry = some (answer entry))
    (enough : nodes.length < fuel) :
    (search next isMatch fuel place pointer = some none ∧
        ∀ entry ∈ nodes, answer entry = false) ∨
      ∃ front found back, nodes = front ++ found :: back ∧
        answer found = true ∧
        (∀ entry ∈ front, answer entry = false) ∧
        search next isMatch fuel place pointer =
          some (some (placeAfter place front, found)) := by
  induction nodes generalizing pointer place fuel with
  | nil =>
    obtain ⟨fuel, rfl⟩ := Nat.exists_eq_add_of_lt enough
    obtain rfl : pointer = none := follows
    exact Or.inl ⟨rfl, fun _ member => absurd member List.not_mem_nil⟩
  | cons first rest ih =>
    cases fuel with
    | zero => exact absurd enough (Nat.not_lt_zero _)
    | succ fuel =>
      obtain ⟨rfl, following⟩ := follows
      have isFirst := answers first List.mem_cons_self
      cases isAnswer : answer first with
      | true =>
        refine Or.inr ⟨[], first, rest, rfl, isAnswer,
          fun _ member => absurd member List.not_mem_nil, ?_⟩
        rw [search, isFirst, isAnswer]
        rfl
      | false =>
        have step : ∀ start : Place node,
            search next isMatch (fuel + 1) start (some first) =
              search next isMatch fuel (.next first) (next first) := by
          intro start
          rw [search, isFirst, isAnswer]
          rfl
        rw [step]
        rcases @ih (next first) (.next first) fuel following
          (fun entry member => answers entry (List.mem_cons_of_mem _ member))
          (Nat.lt_of_succ_lt_succ enough) with
          ⟨nothing, noMatch⟩ | ⟨front, found, back, split, isFound,
            noMatch, finds⟩
        · exact Or.inl ⟨nothing, List.forall_mem_cons.mpr
            ⟨isAnswer, noMatch⟩⟩
        · exact Or.inr ⟨first :: front, found, back,
            congrArg (first :: ·) split, isFound,
            List.forall_mem_cons.mpr ⟨isAnswer, noMatch⟩, finds⟩

/-! ## Tables -/

/-- The cells of the array are the starts of these chains, which share no
node. -/
structure Holds (next : node → Option node) (heads : List (Option node))
    (chains : List (List node)) : Prop where
  follows : List.Forall₂ (Follows next) heads chains
  nodup : chains.flatten.Nodup

theorem Holds.length_eq
    (holds : Holds next heads chains) :
    heads.length = chains.length :=
  holds.follows.length_eq

/-- The chain of a cell. -/
theorem Holds.at
    (holds : Holds next heads chains)
    (isChain : chains[index]? = some chain) :
    ∃ head, heads[index]? = some head ∧ Follows next head chain := by
  obtain ⟨inBounds, isAt⟩ := List.getElem?_eq_some_iff.mp isChain
  have headBounds : index < heads.length := holds.length_eq ▸ inBounds
  refine ⟨heads[index], List.getElem?_eq_getElem headBounds, ?_⟩
  rw [← isAt]
  exact holds.follows.get headBounds inBounds

/-- An array of empty chains. -/
theorem holds_replicate
    (next : node → Option node)
    (count : Nat) :
    Holds next (List.replicate count none) (List.replicate count []) := by
  constructor
  · induction count with
    | zero => exact List.Forall₂.nil
    | succ count ih => exact List.Forall₂.cons rfl ih
  · rw [List.flatten_replicate_nil]
    exact List.nodup_nil

/-- Exchanging a chain exchanges its nodes. -/
theorem perm_flatten_set
    (isChain : chains[index]? = some chain)
    (changed : List node) :
    ∃ others, chains.flatten.Perm (chain ++ others) ∧
      (chains.set index changed).flatten.Perm (changed ++ others) := by
  obtain ⟨inBounds, isAt⟩ := List.getElem?_eq_some_iff.mp isChain
  refine ⟨(chains.take index).flatten ++ (chains.drop (index + 1)).flatten,
    ?_, ?_⟩
  · have split : chains =
        chains.take index ++ chain :: chains.drop (index + 1) := by
      rw [← isAt, List.getElem_cons_drop, List.take_append_drop]
    conv_lhs => rw [split]
    rw [List.flatten_append, List.flatten_cons]
    exact List.perm_append_comm_assoc _ _ _
  · rw [List.set_eq_take_append_cons_drop, if_pos inBounds,
      List.flatten_append, List.flatten_cons]
    exact List.perm_append_comm_assoc _ _ _

/-- Changing one chain and its links changes no other chain. -/
theorem Holds.set
    (holds : Holds next heads chains)
    (isChain : chains[index]? = some chain)
    {changed : List node}
    (follows : Follows other head changed)
    (nodup : (chains.set index changed).flatten.Nodup)
    (same : ∀ entry ∈ chains.flatten, entry ∉ chain →
      other entry = next entry) :
    Holds other (heads.set index head) (chains.set index changed) := by
  refine ⟨?_, nodup⟩
  have distinct := holds.nodup
  obtain ⟨inBounds, isAt⟩ := List.getElem?_eq_some_iff.mp isChain
  have sameLength := holds.length_eq
  rw [List.forall₂_iff_get]
  refine ⟨by rw [List.length_set, List.length_set, sameLength], ?_⟩
  intro position headBounds chainBounds
  rw [List.length_set] at headBounds chainBounds
  simp only [List.get_eq_getElem, List.getElem_set]
  split_ifs with isIndex
  · exact follows
  · have kept := holds.follows.get headBounds chainBounds
    rw [List.get_eq_getElem, List.get_eq_getElem] at kept
    apply follows_congr _ kept
    intro entry member
    apply same entry
      (List.mem_flatten.mpr ⟨_, List.getElem_mem chainBounds, member⟩)
    intro inChain
    have apart := List.pairwise_iff_getElem.mp
      (List.nodup_flatten.mp distinct).2
    rcases Nat.lt_or_gt_of_ne isIndex with before | after
    · exact apart index position inBounds chainBounds before
        (isAt ▸ inChain) member
    · exact apart position index chainBounds inBounds after member
        (isAt ▸ inChain)

variable [DecidableEq node]

/-! ## Putting nodes in -/

/-- Put a node in front of a chain. -/
theorem Holds.push
    (holds : Holds next heads chains)
    (isChain : chains[index]? = some chain)
    (isHead : heads[index]? = some head)
    {new : node}
    (fresh : new ∉ chains.flatten) :
    Holds (update next new head) (heads.set index (some new))
      (chains.set index (new :: chain)) := by
  have outside : ∀ entry ∈ chains.flatten, entry ≠ new := by
    rintro entry member rfl
    exact fresh member
  have inFlatten : ∀ entry ∈ chain, entry ∈ chains.flatten := by
    intro entry member
    exact List.mem_flatten.mpr ⟨chain, List.mem_of_getElem? isChain, member⟩
  obtain ⟨found, isFound, follows⟩ := holds.at isChain
  obtain rfl : head = found := Option.some.inj (isHead.symm.trans isFound)
  apply holds.set isChain
  · refine ⟨rfl, ?_⟩
    rw [update_self]
    apply follows_congr _ follows
    intro entry member
    exact update_of_ne (outside entry (inFlatten entry member)) _ _
  · obtain ⟨others, before, after⟩ := perm_flatten_set isChain (new :: chain)
    rw [after.nodup_iff, List.cons_append, List.nodup_cons]
    exact ⟨fun member => fresh (before.mem_iff.mpr member),
      before.nodup_iff.mp holds.nodup⟩
  · intro entry member _
    exact update_of_ne (outside entry member) _ _

/-! ## Taking nodes out -/

/-- The links and the array with a pointer written to a place. -/
def store (next : node → Option node) (heads : List (Option node))
    (pointer : Option node) : Place node →
      (node → Option node) × List (Option node)
  | .head index => (next, heads.set index pointer)
  | .next before => (Function.update next before pointer, heads)

omit [DecidableEq node] in
theorem placeAfter_concat
    (place : Place node)
    (front : List node)
    (before : node) :
    placeAfter place (front ++ [before]) = .next before := by
  rw [placeAfter, List.foldl_append]
  rfl

/-- Linking a node to the one after the next takes the next out. -/
theorem follows_unlink
    {before : node}
    (follows : Follows next pointer (front ++ before :: old :: back))
    (nodup : (front ++ before :: old :: back).Nodup) :
    Follows (update next before (next old)) pointer
      (front ++ before :: back) := by
  induction front generalizing pointer with
  | nil =>
    obtain ⟨isBefore, _, following⟩ := follows
    refine ⟨isBefore, ?_⟩
    rw [update_self]
    apply follows_congr _ following
    intro entry member
    apply update_of_ne
    rintro rfl
    exact (List.nodup_cons.mp nodup).1 (List.mem_cons_of_mem _ member)
  | cons first front ih =>
    obtain ⟨isFirst, following⟩ := follows
    obtain ⟨firstApart, distinct⟩ := List.nodup_cons.mp nodup
    refine ⟨isFirst, ?_⟩
    rw [update_of_ne]
    · exact ih following distinct
    · rintro rfl
      exact firstApart (List.mem_append_right _ List.mem_cons_self)

/-- Write the link of a node to the place that points to it. -/
theorem Holds.unlink
    (holds : Holds next heads chains)
    (isChain : chains[index]? = some (front ++ old :: back)) :
    Holds
      (store next heads (next old) (placeAfter (.head index) front)).1
      (store next heads (next old) (placeAfter (.head index) front)).2
      (chains.set index (front ++ back)) := by
  obtain ⟨head, isHead, follows⟩ := holds.at isChain
  have nodup : (chains.set index (front ++ back)).flatten.Nodup := by
    obtain ⟨others, before, after⟩ := perm_flatten_set isChain (front ++ back)
    rw [after.nodup_iff]
    refine List.Nodup.sublist ?_ (before.nodup_iff.mp holds.nodup)
    exact ((List.sublist_cons_self old back).append_left front).append_right
      others
  have chainNodup : (front ++ old :: back).Nodup :=
    (List.nodup_flatten.mp holds.nodup).1 _ (List.mem_of_getElem? isChain)
  rcases List.eq_nil_or_concat front with rfl | ⟨front, before, rfl⟩
  · exact holds.set isChain follows.2 nodup fun _ _ _ => rfl
  · rw [List.concat_eq_append] at *
    rw [placeAfter_concat]
    rw [List.append_assoc, List.singleton_append] at follows chainNodup
    have unlinked := holds.set isChain
      (follows_unlink follows chainNodup)
      (by rwa [List.append_assoc, List.singleton_append] at nodup) ?_
    · rw [List.append_assoc, List.singleton_append]
      have sameHeads : heads.set index head = heads := by
        obtain ⟨inBounds, isAt⟩ := List.getElem?_eq_some_iff.mp isHead
        rw [← isAt, List.set_getElem_self]
      rw [sameHeads] at unlinked
      exact unlinked
    · intro entry _ outside
      apply update_of_ne
      rintro rfl
      apply outside
      rw [List.append_assoc, List.singleton_append]
      exact List.mem_append_right _ List.mem_cons_self

end ChainTable
