import Mathlib.Data.Finset.Card

/-!
# Releasing a tree of linked nodes

A node is released with everything below it.  It is detached from its parent,
its children are released one after the other, and it is retired.  What
follows a child is read before the child is released.  As long as detaching
and retiring keep an invariant that knows the children of each node, a release
ends, and removes the node and nodes below it, each of them once.
-/

namespace TreeRelease

open List (mem_append mem_cons mem_cons_self mem_singleton not_mem_nil)

variable {state node : Type}

/-- What a release does to a state, and what it reads there. -/
structure Steps (state node : Type) where
  /-- Take a node from its parent. -/
  detach : state → node → state
  /-- The node at which the children of a node end. -/
  stop : state → node → node
  /-- The first child, or the stop if there is none. -/
  first : state → node → node
  /-- What follows a child, by the stop and the child. -/
  next : state → node → node → node
  /-- Finish a node whose children are released. -/
  retire : state → node → state

section Release

variable [DecidableEq node]

mutual

/-- Release a node, with a bound on the depth of the calls. -/
def release (steps : Steps state node) : Nat → state → node → Option state
  | 0, _, _ => none
  | fuel + 1, before, root =>
    let detached := steps.detach before root
    match releaseFrom steps fuel detached (steps.stop detached root)
      (steps.first detached root) with
    | none => none
    | some after => some (steps.retire after root)

/-- Release the children from `child` on. -/
def releaseFrom (steps : Steps state node) :
    Nat → state → node → node → Option state
  | 0, _, _, _ => none
  | fuel + 1, before, stop, child =>
    if child = stop then some before
    else
      let next := steps.next before stop child
      match release steps fuel before child with
      | none => none
      | some after => releaseFrom steps fuel after stop next

end

/-- What every detaching and retiring keeps, a release keeps. -/
theorem release_frame
    {steps : Steps state node}
    {related : state → state → Prop}
    (refl : ∀ now, related now now)
    (trans : ∀ {before middle after}, related before middle →
      related middle after → related before after)
    (detach : ∀ now root, related now (steps.detach now root))
    (retire : ∀ now root, related now (steps.retire now root))
    (fuel : Nat) :
    (∀ before root after, release steps fuel before root = some after →
      related before after) ∧
    ∀ before stop child after,
      releaseFrom steps fuel before stop child = some after →
        related before after := by
  induction fuel with
  | zero =>
    refine ⟨fun before root after impossible => ?_,
      fun before stop child after impossible => ?_⟩
    · rw [release] at impossible
      cases impossible
    · rw [releaseFrom] at impossible
      cases impossible
  | succ fuel ih =>
    obtain ⟨ofNode, ofChildren⟩ := ih
    refine ⟨fun before root after released => ?_,
      fun before stop child after released => ?_⟩
    · simp only [release] at released
      split at released
      · cases released
      · rename_i middle iterated
        cases released
        exact trans
          (trans (detach before root) (ofChildren _ _ _ _ iterated))
          (retire middle root)
    · simp only [releaseFrom] at released
      split_ifs at released with atStop
      · cases released
        exact refl before
      · split at released
        · cases released
        · rename_i middle first
          exact trans (ofNode _ _ _ first) (ofChildren _ _ _ _ released)

end Release

/-- The live nodes in `removed` are gone: the roots and nodes that rank above
them. -/
structure Removes
    (live : state → Finset node)
    (rank : node → Nat)
    (before after : state)
    (roots removed : List node) : Prop where
  roots_subset : ∀ root ∈ roots, root ∈ removed
  left : ∀ other, other ∈ live after ↔
    other ∈ live before ∧ other ∉ removed
  alive : ∀ other ∈ removed, other ∈ live before
  ranked : ∀ other ∈ removed, ∃ root ∈ roots, rank root ≤ rank other
  distinct : removed.Nodup

namespace Removes

variable {live : state → Finset node} {rank : node → Nat}
  {before middle after : state} {removed others : List node}

theorem nil (now : state) : Removes live rank now now [] [] where
  roots_subset := fun _ member => absurd member not_mem_nil
  left := by simp
  alive := fun _ member => absurd member not_mem_nil
  ranked := fun _ member => absurd member not_mem_nil
  distinct := List.nodup_nil

theorem append
    {root : node}
    {rest : List node}
    (one : Removes live rank before middle [root] removed)
    (more : Removes live rank middle after rest others) :
    Removes live rank before after (root :: rest) (removed ++ others) where
  roots_subset := by
    intro other member
    rcases mem_cons.mp member with rfl | inRest
    · exact List.mem_append_left _ (one.roots_subset _ mem_cons_self)
    · exact List.mem_append_right _ (more.roots_subset other inRest)
  left := by
    intro other
    rw [more.left, one.left, mem_append, not_or, and_assoc]
  alive := by
    intro other member
    rcases mem_append.mp member with inFirst | inOthers
    · exact one.alive other inFirst
    · exact ((one.left other).mp (more.alive other inOthers)).1
  ranked := by
    intro other member
    rcases mem_append.mp member with inFirst | inOthers
    · obtain ⟨found, isRoot, le⟩ := one.ranked other inFirst
      rw [mem_singleton.mp isRoot] at le
      exact ⟨root, mem_cons_self, le⟩
    · obtain ⟨found, isRoot, le⟩ := more.ranked other inOthers
      exact ⟨found, List.mem_cons_of_mem _ isRoot, le⟩
  distinct := by
    refine List.nodup_append.mpr ⟨one.distinct, more.distinct, ?_⟩
    rintro other inFirst _ inOthers rfl
    exact ((one.left other).mp (more.alive other inOthers)).2 inFirst

end Removes

/-! ## The invariant -/

variable [DecidableEq node]

/-- What makes a release end: an invariant that knows the live children of each
live node, kept by detaching and retiring, and an effect that composes. -/
structure Releasable
    (steps : Steps state node)
    (live : state → Finset node)
    (invariant : state → (node → List node) → Prop)
    (rank : node → Nat)
    (effect : state → state → List node → List node → Prop) : Prop where
  child : ∀ {now kids parent other}, invariant now kids →
    other ∈ kids parent →
      parent ∈ live now ∧ other ∈ live now ∧ rank parent < rank other
  oneParent : ∀ {now kids first second other}, invariant now kids →
    other ∈ kids first → other ∈ kids second → first = second
  distinct : ∀ {now kids}, invariant now kids →
    ∀ parent, (kids parent).Nodup
  stop : ∀ {now kids parent}, invariant now kids → parent ∈ live now →
    steps.stop now parent = parent
  first : ∀ {now kids parent}, invariant now kids → parent ∈ live now →
    steps.first now parent = (kids parent).headD parent
  next : ∀ {now kids parent child rest}, invariant now kids →
    parent ∈ live now → kids parent = child :: rest →
      steps.next now parent child = rest.headD parent
  detach : ∀ {now kids root}, invariant now kids → root ∈ live now →
    invariant (steps.detach now root)
        (fun parent => (kids parent).erase root) ∧
      live (steps.detach now root) = live now
  retire : ∀ {now kids root}, invariant now kids → root ∈ live now →
    (∀ parent, root ∉ kids parent) → kids root = [] →
      invariant (steps.retire now root) kids ∧
        live (steps.retire now root) = (live now).erase root
  nothing : ∀ now, effect now now [] []
  append : ∀ {before middle after root rest removed others},
    effect before middle [root] removed → effect middle after rest others →
      effect before after (root :: rest) (removed ++ others)
  finish : ∀ {before middle kids otherKids root removed},
    invariant before kids → root ∈ live before →
      effect (steps.detach before root) middle (kids root) removed →
      root ∉ removed → invariant middle otherKids → root ∈ live middle →
      (∀ parent, root ∉ otherKids parent) → otherKids root = [] →
      effect before (steps.retire middle root) [root] (root :: removed)

/-- The live nodes of a greater rank. -/
def above
    (live : state → Finset node) (rank : node → Nat)
    (now : state) (bound : Nat) :
    Finset node :=
  (live now).filter fun other => bound < rank other

omit [DecidableEq node] in
theorem mem_above
    {live : state → Finset node}
    {rank : node → Nat}
    {now : state}
    {bound : Nat}
    {other : node} :
    other ∈ above live rank now bound ↔
      other ∈ live now ∧ bound < rank other :=
  Finset.mem_filter

/-! ## One release -/

section Ends

variable (steps : Steps state node) (live : state → Finset node)
  (invariant : state → (node → List node) → Prop) (rank : node → Nat)
  (effect : state → state → List node → List node → Prop)

/-- What releasing a node achieves. -/
def ReleasesNode (fuel : Nat) : Prop :=
  ∀ before kids root, invariant before kids → root ∈ live before →
    2 * (above live rank before (rank root)).card + 2 ≤ fuel →
    ∃ after otherKids removed,
      release steps fuel before root = some after ∧
        invariant after otherKids ∧
        Removes live rank before after [root] removed ∧
        effect before after [root] removed ∧
        ∀ parent ∈ live after, otherKids parent = (kids parent).erase root

/-- What releasing the children of a node achieves. -/
def ReleasesChildren (fuel : Nat) : Prop :=
  ∀ before kids parent, invariant before kids → parent ∈ live before →
    2 * (above live rank before (rank parent)).card + 1 ≤ fuel →
    ∃ after otherKids removed,
      releaseFrom steps fuel before parent ((kids parent).headD parent) =
          some after ∧
        invariant after otherKids ∧
        Removes live rank before after (kids parent) removed ∧
        effect before after (kids parent) removed ∧
        parent ∉ removed ∧
        otherKids parent = [] ∧
        ∀ other ∈ live after, other ≠ parent → otherKids other = kids other

end Ends

namespace Releasable

variable {steps : Steps state node} {live : state → Finset node}
  {invariant : state → (node → List node) → Prop} {rank : node → Nat}
  {effect : state → state → List node → List node → Prop}
  {kids : node → List node} {fuel : Nat}

theorem notMem_own
    (releasable : Releasable steps live invariant rank effect)
    {now : state}
    (kept : invariant now kids)
    (parent : node) :
    parent ∉ kids parent := fun member =>
  Nat.lt_irrefl _ (releasable.child kept member).2.2

section

variable (releasable : Releasable steps live invariant rank effect)
include releasable

/-- Releasing a node, where its children can be released. -/
theorem node_succ
    (children : ReleasesChildren steps live invariant rank effect fuel) :
    ReleasesNode steps live invariant rank effect (fuel + 1) := by
  intro before kids root kept alive enough
  obtain ⟨detachedKept, sameLive⟩ := releasable.detach kept alive
  have detachedAlive : root ∈ live (steps.detach before root) :=
    sameLive ▸ alive
  have sameAbove : above live rank (steps.detach before root) (rank root) =
      above live rank before (rank root) := by
    simp only [above, sameLive]
  have ownKids : (kids root).erase root = kids root :=
    List.erase_of_not_mem (releasable.notMem_own kept root)
  obtain ⟨middle, middleKids, removed, result, middleKept, removes, below,
    outside, childless, others⟩ :=
    children _ _ root detachedKept detachedAlive (by rw [sameAbove]; omega)
  rw [ownKids] at result below removes
  have middleAlive : root ∈ live middle :=
    (removes.left root).mpr ⟨detachedAlive, outside⟩
  have orphan : ∀ parent, root ∉ middleKids parent := by
    intro parent member
    have different : parent ≠ root := by
      rintro rfl
      exact releasable.notMem_own middleKept parent member
    have parentAlive := (releasable.child middleKept member).1
    rw [others parent parentAlive different] at member
    exact (releasable.distinct kept parent).not_mem_erase member
  obtain ⟨lastKept, lastLive⟩ :=
    releasable.retire middleKept middleAlive orphan childless
  refine ⟨_, middleKids, root :: removed, ?_, lastKept, ?_,
    releasable.finish kept alive below outside middleKept middleAlive orphan
      childless, ?_⟩
  · simp only [release]
    rw [releasable.stop detachedKept detachedAlive,
      releasable.first detachedKept detachedAlive, ownKids, result]
  · refine ⟨?_, ?_, ?_, ?_, ?_⟩
    · intro other member
      rw [mem_singleton.mp member]
      exact mem_cons_self
    · intro other
      rw [lastLive, Finset.mem_erase, removes.left, sameLive, mem_cons, not_or]
      exact and_left_comm
    · intro other member
      rcases mem_cons.mp member with rfl | inRemoved
      · exact alive
      · exact sameLive ▸ removes.alive other inRemoved
    · intro other member
      refine ⟨root, mem_cons_self, ?_⟩
      rcases mem_cons.mp member with rfl | inRemoved
      · exact le_rfl
      · obtain ⟨child, isChild, le⟩ := removes.ranked other inRemoved
        exact le_trans (Nat.le_of_lt (releasable.child kept isChild).2.2) le
    · exact List.nodup_cons.mpr ⟨outside, removes.distinct⟩
  · intro parent parentAlive
    rw [lastLive, Finset.mem_erase] at parentAlive
    exact others parent parentAlive.2 parentAlive.1

/-- Releasing the children of a node one after the other. -/
theorem children_succ
    (node : ReleasesNode steps live invariant rank effect fuel)
    (children : ReleasesChildren steps live invariant rank effect fuel) :
    ReleasesChildren steps live invariant rank effect (fuel + 1) := by
  intro before kids parent kept alive enough
  cases split : kids parent with
  | nil =>
    refine ⟨before, kids, [], ?_, kept, Removes.nil before,
      releasable.nothing before, not_mem_nil, split,
      fun _ _ _ => rfl⟩
    rw [releaseFrom]
    exact if_pos rfl
  | cons child rest =>
    have member : child ∈ kids parent := split ▸ mem_cons_self
    obtain ⟨_, childAlive, higher⟩ := releasable.child kept member
    have different : child ≠ parent := by
      rintro rfl
      exact Nat.lt_irrefl _ higher
    have inAbove : child ∈ above live rank before (rank parent) :=
      mem_above.mpr ⟨childAlive, higher⟩
    have deeper : (above live rank before (rank child)).card <
        (above live rank before (rank parent)).card := by
      apply Finset.card_lt_card
      refine Finset.ssubset_iff_subset_ne.mpr ⟨?_, ?_⟩
      · intro other inside
        rw [mem_above] at inside ⊢
        exact ⟨inside.1, by omega⟩
      · intro same
        rw [← same, mem_above] at inAbove
        omega
    obtain ⟨middle, middleKids, first, result, middleKept, removesFirst,
      firstEffect, erased⟩ :=
      node before kids child kept childAlive (by omega)
    have parentOutside : parent ∉ first := by
      intro inFirst
      obtain ⟨root, isRoot, le⟩ := removesFirst.ranked parent inFirst
      rw [mem_singleton.mp isRoot] at le
      omega
    have parentAlive : parent ∈ live middle :=
      (removesFirst.left parent).mpr ⟨alive, parentOutside⟩
    have restKids : middleKids parent = rest := by
      rw [erased parent parentAlive, split, List.erase_cons_head]
    have smaller : (above live rank middle (rank parent)).card <
        (above live rank before (rank parent)).card := by
      apply Finset.card_lt_card
      refine Finset.ssubset_iff_subset_ne.mpr ⟨?_, ?_⟩
      · intro other inside
        rw [mem_above] at inside ⊢
        exact ⟨((removesFirst.left other).mp inside.1).1, inside.2⟩
      · intro same
        rw [← same, mem_above, removesFirst.left] at inAbove
        exact inAbove.1.2 (removesFirst.roots_subset child mem_cons_self)
    obtain ⟨after, lastKids, others, restResult, lastKept, removesRest,
      restEffect, outsideRest, childless, unchanged⟩ :=
      children middle middleKids parent middleKept parentAlive (by omega)
    rw [restKids] at restResult restEffect removesRest
    refine ⟨after, lastKids, first ++ others, ?_, lastKept,
      removesFirst.append removesRest,
      releasable.append firstEffect restEffect, ?_, childless, ?_⟩
    · rw [List.headD_cons, releaseFrom, if_neg different]
      simp only [releasable.next kept alive split, result]
      exact restResult
    · rw [mem_append, not_or]
      exact ⟨parentOutside, outsideRest⟩
    · intro other otherAlive notParent
      have aliveBetween := ((removesRest.left other).mp otherAlive).1
      rw [unchanged other otherAlive notParent, erased other aliveBetween]
      apply List.erase_of_not_mem
      exact fun inOther => notParent (releasable.oneParent kept inOther member)

theorem node_and_children
    (fuel : Nat) :
    ReleasesNode steps live invariant rank effect fuel ∧
      ReleasesChildren steps live invariant rank effect fuel := by
  induction fuel with
  | zero =>
    refine ⟨fun before kids root kept alive enough => ?_,
      fun before kids parent kept alive enough => ?_⟩
    · omega
    · omega
  | succ fuel ih =>
    obtain ⟨node, children⟩ := ih
    exact ⟨releasable.node_succ children,
      releasable.children_succ node children⟩

/-- A release ends, keeps the invariant, and leaves the children of the nodes
that stay, but for the root. -/
theorem release_spec
    {before : state}
    {root : node}
    (kept : invariant before kids)
    (alive : root ∈ live before)
    (enough : 2 * (live before).card + 2 ≤ fuel) :
    ∃ after otherKids removed,
      release steps fuel before root = some after ∧
        invariant after otherKids ∧
        Removes live rank before after [root] removed ∧
        effect before after [root] removed ∧
        ∀ parent ∈ live after,
          otherKids parent = (kids parent).erase root := by
  have fewer : (above live rank before (rank root)).card ≤
      (live before).card :=
    Finset.card_filter_le _ _
  exact (releasable.node_and_children fuel).1 before kids root kept alive
    (by omega)

end

end Releasable

end TreeRelease
