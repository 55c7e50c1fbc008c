import PvrServices.Handles.FreeList

/-!
# Recursive release

`FreeHandle` needs no more of a base than that its links form a forest and
that no handle belongs to a batch.  It then returns, frees the handle and its
descendants, and takes the handle out of its parent's ring.
-/

namespace PvrServices.Handles

open HandleBase

namespace HandleBase

/-- The links of the live handles form a forest, with the children `kids` in
the order of their rings. -/
def Forested
    (base : HandleBase) (kids : Nat → List Nat) (rank : Nat → Nat) : Prop :=
  Family base.slot base.Live base.Live kids rank

/-- No batch is open, and no live handle is left of one. -/
structure Unbatched (base : HandleBase) : Prop where
  closed : base.handlesBatched = false
  flags : ∀ index, base.Live index →
    (base.handles index).batched = false ∧
      (base.handles index).partiallyFree = false

/-- The handle `index` is `root` or a descendant of it. -/
def Under (base : HandleBase) (root index : Nat) : Prop :=
  index = root ∨ base.Ancestor index (indexToHandle root)

end HandleBase

/-- The handle `index` has been freed with its descendants, and nothing else
has changed for the other handles. -/
structure FreesSubtree
    (base after : HandleBase)
    (kids : Nat → List Nat)
    (rank : Nat → Nat)
    (index : Nat) : Prop where
  total : after.ui32TotalHandCount = base.ui32TotalHandCount
  live : ∀ other, after.Live other ↔
    base.Live other ∧ ¬ base.Under index other
  counted : ∃ freed : List Nat, freed.Nodup ∧
    (∀ other, other ∈ freed ↔ base.Live other ∧ base.Under index other) ∧
    after.ui32FreeHandCount = base.ui32FreeHandCount + freed.length
  unhashed : ∀ other, base.Live other → base.Under index other →
    (base.handles other).eFlag.multi = false →
      after.hashTab (base.keyOf other) = none
  hashed : ∀ key, (∀ other, base.Live other → base.Under index other →
      (base.handles other).eFlag.multi = false → base.keyOf other ≠ key) →
    after.hashTab key = base.hashTab key
  kept : ∀ other, after.Live other → KeepsHandle base after other
  rings : ∃ otherKids, after.Forested otherKids rank ∧
    (∀ parent, base.parentHandle index = indexToHandle parent →
      otherKids parent = (kids parent).erase index) ∧
    ∀ other, after.Live other →
      base.parentHandle index ≠ indexToHandle other →
        otherKids other = kids other

/-! ## What is freed -/

variable {before after : HandleBase} {rank : Nat → Nat} {index : Nat}
  {removed : List Nat} {state : Type} {steps : TreeRelease.Steps state Nat}
  {view : state → HandleBase}

/-- What is freed is the handle and its descendants. -/
theorem Freed.mem_removed_iff
    (freed : Freed before after rank [index] removed)
    (ranked : before.Ranked rank)
    {other : Nat}
    (alive : before.Live other) :
    other ∈ removed ↔ before.Under index other := by
  constructor
  · intro member
    -- from the handle up to the root of what is freed
    induction bound : rank other using Nat.strong_induction_on
      generalizing other with
    | _ bound ih =>
      rcases freed.parent other member with root | ⟨parent, inside, field⟩
      · exact Or.inl (List.mem_singleton.mp root)
      · right
        obtain ⟨parentLive, lower⟩ := ranked other parent alive field
        rcases ih (rank parent) (bound ▸ lower) parentLive
            inside rfl with rfl | ancestor
        · rw [← field]
          exact Ancestor.parent other
        · exact Ancestor.above field ancestor
  · rintro (rfl | ancestor)
    · exact freed.roots_subset other List.mem_cons_self
    · generalize same : indexToHandle index = handle at ancestor
      induction ancestor with
      | parent other =>
        exact freed.closed index
          (freed.roots_subset index List.mem_cons_self) other alive
          same.symm
      | @above other parent hAncestor field _ ih =>
        have parentLive := (ranked other parent alive field).1
        exact freed.closed parent (ih parentLive same) other alive field

theorem Freed.keepsHandle
    {roots : List Nat}
    (freed : Freed before after rank roots removed)
    (alive : after.Live index) :
    KeepsHandle before after index where
  eType := freed.eType index alive
  pvData := freed.pvData index
  eFlag := freed.eFlag index
  parent := freed.parentKept index alive

/-! ## The invariant -/

namespace HandleBase

/-- The first part of `FreeHandle` keeps the flags. -/
theorem detach_flags (base : HandleBase) (index other : Nat) :
    let after := (base.removeFromHash index).unlinkFromParent index
    (after.handles other).batched = (base.handles other).batched ∧
      (after.handles other).partiallyFree =
        (base.handles other).partiallyFree := by
  have same := SameData.unlinkFromParent (base.removeFromHash index) index
  have handles : (base.removeFromHash index).handles = base.handles := by
    unfold removeFromHash
    split_ifs <;> rfl
  refine ⟨?_, ?_⟩
  · rw [same.batched, handles]
  · rw [same.partiallyFree, handles]

theorem detach_count (base : HandleBase) (index : Nat) :
    ((base.removeFromHash index).unlinkFromParent
        index).ui32FreeHandCount =
      base.ui32FreeHandCount := by
  rw [(SameData.unlinkFromParent _ index).fields]
  unfold removeFromHash
  split_ifs <;> rfl

end HandleBase

/-- The steps also count what they free, and leave the flags of the other
handles. -/
structure CountsThrough
    {state : Type}
    (steps : TreeRelease.Steps state Nat)
    (view : state → HandleBase) : Prop extends FreesThrough steps view where
  counts : ∀ now index, ((view now).handles index).batched = false →
    (view (steps.retire now index)).ui32FreeHandCount =
      (view now).ui32FreeHandCount + 1
  flags : ∀ now index other, other ≠ index →
    ((view (steps.retire now index)).handles other).batched =
        ((view now).handles other).batched ∧
      ((view (steps.retire now index)).handles other).partiallyFree =
        ((view now).handles other).partiallyFree

theorem HandleBase.countsThrough :
    CountsThrough HandleBase.freeSteps fun base => base where
  toFreesThrough := HandleBase.freesThrough
  counts := fun base _ => base.retireHandle_count
  flags := fun base index other different =>
    ⟨base.retireHandle_batched index other,
      base.retireHandle_partiallyFree different⟩

/-- The forest, the flags, and the number of free and live structures
together. -/
structure ForestCounted
    (rank : Nat → Nat) (number : Nat)
    (base : HandleBase) (kids : Nat → List Nat) : Prop where
  forested : base.Forested kids rank
  flags : ∀ index, base.Live index →
    (base.handles index).batched = false ∧
      (base.handles index).partiallyFree = false
  counted : base.ui32FreeHandCount + base.liveHandles.card = number

/-- The forest and the counts are kept by the steps of `FreeHandle`. -/
theorem CountsThrough.releasable
    (through : CountsThrough steps view) (rank : Nat → Nat) (number : Nat) :
    TreeRelease.Releasable steps (fun now => (view now).liveHandles)
      (fun now kids => ForestCounted rank number (view now) kids) rank
      (fun before after roots removed =>
        Freed (view before) (view after) rank roots removed) := by
  apply releasable_of_family through.toFreesThrough
  · exact fun kept => ⟨_, kept.forested⟩
  · exact fun kept alive => (kept.flags _ alive).2
  · intro now kids index kept alive
    obtain ⟨family, _, detached⟩ :=
      Family.detach kept.forested alive (kept.flags index alive).2
    have live := detached.live
    rw [through.detach]
    refine ⟨family.congr (fun _ => Iff.rfl) live, ?_, ?_⟩
    · intro other otherAlive
      obtain ⟨batched, partiallyFree⟩ := (view now).detach_flags index other
      rw [batched, partiallyFree]
      exact kept.flags other ((live other).mp otherAlive)
    · rw [detach_count, liveHandles_congr live]
      exact kept.counted
  · intro now kids index kept alive isRoot childless
    have retired := through.retire now index
    have live := retired.live
    refine ⟨?_, ?_, ?_⟩
    · rw [Forested, retired.same.slot]
      exact kept.forested.retire isRoot childless live
        (fun other aliveAfter => ((live other).mp aliveAfter).1)
        (fun other aliveAfter => aliveAfter)
    · intro other otherAlive
      obtain ⟨aliveBefore, different⟩ := (live other).mp otherAlive
      obtain ⟨batched, partiallyFree⟩ :=
        through.flags now index other different
      rw [batched, partiallyFree]
      exact kept.flags other aliveBefore
    · have erased : (view (steps.retire now index)).liveHandles =
          (view now).liveHandles.erase index := by
        ext other
        rw [mem_liveHandles, Finset.mem_erase, mem_liveHandles, live, and_comm]
      have member := mem_liveHandles.mpr alive
      have positive := Finset.card_pos.mpr ⟨index, member⟩
      rw [through.counts now index (kept.flags index alive).1, erased,
        Finset.card_erase_of_mem member]
      have counted := kept.counted
      omega

/-- The bases that the calls lead to are forests. -/
theorem HandleBase.Sound.forested
    {base : HandleBase}
    (sound : base.Sound)
    (closed : base.handlesBatched = false) :
    ∃ kids rank, base.Forested kids rank ∧ base.Unbatched := by
  obtain ⟨chain, batch, kids, rank, valid, emptied⟩ := sound
  have empty := emptied closed
  refine ⟨kids, rank, valid.family.congr (fun _ => Iff.rfl) fun index => ?_,
    closed, fun index alive => ?_⟩
  · simp only [Used, empty, List.not_mem_nil, or_false]
  · have flags := valid.occupancy.liveFlags index alive
      (empty ▸ List.not_mem_nil)
    exact ⟨flags.1, flags.2.1⟩

/-! ## The release -/

/-- In a forest, `FreeHandle` returns, frees the handle with its descendants,
unlinks it, and leaves the other handles and rings as they are. -/
theorem CountsThrough.freesSubtree
    (through : CountsThrough steps view)
    {now : state}
    {kids : Nat → List Nat}
    (forested : (view now).Forested kids rank)
    (unbatched : (view now).Unbatched)
    (alive : (view now).Live index) :
    ∃ after, TreeRelease.release steps
        (2 * (view now).ui32TotalHandCount + 2) now index = some after ∧
      FreesSubtree (view now) (view after) kids rank index := by
  have ranked : (view now).Ranked rank := Family.ranked_of_parent forested
  have fewer := (view now).card_liveHandles_le
  obtain ⟨after, otherKids, removed, result, kept, removes, freed, others⟩ :=
    (through.releasable rank _).release_spec
      ⟨forested, unbatched.flags, rfl⟩ (mem_liveHandles.mpr alive)
      (show 2 * (view now).liveHandles.card + 2 ≤
        2 * (view now).ui32TotalHandCount + 2 by omega)
  have members : ∀ other, other ∈ removed ↔
      (view now).Live other ∧ (view now).Under index other := by
    intro other
    constructor
    · intro member
      have aliveBefore := freed.alive other member
      exact ⟨aliveBefore, (freed.mem_removed_iff ranked aliveBefore).mp member⟩
    · rintro ⟨aliveBefore, under⟩
      exact (freed.mem_removed_iff ranked aliveBefore).mpr under
  have live : ∀ other, (view after).Live other ↔
      (view now).Live other ∧ ¬ (view now).Under index other := by
    intro other
    rw [freed.live, members, not_and]
    exact and_congr_right fun aliveBefore =>
      ⟨fun gone => gone aliveBefore, fun outside _ => outside⟩
  refine ⟨after, result, freed.total, live, ?_, ?_, ?_,
    fun other => freed.keepsHandle, ?_⟩
  · refine ⟨removed, removes.distinct, members, ?_⟩
    have counted := kept.counted
    have inside : removed.toFinset ⊆ (view now).liveHandles := by
      intro other member
      exact removes.alive other (List.mem_toFinset.mp member)
    have rest : (view after).liveHandles =
        (view now).liveHandles \ removed.toFinset := by
      ext other
      rw [removes.left, Finset.mem_sdiff, List.mem_toFinset]
    have fewerFreed := Finset.card_le_card inside
    rw [rest, Finset.card_sdiff_of_subset inside] at counted
    rw [List.toFinset_card_of_nodup removes.distinct] at counted fewerFreed
    omega
  · intro other aliveBefore under single
    rw [freed.hash, if_pos]
    exact ⟨other, (members other).mpr ⟨aliveBefore, under⟩, single, rfl⟩
  · intro key apart
    rw [freed.hash, if_neg]
    rintro ⟨other, member, single, same⟩
    obtain ⟨aliveBefore, under⟩ := (members other).mp member
    exact apart other aliveBefore under single same
  · refine ⟨otherKids, kept.forested, ?_, ?_⟩
    · intro parent field
      have lower := (ranked index parent alive field).2
      have parentStays : parent ∈ (view after).liveHandles := by
        refine (removes.left parent).mpr ⟨mem_liveHandles.mpr
          (ranked index parent alive field).1, fun gone => ?_⟩
        obtain ⟨root, isRoot, le⟩ := removes.ranked parent gone
        rw [List.mem_singleton.mp isRoot] at le
        omega
      exact others parent parentStays
    · intro other otherAlive notParent
      rw [others other (mem_liveHandles.mpr otherAlive)]
      apply List.erase_of_not_mem
      exact fun member =>
        notParent ((forested.kids_iff other index).mp member).2

end PvrServices.Handles
