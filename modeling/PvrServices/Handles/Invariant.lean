import PvrServices.Handles.Family

/-!
# Invariant of a handle base

Every handle structure is live, free, or released in the batch that is open.
The free ones form the chain that starts at the first free index, those of the
batch the chain that starts at the first batch index, and the live ones the
families of sibling lists.
-/

namespace PvrServices.Handles

open Links

/-! ## Parts of the invariant -/

namespace HandleBase

/-- A handle structure that is allocated. -/
def Live (base : HandleBase) (index : Nat) : Prop :=
  index < base.ui32TotalHandCount ∧
    (base.handles index).eType ≠ handleTypeNone

/-- A structure that is live or waits for the end of the batch. -/
def Used (base : HandleBase) (batch : List Nat) (index : Nat) : Prop :=
  base.Live index ∨ index ∈ batch

end HandleBase

/-- The index links from `start` lead through the structures of the batch. -/
def BatchFrom (base : HandleBase) : Nat → List Nat → Prop
  | start, [] => start = 0
  | start, index :: rest =>
    start = index + 1 ∧
      BatchFrom base (base.handles index).ui32NextIndexPlusOne rest

/-- The counts of the array, and its limit. -/
structure Sized (base : HandleBase) : Prop where
  total_le : base.ui32TotalHandCount ≤ base.ui32MaxIndexPlusOne
  total_mod : base.ui32TotalHandCount % handleBlockSize = 0
  max_mod : base.ui32MaxIndexPlusOne % handleBlockSize = 0
  max_le : base.ui32MaxIndexPlusOne ≤ defaultMaxHandle

/-- The free structures form the chain from the first to the last free
index. -/
structure FreeChain (base : HandleBase) (chain : List Nat) : Prop where
  count : base.ui32FreeHandCount = chain.length
  first : base.ui32FirstFreeIndex = chain.headD 0
  links : Chain base.nextFree chain
  last : ∀ index ∈ chain.getLast?,
    base.ui32LastFreeIndexPlusOne = index + 1 ∧
      (base.handles index).ui32NextIndexPlusOne = 0
  empty : chain = [] → base.ui32LastFreeIndexPlusOne = 0
  distinct : chain.Nodup

/-- Each structure is in the chain, in the batch, or live; its flags say
which. -/
structure Occupancy
    (base : HandleBase) (chain batch : List Nat) : Prop where
  mem_chain : ∀ index, index ∈ chain ↔
    index < base.ui32TotalHandCount ∧
      (base.handles index).eType = handleTypeNone ∧ index ∉ batch
  batchInside : ∀ index ∈ batch, index < base.ui32TotalHandCount
  batchDistinct : batch.Nodup
  batchFlags : ∀ index ∈ batch,
    (base.handles index).batched = true ∧
      ((base.handles index).partiallyFree = true ↔
        (base.handles index).eType = handleTypeNone)
  liveFlags : ∀ index, base.Live index → index ∉ batch →
    (base.handles index).batched = false ∧
      (base.handles index).partiallyFree = false ∧
      (base.handles index).ui32NextIndexPlusOne = 0

/-- The invariant, for the chain of free structures, the rest of the batch
from `start` on, and the children of each handle. -/
structure Valid
    (base : HandleBase)
    (chain : List Nat)
    (start : Nat)
    (batch : List Nat)
    (kids : Nat → List Nat)
    (rank : Nat → Nat) : Prop where
  sized : Sized base
  free : FreeChain base chain
  links : BatchFrom base start batch
  occupancy : Occupancy base chain batch
  family : Family base.slot base.Live (base.Used batch) kids rank

/-! ## Changes of the list fields -/

/-- The bases differ in their list fields only. -/
structure SameData (before after : HandleBase) : Prop where
  fields : after = { before with handles := after.handles }
  handles : ∀ index, after.handles index =
    { before.handles index with
      sChildren := (after.handles index).sChildren
      sSiblings := (after.handles index).sSiblings }

namespace SameData

variable {before after last : HandleBase}

theorem refl (base : HandleBase) : SameData base base :=
  ⟨rfl, fun _ => rfl⟩

theorem trans
    (first : SameData before after)
    (second : SameData after last) :
    SameData before last where
  fields := by
    rw [second.fields, first.fields]
  handles := by
    intro index
    rw [second.handles, first.handles]

theorem modifyList
    (base : HandleBase)
    (parent index : Nat)
    (change : HandleList → HandleList) :
    SameData base (base.modifyList parent index change) where
  fields := rfl
  handles := by
    intro other
    by_cases same : other = index
    · subst same
      simp only [HandleBase.modifyList, HandleBase.modify,
        Function.update_self]
      split_ifs <;> rfl
    · simp [HandleBase.modifyList, HandleBase.modify,
        Function.update_of_ne same]

theorem modifySiblings
    (base : HandleBase)
    (index : Nat)
    (change : HandleList → HandleList) :
    SameData base (base.modifySiblings index change) where
  fields := rfl
  handles := by
    intro other
    by_cases same : other = index
    · subst same
      simp [HandleBase.modifySiblings, HandleBase.modify]
    · simp [HandleBase.modifySiblings, HandleBase.modify,
        Function.update_of_ne same]

theorem unlinkFromParent (base : HandleBase) (index : Nat) :
    SameData base (base.unlinkFromParent index) := by
  unfold HandleBase.unlinkFromParent
  simp only
  split_ifs
  · exact refl base
  · exact ((modifyList ..).trans (modifyList ..)).trans (modifySiblings ..)

theorem adoptChild (base : HandleBase) (parent child : Nat) :
    SameData base (base.adoptChild parent child) := by
  unfold HandleBase.adoptChild
  exact ((((modifySiblings ..).trans (modifyList ..)).trans
    (modifySiblings ..)).trans (modifyList ..)).trans (modifySiblings ..)

theorem eType (same : SameData before after) (index : Nat) :
    (after.handles index).eType = (before.handles index).eType := by
  rw [same.handles]

theorem pvData (same : SameData before after) (index : Nat) :
    (after.handles index).pvData = (before.handles index).pvData := by
  rw [same.handles]

theorem eFlag (same : SameData before after) (index : Nat) :
    (after.handles index).eFlag = (before.handles index).eFlag := by
  rw [same.handles]

theorem link (same : SameData before after) (index : Nat) :
    (after.handles index).ui32NextIndexPlusOne =
      (before.handles index).ui32NextIndexPlusOne := by
  rw [same.handles]

theorem batched (same : SameData before after) (index : Nat) :
    (after.handles index).batched = (before.handles index).batched := by
  rw [same.handles]

theorem partiallyFree (same : SameData before after) (index : Nat) :
    (after.handles index).partiallyFree =
      (before.handles index).partiallyFree := by
  rw [same.handles]

end SameData

variable {other base : HandleBase}

theorem Sized.congr
    (sized : Sized base)
    (total : other.ui32TotalHandCount = base.ui32TotalHandCount)
    (max : other.ui32MaxIndexPlusOne = base.ui32MaxIndexPlusOne) :
    Sized other where
  total_le := by
    rw [total, max]
    exact sized.total_le
  total_mod := total ▸ sized.total_mod
  max_mod := max ▸ sized.max_mod
  max_le := max ▸ sized.max_le

theorem BatchFrom.congr
    {start : Nat}
    {batch : List Nat}
    (links : BatchFrom base start batch)
    (agree : ∀ index ∈ batch,
      (other.handles index).ui32NextIndexPlusOne =
        (base.handles index).ui32NextIndexPlusOne) :
    BatchFrom other start batch := by
  induction batch generalizing start with
  | nil => exact links
  | cons index rest ih =>
    refine ⟨links.1, ?_⟩
    rw [agree index List.mem_cons_self]
    exact ih links.2
      fun other member => agree other (List.mem_cons_of_mem _ member)

/-- The chain only depends on the three counters and the links in it. -/
theorem FreeChain.congr
    {chain : List Nat}
    (free : FreeChain base chain)
    (count : other.ui32FreeHandCount = base.ui32FreeHandCount)
    (first : other.ui32FirstFreeIndex = base.ui32FirstFreeIndex)
    (last : other.ui32LastFreeIndexPlusOne = base.ui32LastFreeIndexPlusOne)
    (agree : ∀ index ∈ chain,
      (other.handles index).ui32NextIndexPlusOne =
        (base.handles index).ui32NextIndexPlusOne) :
    FreeChain other chain where
  count := count.trans free.count
  first := first.trans free.first
  links := by
    apply chain_congr _ free.links
    intro index member
    have inChain := (List.dropLast_sublist chain).subset member
    simp only [HandleBase.nextFree, agree index inChain]
  last := by
    intro index isLast
    rw [last, agree index (List.mem_of_mem_getLast? isLast)]
    exact free.last index isLast
  empty := fun none => last.trans (free.empty none)
  distinct := free.distinct

/-- Unlinking a live handle leaves it without a parent, and the other children
of its parent in their order. -/
theorem Family.unlinkFromParent
    {used : Nat → Prop}
    {kids : Nat → List Nat}
    {rank : Nat → Nat}
    (family : Family base.slot base.Live used kids rank)
    {index : Nat}
    (alive : base.Live index) :
    Family (base.unlinkFromParent index).slot base.Live used
        (fun parent => (kids parent).erase index) rank ∧
      (base.unlinkFromParent index).parentHandle index = 0 := by
  have slots := base.slot_unlinkFromParent index
  cases parentField : base.parentHandle index with
  | zero =>
    have isRoot : (base.slot (.siblings index)).hParent = 0 := parentField
    rw [family.unlinkSlots_root (family.liveUsed index alive) isRoot]
      at slots
    have noParent : (fun parent => (kids parent).erase index) = kids := by
      ext1 parent
      apply List.erase_of_not_mem
      intro member
      have field := ((family.kids_iff parent index).mp member).2
      simp [isRoot, indexToHandle] at field
    rw [noParent]
    refine ⟨slots ▸ family, ?_⟩
    exact (congrFun slots (.siblings index) ▸ isRoot :
      ((base.unlinkFromParent index).slot (.siblings index)).hParent = 0)
  | succ parent =>
    have member : index ∈ kids parent :=
      (family.kids_iff parent index).mpr ⟨alive, parentField⟩
    have erased : (fun other => (kids other).erase index) =
        Function.update kids parent ((kids parent).erase index) := by
      ext1 other
      by_cases head : other = parent
      · rw [head, Function.update_self]
      · rw [Function.update_of_ne head]
        apply List.erase_of_not_mem
        exact fun inOther => head (family.parent_unique inOther member)
    have unlinked := family.unlink member
    rw [← slots, ← erased] at unlinked
    refine ⟨unlinked, ?_⟩
    have orphan : index ∉ (kids parent).erase index :=
      (family.distinct parent).not_mem_erase
    by_contra hasParent
    obtain ⟨other, field⟩ := Nat.exists_eq_succ_of_ne_zero hasParent
    have inOther := (unlinked.kids_iff other index).mpr ⟨alive, field⟩
    exact (family.distinct other).not_mem_erase inOther

namespace Valid

variable {base : HandleBase} {chain batch : List Nat} {start : Nat}
  {kids : Nat → List Nat} {rank : Nat → Nat}

/-- Changes of the list fields keep the chain and the batch. -/
theorem sameData
    (valid : Valid base chain start batch kids rank)
    {after : HandleBase}
    (same : SameData base after)
    {otherKids : Nat → List Nat}
    {otherRank : Nat → Nat}
    (family : Family after.slot base.Live (base.Used batch) otherKids
      otherRank) :
    Valid after chain start batch otherKids otherRank := by
  have total : after.ui32TotalHandCount = base.ui32TotalHandCount := by
    rw [same.fields]
  have live : ∀ index, after.Live index ↔ base.Live index := by
    intro index
    simp only [HandleBase.Live, total, same.eType]
  refine ⟨?_, ?_, ?_, ?_, ?_⟩
  · apply valid.sized.congr <;> rw [same.fields]
  · refine valid.free.congr ?_ ?_ ?_ fun index _ => same.link index
    all_goals rw [same.fields]
  · exact valid.links.congr fun index _ => same.link index
  · have occupancy := valid.occupancy
    refine ⟨?_, ?_, occupancy.batchDistinct, ?_, ?_⟩
    · intro index
      rw [total, same.eType]
      exact occupancy.mem_chain index
    · rw [total]
      exact occupancy.batchInside
    · intro index member
      rw [same.batched, same.partiallyFree, same.eType]
      exact occupancy.batchFlags index member
    · intro index alive
      rw [same.batched, same.partiallyFree, same.link]
      exact occupancy.liveFlags index ((live index).mp alive)
  · exact family.congr live fun index => by
      simp only [HandleBase.Used, live]

/-- Unlinking a live handle makes it a handle without a parent. -/
theorem unlinkFromParent
    (valid : Valid base chain start batch kids rank)
    {index : Nat}
    (alive : base.Live index) :
    Valid (base.unlinkFromParent index) chain start batch
        (fun parent => (kids parent).erase index) rank ∧
      (base.unlinkFromParent index).parentHandle index = 0 := by
  obtain ⟨family, isRoot⟩ := valid.family.unlinkFromParent alive
  exact ⟨valid.sameData (SameData.unlinkFromParent base index) family, isRoot⟩

end Valid

end PvrServices.Handles
