import PvrServices.Handles.Forest
import PvrServices.Handles.Keys
import PvrServices.Handles.Release

/-!
# Handle bases refine the forest

The live handles of a base are the nodes of a forest.  Without batches, and for
handle values of 32 bits, each call gives a result that the forest allows and
changes the forest as the result says.
-/

namespace PvrServices.Handles

open HandleBase

/-! ## The forest of a base -/

namespace HandleBase

/-- The node of a handle structure. -/
def node (base : HandleBase) (index : Nat) : Node where
  data := (base.handles index).pvData
  type := (base.handles index).eType
  flags := (base.handles index).eFlag
  parent := base.parentHandle index

/-- The forest of the live handles. -/
def forest (base : HandleBase) : Forest
  | 0 => none
  | index + 1 => if base.Live index then some (base.node index) else none

variable {base : HandleBase}

theorem forest_of_live
    {index : Nat}
    (alive : base.Live index) :
    base.forest (indexToHandle index) = some (base.node index) :=
  if_pos alive

theorem forest_eq_some
    {handle : Nat}
    {node : Node} :
    base.forest handle = some node ↔
      ∃ index, handle = indexToHandle index ∧ base.Live index ∧
        base.node index = node := by
  cases handle with
  | zero =>
    simp only [forest, indexToHandle, reduceCtorEq, false_iff]
    rintro ⟨index, impossible, _⟩
    omega
  | succ index =>
    simp only [forest, indexToHandle, Nat.add_right_cancel_iff]
    constructor
    · intro present
      by_cases alive : base.Live index
      · rw [if_pos alive] at present
        exact ⟨index, rfl, alive, Option.some.inj present⟩
      · rw [if_neg alive] at present
        cases present
    · rintro ⟨_, rfl, alive, rfl⟩
      exact if_pos alive

end HandleBase

variable {before after base : HandleBase} {index hHandle pvData parent : Nat}
  {key : HandKey} {rank : Nat → Nat} {eType : HandleType} {eFlag : AllocFlag}
  {removed : List Nat} {op : HandleOp}

theorem KeepsHandle.node
    (keeps : KeepsHandle before after index) :
    after.node index = before.node index := by
  simp only [HandleBase.node, keeps.eType, keeps.pvData, keeps.eFlag,
    keeps.parent]

theorem SameForest.forest
    (same : SameForest before after) :
    after.forest = before.forest := by
  ext1 handle
  cases handle with
  | zero => rfl
  | succ index =>
    simp only [HandleBase.forest, same.live]
    by_cases alive : before.Live index
    · rw [if_pos alive, if_pos alive, (same.kept index alive).node]
    · rw [if_neg alive, if_neg alive]

theorem Created.forest
    (created : Created before after index pvData eType eFlag parent key) :
    after.forest = before.forest.insert (indexToHandle index)
      { data := pvData, type := eType.value, flags := eFlag, parent } := by
  ext1 handle
  have ownNode : after.node index =
      { data := pvData, type := eType.value, flags := eFlag, parent } := by
    simp only [HandleBase.node, created.eType, created.pvData,
      created.eFlag, created.parent]
  cases handle with
  | zero => rfl
  | succ other =>
    by_cases same : other = index
    · subst same
      rw [Forest.insert, Function.update_self]
      rw [← ownNode]
      exact forest_of_live ((created.live other).mpr (Or.inr rfl))
    · have different : other + 1 ≠ indexToHandle index := fun equal =>
        same (Nat.succ.inj equal)
      rw [Forest.insert, Function.update_of_ne different]
      simp only [HandleBase.forest, created.live, same, or_false]
      by_cases alive : before.Live other
      · rw [if_pos alive, if_pos alive, (created.kept other alive).node]
      · rw [if_neg alive, if_neg alive]

/-! ## Descendants -/

/-- The ancestors of the code are those of the forest. -/
theorem descends_iff
    (ranked : base.Ranked rank)
    {hAncestor : Nat}
    (alive : base.Live index) :
    base.forest.Descends (indexToHandle index) hAncestor ↔
      base.Ancestor index hAncestor := by
  constructor
  · intro descends
    generalize same : indexToHandle index = handle at descends
    induction descends generalizing index with
    | parent present =>
      subst same
      rw [forest_of_live alive] at present
      cases present
      exact Ancestor.parent index
    | above present descends ih =>
      subst same
      rw [forest_of_live alive] at present
      cases present
      obtain ⟨parent, field⟩ : ∃ parent,
          base.parentHandle index = indexToHandle parent := by
        cases descends with
        | parent present | above present _ =>
          obtain ⟨parent, field, _⟩ := forest_eq_some.mp present
          exact ⟨parent, field⟩
      exact Ancestor.above field
        (ih (ranked index parent alive field).1 field.symm)
  · intro ancestor
    induction ancestor with
    | parent index => exact Forest.Descends.parent (forest_of_live alive)
    | @above index parent hAncestor field _ ih =>
      refine Forest.Descends.above (forest_of_live alive) ?_
      have below := ih (ranked index parent alive field).1
      rw [← field] at below
      exact below

/-- What is freed is the handle and its descendants in the forest. -/
theorem Freed.mem_removed
    (freed : Freed before after rank [index] removed)
    (ranked : before.Ranked rank)
    {other : Nat}
    (alive : before.Live other) :
    other ∈ removed ↔ other = index ∨
      before.forest.Descends (indexToHandle other) (indexToHandle index) := by
  rw [freed.mem_removed_iff ranked alive, Under, descends_iff ranked alive]

/-- Freeing a handle prunes the forest. -/
theorem Freed.forest
    (freed : Freed before after rank [index] removed)
    (ranked : before.Ranked rank) :
    after.forest = before.forest.prune (indexToHandle index) := by
  classical
  ext1 handle
  cases handle with
  | zero =>
    rw [Forest.prune]
    split_ifs <;> rfl
  | succ other =>
    rw [Forest.prune]
    simp only [HandleBase.forest, indexToHandle, Nat.add_right_cancel_iff]
    by_cases alive : before.Live other
    · have member := freed.mem_removed ranked alive
      by_cases gone : other ∈ removed
      · rw [if_pos (member.mp gone), if_neg]
        exact fun aliveAfter => ((freed.live other).mp aliveAfter).2 gone
      · have aliveAfter := (freed.live other).mpr ⟨alive, gone⟩
        rw [if_neg (fun below => gone (member.mpr below)), if_pos aliveAfter,
          if_pos alive]
        congr 1
        simp only [HandleBase.node, freed.pvData, freed.eFlag,
          freed.eType other aliveAfter, freed.parentKept other aliveAfter]
    · have deadAfter : ¬ after.Live other := fun aliveAfter =>
        alive ((freed.live other).mp aliveAfter).1
      rw [if_neg alive, if_neg deadAfter]
      split_ifs <;> rfl

/-! ## Searches -/

/-- The lookup of a 32-bit value is a search in the forest. -/
theorem HandleBase.Sound.find
    (sound : base.Sound)
    (small : hHandle < 2 ^ 32)
    (eType : Nat) :
    (∃ index, base.getHandleStructure hHandle eType = .ok index ∧
      base.Live index ∧ hHandle = indexToHandle index ∧
      Forest.Find base.forest hHandle eType (.ok (base.node index))) ∨
    ∃ error, base.getHandleStructure hHandle eType = .error error ∧
      Forest.Find base.forest hHandle eType (.error error) := by
  obtain ⟨chain, batch, kids, rank, valid, _⟩ := sound
  cases result : base.getHandleStructure hHandle eType with
  | ok index =>
    left
    obtain ⟨named, alive, matching⟩ := getHandleStructure_ok.mp result
    have bounded := valid.family.bounded index (Or.inl alive)
    have exact := handleToIndex_eq small named.symm bounded
    refine ⟨index, rfl, alive, exact, ?_⟩
    rw [exact]
    exact .found (forest_of_live alive) matching
  | error error =>
    right
    refine ⟨error, rfl, ?_⟩
    rcases getHandleStructure_error result with
      ⟨dead, reason⟩ | ⟨alive, mismatch, rfl⟩
    · refine .absent ?_ reason
      cases hHandle with
      | zero => rfl
      | succ index =>
        rw [handleToIndex_indexToHandle small] at dead
        exact if_neg dead
    · have bounded := valid.family.bounded _ (Or.inl alive)
      have exact := handleToIndex_eq small rfl bounded
      rw [Matches, not_or] at mismatch
      have present := forest_of_live alive
      rw [← exact] at present
      exact .mismatch present mismatch

/-- The hash table finds the nodes by their keys. -/
theorem HandleBase.HashOk.keyed_iff
    (hashOk : base.HashOk)
    {key : HandKey} :
    base.forest.Keyed hHandle key ↔ base.hashTab key = some hHandle := by
  rw [hashOk]
  constructor
  · rintro ⟨node, present, single, keySame⟩
    obtain ⟨index, rfl, alive, rfl⟩ := forest_eq_some.mp present
    exact ⟨index, rfl, alive, single, keySame⟩
  · rintro ⟨index, rfl, alive, single, keySame⟩
    exact ⟨base.node index, forest_of_live alive, single, keySame⟩

/-- Nothing is found under a key without an entry. -/
theorem HandleBase.HashOk.unkeyed
    (hashOk : base.HashOk)
    (fresh : base.hashTab key = none)
    (hHandle : Nat) :
    ¬ base.forest.Keyed hHandle key := by
  rw [hashOk.keyed_iff, fresh]
  intro impossible
  cases impossible

/-! ## Allocation -/

/-- The entry of a live handle finds it. -/
theorem HandleBase.HashOk.entry_found
    (hashOk : base.HashOk)
    (sound : base.Sound)
    (entry : base.hashTab key = some hHandle) :
    ∃ index, hHandle = indexToHandle index ∧ base.Live index ∧
      base.getHandleStructure hHandle key.type = .ok index := by
  obtain ⟨index, rfl, alive, _, rfl⟩ := (hashOk key hHandle).mp entry
  obtain ⟨chain, batch, kids, rank, valid, _⟩ := sound
  have bounded := valid.family.bounded index (Or.inl alive)
  refine ⟨index, rfl, alive, getHandleStructure_ok.mpr
    ⟨(handleToIndex_indexToHandle bounded).symm, alive, Or.inr rfl⟩⟩

/-- An allocation of the code is one of the forest. -/
theorem AllocResult.forest
    {keyParent : Nat}
    {shareable : Nat → Prop}
    (allowed : Node → Prop)
    {outcome : AllocOutcome}
    {result : Except HandleError Nat}
    (allocResult : AllocResult base after pvData eType eFlag
      { data := pvData, type := eType.value, parent := keyParent } parent
      shareable outcome result)
    (sound : base.Sound)
    (afterSound : after.Sound)
    (hashOk : base.HashOk)
    (unbatched : base.handlesBatched = false)
    (sameAllowed : ∀ index, shareable index ↔ allowed (base.node index)) :
    Forest.Alloc base.ui32MaxIndexPlusOne base.forest
        { data := pvData, type := eType.value, flags := eFlag, parent }
        { data := pvData, type := eType.value, parent := keyParent }
        allowed outcome after.forest (result.map .handle) ∧
      after.ui32MaxIndexPlusOne = base.ui32MaxIndexPlusOne ∧
      after.handlesBatched = false := by
  cases allocResult with
  | stale single entry lost same =>
    obtain ⟨index, _, _, found⟩ := hashOk.entry_found sound entry
    cases found.symm.trans lost
  | @shared hHandle index single entry found both permitted same =>
    refine ⟨?_, same.max, ?_⟩
    · obtain ⟨position, rfl, alive, foundToo⟩ := hashOk.entry_found sound entry
      obtain rfl := Except.ok.inj (found.symm.trans foundToo)
      rw [same.forest]
      exact .shared single (hashOk.keyed_iff.mpr entry)
        (forest_of_live alive) both ((sameAllowed index).mp permitted)
    · exact (handlesBatched_congr same.batchSize).trans unbatched
  | @notShareable hHandle index single entry found refused same =>
    refine ⟨?_, same.max, ?_⟩
    · obtain ⟨position, rfl, alive, foundToo⟩ := hashOk.entry_found sound entry
      obtain rfl := Except.ok.inj (found.symm.trans foundToo)
      rw [same.forest]
      rw [sameAllowed] at refused
      exact .notShareable single (hashOk.keyed_iff.mpr entry)
        (forest_of_live alive) refused
    · exact (handlesBatched_congr same.batchSize).trans unbatched
  | failed fresh reason same =>
    refine ⟨?_, same.max, ?_⟩
    · rw [same.forest]
      have unkeyed := fun single => hashOk.unkeyed (fresh single)
      rcases reason with ⟨rfl, noMemory⟩ | ⟨rfl, single, noHash⟩
      · refine .outOfMemory unkeyed fun succeeds => ?_
        intro handle positive below absent
        obtain ⟨index, rfl⟩ : ∃ index, handle = indexToHandle index :=
          ⟨handle - 1, (Nat.sub_add_cancel positive).symm⟩
        have alive := noMemory succeeds unbatched index below
        rw [forest_of_live alive] at absent
        cases absent
      · exact .unableToAdd unkeyed single noHash
    · exact (handlesBatched_congr same.batchSize).trans unbatched
  | @created index fresh created =>
    refine ⟨?_, created.max, ?_⟩
    · rw [created.forest]
      have unkeyed := fun single => hashOk.unkeyed (fresh single)
      obtain ⟨_, _, _, _, valid, _⟩ := afterSound
      have inside := created.inside
      have limit := valid.sized.total_le
      rw [created.max] at limit
      refine .fresh unkeyed ⟨Nat.succ_pos index, ?_⟩ ?_
      · exact Nat.le_trans inside limit
      · exact if_neg created.unused
    · exact (handlesBatched_congr created.batchSize).trans unbatched

/-! ## Steps -/

/-- A call that has nothing to do with batches. -/
def HandleOp.Unbatched : HandleOp → Prop
  | .newBatch .. => False
  | .commitBatch => False
  | .releaseBatch => False
  | _ => True

/-- The values the call looks up have 32 bits. -/
def HandleOp.Small (op : HandleOp) : Prop :=
  ∀ hHandle ∈ op.handles, hHandle < 2 ^ 32

/-- A step of the forest, with what else the base keeps. -/
structure ForestStep
    (base : HandleBase) (op : HandleOp)
    (after : HandleBase) (result : HandleResult) : Prop where
  returned : base.step op = some (after, result)
  allowed : Forest.Step base.ui32MaxIndexPlusOne base.forest op after.forest
    result
  max : after.ui32MaxIndexPlusOne = base.ui32MaxIndexPlusOne
  unbatched : after.handlesBatched = false

/-- Each call is a step of the forest. -/
theorem HandleBase.Sound.forestStep
    (sound : base.Sound)
    (hashOk : base.HashOk)
    (notBatched : base.handlesBatched = false)
    (unbatched : op.Unbatched)
    (small : op.Small) :
    ∃ after result, ForestStep base op after result := by
  cases op with
  | alloc pvData eType eFlag outcome =>
    obtain ⟨after, result, returned, kept, effect⟩ :=
      sound.pvrsrvAllocHandle pvData eType eFlag outcome
    obtain ⟨allowed, max, stillUnbatched⟩ :=
      effect.forest (fun _ => True) sound kept hashOk notBatched
        fun _ => Iff.rfl
    refine ⟨after, result.map .handle, ?_, .alloc allowed, max, stillUnbatched⟩
    simp only [HandleBase.step, returned]
  | allocSub pvData eType eFlag hParent outcome =>
    obtain ⟨after, result, returned, kept, effect⟩ :=
      sound.pvrsrvAllocSubHandle pvData eType eFlag hParent outcome
    have isSmall := small hParent List.mem_cons_self
    rcases sound.find isSmall handleTypeNone with
      ⟨parent, found, _, exact, find⟩ | ⟨error, missing, find⟩
    · rcases effect with ⟨error, lost, _⟩ | ⟨other, foundToo, effect⟩
      · cases found.symm.trans lost
      · obtain rfl := Except.ok.inj (found.symm.trans foundToo)
        rw [← exact] at effect
        obtain ⟨allowed, max, stillUnbatched⟩ :=
          effect.forest (fun node => node.parent = hParent) sound
            kept hashOk notBatched fun _ => Iff.rfl
        refine ⟨after, result.map .handle, ?_, .allocSub find allowed,
          max, stillUnbatched⟩
        simp only [HandleBase.step, returned]
    · rcases effect with ⟨other, lost, rfl, same⟩ | ⟨other, foundToo, _⟩
      · obtain rfl := Except.error.inj (missing.symm.trans lost)
        refine ⟨after, .error error, ?_, ?_, same.max,
          (handlesBatched_congr same.batchSize).trans notBatched⟩
        · simp only [HandleBase.step, returned]
          rfl
        · rw [same.forest]
          exact .allocSubError find
      · cases missing.symm.trans foundToo
  | lookup hHandle eType =>
    have isSmall := small hHandle List.mem_cons_self
    refine ⟨base, _, rfl, ?_, rfl, notBatched⟩
    unfold HandleBase.pvrsrvLookupHandle
    rcases sound.find isSmall eType with
      ⟨index, found, _, _, find⟩ | ⟨error, missing, find⟩
    · rw [found]
      exact .lookup find
    · rw [missing]
      exact .lookup find
  | lookupSub hHandle eType hAncestor =>
    have isSmall := small hHandle List.mem_cons_self
    have search := sound.find isSmall eType
    obtain ⟨chain, batch, kids, rank, valid, _⟩ := sound
    have ranked : base.Ranked rank := valid.family.ranked_of_parent
    obtain ⟨result, returned, answer⟩ := valid.family.pvrsrvLookupSubHandle
      valid.sized hHandle eType hAncestor
    refine ⟨base, result.map .data, ?_, ?_, rfl, notBatched⟩
    · simp only [HandleBase.step, returned, Option.map_some]
    · rcases answer with ⟨error, lost, rfl⟩ |
        ⟨index, found, ⟨ancestor, rfl⟩ | ⟨apart, rfl⟩⟩
      · rcases search with ⟨_, found, _⟩ | ⟨other, missing, find⟩
        · cases lost.symm.trans found
        · obtain rfl := Except.error.inj (lost.symm.trans missing)
          exact .lookupSubError find
      · rcases search with ⟨other, foundToo, alive, rfl, find⟩ |
          ⟨_, missing, _⟩
        · obtain rfl := Except.ok.inj (found.symm.trans foundToo)
          exact .lookupSub find ((descends_iff ranked alive).mpr ancestor)
        · cases found.symm.trans missing
      · rcases search with ⟨other, foundToo, alive, rfl, find⟩ |
          ⟨_, missing, _⟩
        · obtain rfl := Except.ok.inj (found.symm.trans foundToo)
          exact .lookupSubInvalid find fun descends =>
            apart ((descends_iff ranked alive).mp descends)
        · cases found.symm.trans missing
  | find pvData eType =>
    refine ⟨base, _, rfl, ?_, rfl, notBatched⟩
    unfold HandleBase.pvrsrvFindHandle
    cases entry : base.hashTab
        { data := pvData, type := eType, parent := 0 } with
    | none => exact .findError (hashOk.unkeyed entry)
    | some hHandle => exact .find (hashOk.keyed_iff.mpr entry)
  | getParent hHandle eType =>
    have isSmall := small hHandle List.mem_cons_self
    refine ⟨base, _, rfl, ?_, rfl, notBatched⟩
    unfold HandleBase.pvrsrvGetParentHandle
    rcases sound.find isSmall eType with
      ⟨index, found, _, _, find⟩ | ⟨error, missing, find⟩
    · rw [found]
      exact .getParent find
    · rw [missing]
      exact .getParent find
  | lookupAndRelease hHandle eType =>
    have isSmall := small hHandle List.mem_cons_self
    rcases sound.find isSmall eType with
      ⟨index, found, alive, rfl, find⟩ | ⟨error, missing, find⟩
    · obtain ⟨after, rank, removed, result, _, ranked, freed⟩ :=
        sound.freeHandle alive
      refine ⟨after, .ok (.data (base.handles index).pvData), ?_, ?_,
        freed.max, (handlesBatched_congr freed.batchSize).trans notBatched⟩
      · simp only [HandleBase.step,
          HandleBase.pvrsrvLookupAndReleaseHandle, found, result]
        rfl
      · rw [freed.forest ranked]
        exact .lookupAndRelease find
    · refine ⟨base, .error error, ?_, .lookupAndReleaseError find, rfl,
        notBatched⟩
      simp only [HandleBase.step,
        HandleBase.pvrsrvLookupAndReleaseHandle, missing]
      rfl
  | release hHandle eType =>
    have isSmall := small hHandle List.mem_cons_self
    rcases sound.find isSmall eType with
      ⟨index, found, alive, rfl, find⟩ | ⟨error, missing, find⟩
    · obtain ⟨after, rank, removed, result, _, ranked, freed⟩ :=
        sound.freeHandle alive
      refine ⟨after, .ok .nothing, ?_, ?_, freed.max,
        (handlesBatched_congr freed.batchSize).trans notBatched⟩
      · simp only [HandleBase.step, HandleBase.pvrsrvReleaseHandle, found,
          result]
        rfl
      · rw [freed.forest ranked]
        exact .release find
    · refine ⟨base, .error error, ?_, .releaseError find, rfl, notBatched⟩
      simp only [HandleBase.step, HandleBase.pvrsrvReleaseHandle, missing]
      rfl
  | newBatch | commitBatch | releaseBatch => exact unbatched.elim

/-! ## Runs -/

theorem HandleOp.Unbatched.growthSafe
    (unbatched : op.Unbatched)
    (base : HandleBase) :
    op.GrowthSafe base := by
  cases op with
  | newBatch => exact unbatched.elim
  | _ => trivial

/-- The results of a run are results of the forest. -/
theorem HandleBase.Sound.forestRun
    (sound : base.Sound)
    (hashOk : base.HashOk)
    (notBatched : base.handlesBatched = false)
    {ops : List HandleOp}
    (unbatched : ∀ op ∈ ops, op.Unbatched)
    (small : ∀ op ∈ ops, op.Small) :
    ∃ results, base.results ops = some results ∧
      Forest.Run base.ui32MaxIndexPlusOne base.forest ops results := by
  induction ops generalizing base with
  | nil => exact ⟨[], rfl, .nil _⟩
  | cons op ops ih =>
    have opUnbatched := unbatched op List.mem_cons_self
    have opSmall := small op List.mem_cons_self
    obtain ⟨after, result, step⟩ :=
      sound.forestStep hashOk notBatched opUnbatched opSmall
    obtain ⟨other, otherResult, keys⟩ :=
      sound.keysStep hashOk (opUnbatched.growthSafe base)
        fun hHandle member _ => opSmall hHandle member
    obtain ⟨rfl, rfl⟩ := Prod.mk.inj
      (Option.some.inj (step.returned.symm.trans keys.returned))
    obtain ⟨results, returned, allowed⟩ :=
      ih keys.sound keys.hashOk step.unbatched
        (fun other member => unbatched other (List.mem_cons_of_mem _ member))
        (fun other member => small other (List.mem_cons_of_mem _ member))
    rw [step.max] at allowed
    refine ⟨result :: results, ?_, .cons step.allowed allowed⟩
    simp only [HandleBase.results, step.returned, returned]
    rfl

/-- Without batches and with 32-bit handle values, a new base behaves like the
empty forest. -/
theorem create_refines_forest
    (memory : Nat → Handle)
    (ui32MaxHandle : Nat)
    (ops : List HandleOp)
    (unbatched : ∀ op ∈ ops, op.Unbatched)
    (small : ∀ op ∈ ops, op.Small) :
    ∃ results, (create memory ui32MaxHandle).results ops = some results ∧
      Forest.Run (create memory ui32MaxHandle).ui32MaxIndexPlusOne
        (fun _ => none) ops results := by
  obtain ⟨sound, _, notBatched, notLive⟩ := sound_create memory ui32MaxHandle
  have empty : (create memory ui32MaxHandle).forest = fun _ => none := by
    ext1 handle
    cases handle with
    | zero => rfl
    | succ index => exact if_neg (notLive index)
  rw [← empty]
  exact sound.forestRun (hashOk_create memory ui32MaxHandle) notBatched
    unbatched small

/-- A shared root, found again, and released. -/
theorem create_refines_forest_shared :
    ∃ results, (create (fun _ => clearedHandle) defaultMaxHandle).results
        [.alloc 5 ⟨1, by decide⟩ ⟨true, false, false⟩ ⟨true, true⟩,
          .alloc 5 ⟨1, by decide⟩ ⟨true, false, false⟩ ⟨true, true⟩,
          .release 1 1] = some results ∧
      Forest.Run
        (create (fun _ => clearedHandle) defaultMaxHandle).ui32MaxIndexPlusOne
        (fun _ => none)
        [.alloc 5 ⟨1, by decide⟩ ⟨true, false, false⟩ ⟨true, true⟩,
          .alloc 5 ⟨1, by decide⟩ ⟨true, false, false⟩ ⟨true, true⟩,
          .release 1 1] results := by
  apply create_refines_forest
  · intro op member
    simp only [List.mem_cons, List.not_mem_nil, or_false] at member
    rcases member with rfl | rfl | rfl <;> trivial
  · intro op member hHandle named
    simp only [List.mem_cons, List.not_mem_nil, or_false] at member
    rcases member with rfl | rfl | rfl <;> simp_all [HandleOp.handles]

end PvrServices.Handles
