import PvrServices.Handles.Batches

/-!
# Looking handles up

A handle is found if its structure is live and has the type that is asked for.
The search for an ancestor follows the parents and ends, since their ranks
decrease.
-/

namespace PvrServices.Handles

open Links

namespace HandleBase

/-- The type matches, or any type will do. -/
def Matches (base : HandleBase) (index eType : Nat) : Prop :=
  eType = handleTypeNone ∨ eType = (base.handles index).eType

instance (base : HandleBase) (index eType : Nat) :
    Decidable (base.Matches index eType) :=
  inferInstanceAs (Decidable (_ ∨ _))

variable {base : HandleBase}

/-- `GetHandleStructure` finds the live handles of the type. -/
theorem getHandleStructure_ok
    {hHandle eType index : Nat} :
    base.getHandleStructure hHandle eType = .ok index ↔
      index = handleToIndex hHandle ∧ base.Live index ∧
        base.Matches index eType := by
  unfold getHandleStructure Live Matches
  simp only
  generalize handleToIndex hHandle = place
  split_ifs with inside free mismatch
  · simp only [false_iff]
    rintro ⟨rfl, alive, _⟩
    exact alive.2 free
  · simp only [false_iff]
    rintro ⟨rfl, _, matching⟩
    exact matching.elim mismatch.1 mismatch.2
  · rw [not_and_or, not_not, not_not] at mismatch
    constructor
    · intro found
      obtain rfl := Except.ok.inj found
      exact ⟨rfl, ⟨inside, free⟩, mismatch⟩
    · rintro ⟨rfl, _, _⟩
      rfl
  · simp only [false_iff]
    rintro ⟨rfl, alive, _⟩
    exact inside alive.1

/-- The errors of `GetHandleStructure`. -/
theorem getHandleStructure_error
    {hHandle eType : Nat}
    {error : HandleError}
    (result : base.getHandleStructure hHandle eType = .error error) :
    (¬ base.Live (handleToIndex hHandle) ∧
        (error = .handleIndexOutOfRange ∨ error = .handleNotAllocated)) ∨
      (base.Live (handleToIndex hHandle) ∧
        ¬ base.Matches (handleToIndex hHandle) eType ∧
        error = .handleTypeMismatch) := by
  unfold getHandleStructure at result
  simp only at result
  unfold Live Matches
  generalize handleToIndex hHandle = place at result ⊢
  split_ifs at result with inside free mismatch
  · cases result
    exact Or.inl ⟨fun alive => alive.2 free, Or.inr rfl⟩
  · cases result
    refine Or.inr ⟨⟨inside, free⟩, ?_, rfl⟩
    rw [not_or]
    exact mismatch
  · cases result
    exact Or.inl ⟨fun alive => inside alive.1, Or.inl rfl⟩

/-- The handles the search for an ancestor meets: the parent of the handle, and
those of its live ancestors. -/
inductive Ancestor (base : HandleBase) : Nat → Nat → Prop where
  | parent (index : Nat) : Ancestor base index (base.parentHandle index)
  | above
      {index parent hAncestor : Nat}
      (field : base.parentHandle index = indexToHandle parent)
      (ancestor : Ancestor base parent hAncestor) :
      Ancestor base index hAncestor

/-- The live handles of a smaller rank. -/
def above (base : HandleBase) (rank : Nat → Nat) (bound : Nat) :
    Finset Nat :=
  (Finset.range base.ui32TotalHandCount).filter fun index =>
    base.Live index ∧ rank index < bound

theorem mem_above
    {rank : Nat → Nat}
    {bound index : Nat} :
    index ∈ base.above rank bound ↔ base.Live index ∧ rank index < bound := by
  simp only [above, Finset.mem_filter, Finset.mem_range]
  exact and_iff_right_of_imp fun both => both.1.1

end HandleBase

open HandleBase

variable {base : HandleBase} {used : Nat → Prop} {kids : Nat → List Nat}
  {rank : Nat → Nat} {index : Nat}

/-- The parent of a live handle is none or a live handle of a smaller rank. -/
theorem Family.parent_cases
    (family : Family base.slot base.Live used kids rank)
    (alive : base.Live index) :
    base.parentHandle index = 0 ∨
      ∃ parent, base.parentHandle index = indexToHandle parent ∧
        base.Live parent ∧ rank parent < rank index ∧
        handleToIndex (base.parentHandle index) = parent := by
  cases field : base.parentHandle index with
  | zero => exact Or.inl rfl
  | succ parent =>
    right
    have member := (family.kids_iff parent index).mpr ⟨alive, field⟩
    have parentLive := family.parentLive parent index member
    exact ⟨parent, rfl, parentLive,
      family.ranked parent index member,
      handleToIndex_indexToHandle
        (family.bounded parent (family.liveUsed parent parentLive))⟩

/-- Handle 0 is never found. -/
theorem Sized.getHandleStructure_zero
    (sized : Sized base)
    (eType : Nat) :
    base.getHandleStructure 0 eType = .error .handleIndexOutOfRange := by
  have le := sized.total_le
  have max_le := sized.max_le
  simp only [defaultMaxHandle] at max_le
  have outside : ¬ handleToIndex 0 < base.ui32TotalHandCount := by
    unfold handleToIndex oneLess
    rw [Nat.zero_mod, if_pos rfl]
    omega
  unfold HandleBase.getHandleStructure
  simp only
  rw [if_pos outside]

variable (family : Family base.slot base.Live used kids rank)
  (sized : Sized base)
include family sized

/-- The search for an ancestor ends, and finds just the ancestors. -/
theorem Family.findAncestor
    {fuel : Nat}
    (hAncestor : Nat)
    (alive : base.Live index)
    (enough : (base.above rank (rank index)).card < fuel) :
    ∃ found, HandleBase.findAncestor fuel base index hAncestor =
        some found ∧
      (found = true ↔ base.Ancestor index hAncestor) := by
  induction fuel generalizing index with
  | zero => omega
  | succ fuel ih =>
    rw [HandleBase.findAncestor]
    by_cases isParent : base.parentHandle index = hAncestor
    · rw [if_pos isParent]
      refine ⟨true, rfl, iff_of_true rfl ?_⟩
      rw [← isParent]
      exact HandleBase.Ancestor.parent index
    · rw [if_neg isParent]
      rcases family.parent_cases alive with
        root | ⟨parent, field, parentLive, lower, same⟩
      · rw [root, sized.getHandleStructure_zero]
        refine ⟨false, rfl, iff_of_false (by simp) ?_⟩
        intro ancestor
        cases ancestor with
        | parent => exact isParent rfl
        | above field _ =>
          rw [root] at field
          exact absurd field (by simp [indexToHandle])
      · have found : base.getHandleStructure (base.parentHandle index)
            handleTypeNone = .ok parent :=
          getHandleStructure_ok.mpr ⟨same.symm, parentLive, Or.inl rfl⟩
        have fewer : (base.above rank (rank parent)).card <
            (base.above rank (rank index)).card := by
          apply Finset.card_lt_card
          refine Finset.ssubset_iff_subset_ne.mpr ⟨?_, ?_⟩
          · intro other inAbove
            rw [mem_above] at inAbove ⊢
            exact ⟨inAbove.1, by omega⟩
          · intro equal
            have inAbove : parent ∈ base.above rank (rank index) :=
              mem_above.mpr ⟨parentLive, lower⟩
            rw [← equal, mem_above] at inAbove
            omega
        obtain ⟨answer, result, correct⟩ := ih parentLive (by omega)
        rw [found]
        refine ⟨answer, result, correct.trans ⟨?_, ?_⟩⟩
        · exact HandleBase.Ancestor.above field
        · intro ancestor
          cases ancestor with
          | parent => exact absurd rfl isParent
          | above otherField rest =>
            rw [field] at otherField
            simp only [indexToHandle, Nat.add_right_cancel_iff]
              at otherField
            exact otherField ▸ rest

/-- `PVRSRVLookupSubHandle` returns. -/
theorem Family.pvrsrvLookupSubHandle
    (hHandle eType hAncestor : Nat) :
    ∃ result, base.pvrsrvLookupSubHandle hHandle eType hAncestor =
        some result ∧
      ((∃ error, base.getHandleStructure hHandle eType = .error error ∧
        result = .error error) ∨
      ∃ index, base.getHandleStructure hHandle eType = .ok index ∧
        ((base.Ancestor index hAncestor ∧
          result = .ok (base.handles index).pvData) ∨
        (¬ base.Ancestor index hAncestor ∧
          result = .error .invalidSubhandle))) := by
  unfold HandleBase.pvrsrvLookupSubHandle
  cases found : base.getHandleStructure hHandle eType with
  | error error => exact ⟨_, rfl, Or.inl ⟨error, rfl, rfl⟩⟩
  | ok index =>
    have alive := (getHandleStructure_ok.mp found).2.1
    have bound : (base.above rank (rank index)).card <
        base.ui32TotalHandCount + 1 := by
      have le := Finset.card_filter_le (Finset.range base.ui32TotalHandCount)
        fun other => base.Live other ∧ rank other < rank index
      rw [Finset.card_range] at le
      exact Nat.lt_succ_of_le le
    obtain ⟨answer, result, correct⟩ :=
      family.findAncestor sized hAncestor alive bound
    simp only [result]
    cases answer with
    | true =>
      exact ⟨_, rfl, Or.inr ⟨index, rfl, Or.inl ⟨correct.mp rfl, rfl⟩⟩⟩
    | false =>
      refine ⟨_, rfl, Or.inr ⟨index, rfl, Or.inr ⟨fun ancestor => ?_, rfl⟩⟩⟩
      cases correct.mpr ancestor

end PvrServices.Handles
