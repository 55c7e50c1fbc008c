import PvrServices.Handles.Keys
import PvrServices.Handles.PurgingRuns

/-!
# Runs of any handle base

A handle base has purging enabled, as the one of the kernel, or not.  Its array
and its free structures are kept in different ways, but one call does the same
to the handles.  What runs keep of the handles and of the hash table, and what
`FreeHandle` frees, is therefore said of any base.
-/

namespace PvrServices.Handles

open HandleBase

/-! ## Calls on any base -/

/-- The values a call looks up. -/
def PurgingOp.handles : PurgingOp → List Nat
  | .call op => op.handles
  | .purge _ => []

/-- A value whose lower 32 bits name a live handle has no other bits. -/
def PurgingOp.Exact (base : HandleBase) (op : PurgingOp) : Prop :=
  ∀ hHandle ∈ op.handles, base.Live (handleToIndex hHandle) →
    hHandle < 2 ^ 32

/-- The handle an allocation returns. -/
def PurgingOp.issues : PurgingOp → HandleResult → List Nat
  | .call op, result => op.issues result
  | .purge _, _ => []

/-- Under the condition, a call keeps the hash table right, and returns the
handles it makes. -/
theorem PurgingOp.Effect.hashOk
    {base after : HandleBase}
    {op : PurgingOp}
    {result : HandleResult}
    (effect : op.Effect base after result)
    (bounded : base.Bounded)
    (exact : op.Exact base)
    (hashOk : base.HashOk) :
    after.HashOk ∧ ∀ index, after.Live index →
      base.Live index ∨ indexToHandle index ∈ op.issues result := by
  cases op with
  | call op => exact CallEffect.hashOk effect bounded exact hashOk
  | purge osAllocMem =>
    have keeps : KeepsHandles base after := effect
    exact ⟨hashOk.same keeps.toKeepsEntries,
      fun index alive => Or.inl ((keeps.live index).mp alive)⟩

namespace AnyBase

/-- A base that meets its invariant. -/
def Sound : AnyBase → Prop
  | plain base => base.Sound
  | purging base => base.Sound

/-- A call that keeps the invariant.  With purging it does not search behind
the array, and does not end a batch with a handle that has been released;
without, it does not make the array grow while structure 0 is the first free
one. -/
def Safe : AnyBase → PurgingOp → Prop
  | plain base, .call op => op.GrowthSafe base
  | plain _, .purge _ => True
  | purging base, op => op.Safe base.base

/-- Each call of the run is safe in the state it meets. -/
def SafeRun : AnyBase → List PurgingOp → Prop
  | _, [] => True
  | any, op :: ops =>
    any.Safe op ∧
      ∀ after result, any.step op = some (after, result) →
        after.SafeRun ops

variable {any : AnyBase}

/-- A safe call returns, keeps the base sound and has its effect. -/
theorem Sound.step
    (sound : any.Sound)
    {op : PurgingOp}
    (safe : any.Safe op) :
    ∃ after result, any.step op = some (after, result) ∧ after.Sound ∧
      op.Effect any.base after.base result := by
  cases any with
  | plain base =>
    cases op with
    | call op =>
      obtain ⟨after, result, stepped, kept, effect⟩ :=
        HandleBase.Sound.step sound safe
      refine ⟨plain after, result, ?_, kept, effect⟩
      rw [AnyBase.step, stepped]
      rfl
    | purge osAllocMem =>
      exact ⟨plain base, _, rfl, sound, KeepsHandles.refl base⟩
  | purging base =>
    obtain ⟨after, result, stepped, kept, _, effect⟩ :=
      PurgingBase.Sound.step sound safe
    refine ⟨purging after, result, ?_, kept, effect⟩
    rw [AnyBase.step, stepped]
    rfl

theorem Sound.bounded
    (sound : any.Sound) :
    any.base.Bounded := by
  cases any with
  | plain base => exact HandleBase.Sound.bounded sound
  | purging base =>
    obtain ⟨batch, kids, rank, valid, _⟩ := sound
    exact fun index alive => valid.family.bounded index (Or.inl alive)

theorem create_base
    (bPurgingEnabled : Bool)
    (memory : Nat → Handle)
    (ui32MaxHandle : Nat) :
    (create bPurgingEnabled memory ui32MaxHandle).base =
      HandleBase.create memory ui32MaxHandle := by
  cases bPurgingEnabled <;> rfl

/-- A safe run returns, and leaves the base sound. -/
theorem Sound.run
    (sound : any.Sound)
    {ops : List PurgingOp}
    (safe : any.SafeRun ops) :
    ∃ after, any.run ops = some after ∧ after.Sound := by
  induction ops generalizing any with
  | nil => exact ⟨any, rfl, sound⟩
  | cons op ops ih =>
    obtain ⟨middle, result, stepped, kept, _⟩ := sound.step safe.1
    obtain ⟨after, ran, stillSound⟩ := ih kept (safe.2 middle result stepped)
    refine ⟨after, ?_, stillSound⟩
    simp only [AnyBase.run, stepped]
    exact ran

/-- Outside a batch, the bases that the calls lead to are forests. -/
theorem Sound.forested
    (sound : any.Sound)
    (closed : any.base.handlesBatched = false) :
    ∃ kids rank, any.base.Forested kids rank ∧ any.base.Unbatched := by
  cases any with
  | plain base => exact HandleBase.Sound.forested sound closed
  | purging base =>
    obtain ⟨batch, kids, rank, valid, _, emptied⟩ := sound
    have empty : batch = [] := emptied closed
    refine ⟨kids, rank, valid.family.congr (fun _ => Iff.rfl) fun index => ?_,
      closed, fun index alive => ?_⟩
    · simp only [AnyBase.base, Used, empty, List.not_mem_nil, or_false]
    · exact valid.flagged.others index alive.1 (empty ▸ List.not_mem_nil)

/-- A new base is sound. -/
theorem sound_create
    (bPurgingEnabled : Bool)
    (memory : Nat → Handle)
    (ui32MaxHandle : Nat) :
    (create bPurgingEnabled memory ui32MaxHandle).Sound := by
  cases bPurgingEnabled with
  | true => exact PurgingBase.sound_create memory ui32MaxHandle
  | false => exact (Handles.sound_create memory ui32MaxHandle).1

/-! ## The hash table -/

/-- Each call of the run is safe in the state it meets, and its values are
exact there. -/
def ExactRun : AnyBase → List PurgingOp → Prop
  | _, [] => True
  | any, op :: ops =>
    any.Safe op ∧ op.Exact any.base ∧
      ∀ after result, any.step op = some (after, result) →
        after.ExactRun ops

/-- In every state of the run the hash table is right, and a value finds a
handle only if it is the one an allocation has issued for it. -/
def KeysRight : List Nat → AnyBase → List PurgingOp → Prop
  | _, any, [] => any.base.HashOk
  | issued, any, op :: ops =>
    any.base.HashOk ∧
      (∀ hHandle ∈ op.handles, ∀ eType index,
        any.base.getHandleStructure hHandle eType = .ok index →
          hHandle = indexToHandle index ∧ hHandle ∈ issued) ∧
      ∃ after result, any.step op = some (after, result) ∧
        KeysRight (op.issues result ++ issued) after ops

theorem Sound.keysRight
    (sound : any.Sound)
    (hashOk : any.base.HashOk)
    {issued : List Nat}
    (known : ∀ index, any.base.Live index → indexToHandle index ∈ issued)
    {ops : List PurgingOp}
    (exact : any.ExactRun ops) :
    KeysRight issued any ops := by
  induction ops generalizing any issued with
  | nil => exact hashOk
  | cons op ops ih =>
    obtain ⟨safe, isExact, others⟩ := exact
    obtain ⟨after, result, returned, kept, effect⟩ := sound.step safe
    obtain ⟨stillOk, made⟩ := effect.hashOk sound.bounded isExact hashOk
    refine ⟨hashOk, ?_, after, result, returned, ?_⟩
    · intro hHandle member eType index found
      obtain ⟨named, alive, _⟩ := getHandleStructure_ok.mp found
      have same := handleToIndex_eq
        (isExact hHandle member (named ▸ alive)) named.symm
        (sound.bounded index alive)
      refine ⟨same, ?_⟩
      rw [same]
      exact known index alive
    · apply ih kept stillOk
      · intro index alive
        rcases made index alive with before | new
        · exact List.mem_append_right _ (known index before)
        · exact List.mem_append_left _ new
      · exact others after result returned

end AnyBase

/-- In a run whose values are exact, the hash table has just the entries of the
live handles, and lookups only accept issued handles. -/
theorem run_keysRight
    (bPurgingEnabled : Bool)
    (memory : Nat → Handle)
    (ui32MaxHandle : Nat)
    (ops : List PurgingOp)
    (exact : (AnyBase.create bPurgingEnabled memory ui32MaxHandle).ExactRun
      ops) :
    AnyBase.KeysRight []
      (AnyBase.create bPurgingEnabled memory ui32MaxHandle) ops := by
  refine (AnyBase.sound_create bPurgingEnabled memory
    ui32MaxHandle).keysRight ?_ ?_ exact
  · rw [AnyBase.create_base]
    exact hashOk_create memory ui32MaxHandle
  · rw [AnyBase.create_base]
    obtain ⟨_, _, _, notLive⟩ := sound_create memory ui32MaxHandle
    exact fun index alive => absurd alive (notLive index)

/-- A root handle of the kernel's base, and a lookup of the value returned for
it. -/
theorem run_keysRight_lookup :
    AnyBase.KeysRight []
      (AnyBase.create true (fun _ => clearedHandle) defaultMaxHandle)
      [.call (.alloc 5 ⟨1, by decide⟩ ⟨false, false, false⟩ ⟨true, true⟩),
        .call (.lookup 1 1)] := by
  apply run_keysRight
  refine ⟨⟨fun _ _ => Or.inr ⟨rfl, rfl⟩, fun none => absurd none id⟩, ?_,
    fun after result _ => ⟨?_, ?_, fun _ _ _ => trivial⟩⟩
  · intro hHandle member
    cases member
  · cases after with
    | plain base => trivial
    | purging base =>
      exact ⟨fun none => absurd none id, fun none => absurd none id⟩
  · intro hHandle member _
    rw [List.mem_singleton.mp member]
    omega

/-- Type 1 handle 1, and below it a private handle of type 2 whose parent is
named with a bit above the lower 32. -/
def aliasedOps : List PurgingOp :=
  [.call (.alloc 5 ⟨1, by decide⟩ ⟨false, false, false⟩ ⟨true, true⟩),
    .call (.allocSub 6 ⟨2, by decide⟩ ⟨false, false, true⟩ (2 ^ 32 + 1)
      ⟨true, true⟩),
    .call (.release 2 2)]

/-- The entry of the private handle is still there after its release. -/
theorem run_keys_stale :
    ∃ any, (AnyBase.create false (fun _ => clearedHandle)
        defaultMaxHandle).run aliasedOps = some any ∧
      ¬ any.base.HashOk := by
  have evaluated :
      ((AnyBase.create false (fun _ => clearedHandle)
        defaultMaxHandle).run aliasedOps).map (fun any => decide
          (any.base.hashTab ⟨6, 2, 2 ^ 32 + 1⟩ = some 2 ∧
            (any.base.handles 1).eType = handleTypeNone)) = some true := by
    decide +kernel
  obtain ⟨any, ran, stale⟩ := Option.map_eq_some_iff.mp evaluated
  obtain ⟨entry, free⟩ := of_decide_eq_true stale
  refine ⟨any, ran, fun hashOk => ?_⟩
  obtain ⟨index, same, alive, _⟩ := (hashOk _ _).mp entry
  obtain rfl : index = 1 := by
    simpa [indexToHandle] using same.symm
  exact alive.2 free

/-! ## The release of a handle -/

/-- In a forest, `FreeHandle` returns, frees the handle with its descendants,
unlinks it, and leaves the other handles and rings as they are. -/
theorem freeHandle_freesSubtree
    (any : AnyBase)
    (kids : Nat → List Nat)
    (rank : Nat → Nat)
    (index : Nat)
    (forested : any.base.Forested kids rank)
    (unbatched : any.base.Unbatched)
    (alive : any.base.Live index) :
    ∃ after, any.freeHandle index = some after ∧
      FreesSubtree any.base after.base kids rank index := by
  cases any with
  | plain base =>
    obtain ⟨after, released, frees⟩ :=
      HandleBase.countsThrough.freesSubtree forested unbatched alive
    refine ⟨.plain after, ?_, frees⟩
    rw [AnyBase.freeHandle, HandleBase.freeHandle,
      (HandleBase.freeHandleWithin_eq_release _).1]
    exact congrArg (Option.map AnyBase.plain) released
  | purging base =>
    obtain ⟨after, released, frees⟩ :=
      PurgingBase.countsThrough.freesSubtree forested unbatched alive
    exact ⟨.purging after, congrArg (Option.map AnyBase.purging) released,
      frees⟩

/-- A handle with a child. -/
def familyOps : List PurgingOp :=
  [.call (.alloc 7 ⟨1, by decide⟩ ⟨false, false, false⟩ ⟨true, true⟩),
    .call (.allocSub 8 ⟨2, by decide⟩ ⟨false, false, false⟩ 1 ⟨true, true⟩)]

/-- A family on a base with purging, freed from the top. -/
theorem freeHandle_freesSubtree_family :
    ∃ any kids rank after,
      (AnyBase.create true (fun _ => clearedHandle) defaultMaxHandle).run
          familyOps = some any ∧
        any.freeHandle 0 = some after ∧
        FreesSubtree any.base after.base kids rank 0 := by
  have safe : (AnyBase.create true (fun _ => clearedHandle)
      defaultMaxHandle).SafeRun familyOps := by
    refine ⟨⟨fun _ _ => Or.inr ⟨rfl, rfl⟩, fun none => absurd none id⟩,
      fun after result stepped => ⟨?_, fun _ _ _ => trivial⟩⟩
    have evaluated : ((AnyBase.create true (fun _ => clearedHandle)
        defaultMaxHandle).step (.call (.alloc 7 ⟨1, by decide⟩
          ⟨false, false, false⟩ ⟨true, true⟩))).all (fun stepped =>
            decide (stepped.1.base.ui32FirstFreeIndex <
              stepped.1.base.ui32TotalHandCount)) = true := by
      decide +kernel
    rw [stepped] at evaluated
    cases after with
    | plain base => trivial
    | purging base =>
      exact ⟨fun _ _ => Or.inl (of_decide_eq_true evaluated),
        fun none => absurd none id⟩
  obtain ⟨any, ran, sound⟩ := (AnyBase.sound_create true
    (fun _ => clearedHandle) defaultMaxHandle).run safe
  have evaluated : ((AnyBase.create true (fun _ => clearedHandle)
      defaultMaxHandle).run familyOps).all (fun any => decide
        (any.base.handlesBatched = false ∧ any.base.Live 0)) = true := by
    decide +kernel
  rw [ran] at evaluated
  obtain ⟨closed, alive⟩ := of_decide_eq_true evaluated
  obtain ⟨kids, rank, forested, unbatched⟩ := sound.forested closed
  obtain ⟨after, freed, frees⟩ :=
    freeHandle_freesSubtree any kids rank 0 forested unbatched alive
  exact ⟨any, kids, rank, after, ran, freed, frees⟩

end PvrServices.Handles
