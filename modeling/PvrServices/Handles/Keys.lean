import PvrServices.Handles.FreeList

/-!
# The hash table of a handle base

The hash table has one entry for each live handle that is not `MULTI`, under
the key `FreeHandle` rebuilds from the handle.  `PVRSRVAllocSubHandle` puts the
parent into the key as the caller gave it, while a lookup only reads its lower
32 bits.  The two keys agree as long as every value that finds a handle is the
one that its allocation returned.
-/

namespace PvrServices.Handles

open HandleBase

/-! ## The entries -/

/-- The hash table has the entries of the live handles, and no others. -/
def HandleBase.HashOk (base : HandleBase) : Prop :=
  ∀ key hHandle, base.hashTab key = some hHandle ↔
    ∃ index, hHandle = indexToHandle index ∧ base.Live index ∧
      (base.handles index).eFlag.multi = false ∧ base.keyOf index = key

theorem indexToHandle_injective : Function.Injective indexToHandle :=
  fun _ _ same => Nat.succ.inj same

namespace HandleBase.HashOk

variable {before after : HandleBase}

section

variable (hashOk : before.HashOk)
include hashOk

/-- Live handles with one key are the same. -/
theorem key_unique
    {first second : Nat}
    (firstLive : before.Live first)
    (secondLive : before.Live second)
    (firstSingle : (before.handles first).eFlag.multi = false)
    (secondSingle : (before.handles second).eFlag.multi = false)
    (same : before.keyOf first = before.keyOf second) :
    first = second := by
  have firstEntry := (hashOk _ _).mpr ⟨first, rfl, firstLive, firstSingle, rfl⟩
  have secondEntry := (hashOk _ _).mpr
    ⟨second, rfl, secondLive, secondSingle, rfl⟩
  rw [same, secondEntry] at firstEntry
  exact indexToHandle_injective (Option.some.inj firstEntry).symm

theorem same
    (keeps : KeepsEntries before after) :
    after.HashOk := by
  intro key hHandle
  rw [keeps.hash, hashOk]
  refine exists_congr fun index => and_congr_right fun _ => ?_
  rw [keeps.live]
  refine and_congr_right fun alive => ?_
  rw [(keeps.kept index alive).eFlag, (keeps.kept index alive).keyOf]

/-- A new handle gets the entry under its key. -/
theorem created
    {index pvData parent : Nat}
    {eType : HandleType}
    {eFlag : AllocFlag}
    {key : HandKey}
    (fresh : eFlag.multi = false → before.hashTab key = none)
    (created : Created before after index pvData eType eFlag parent key)
    (ownKey : after.keyOf index = key) :
    after.HashOk := by
  intro other hHandle
  have after_iff : (∃ position, hHandle = indexToHandle position ∧
        after.Live position ∧
        (after.handles position).eFlag.multi = false ∧
        after.keyOf position = other) ↔
      (∃ position, hHandle = indexToHandle position ∧
        before.Live position ∧
        (before.handles position).eFlag.multi = false ∧
        before.keyOf position = other) ∨
      (hHandle = indexToHandle index ∧ eFlag.multi = false ∧
        key = other) := by
    constructor
    · rintro ⟨position, same, alive, single, keySame⟩
      rcases (created.live position).mp alive with aliveBefore | rfl
      · have kept := created.kept position aliveBefore
        rw [kept.eFlag] at single
        rw [kept.keyOf] at keySame
        exact Or.inl ⟨position, same, aliveBefore, single, keySame⟩
      · rw [created.eFlag] at single
        exact Or.inr ⟨same, single, ownKey.symm.trans keySame⟩
    · rintro (⟨position, same, alive, single, keySame⟩ |
        ⟨same, single, keySame⟩)
      · have kept := created.kept position alive
        rw [← kept.eFlag] at single
        rw [← kept.keyOf] at keySame
        exact ⟨position, same, (created.live position).mpr (Or.inl alive),
          single, keySame⟩
      · refine ⟨index, same, (created.live index).mpr (Or.inr rfl), ?_,
          ownKey.trans keySame⟩
        rw [created.eFlag]
        exact single
  rw [after_iff, ← hashOk, created.hash, hashWith]
  cases multi : eFlag.multi with
  | true => simp
  | false =>
    simp only [Bool.false_eq_true, if_false, Function.update_apply, true_and]
    by_cases isKey : other = key
    · subst isKey
      rw [if_pos rfl, fresh multi]
      simp [eq_comm]
    · rw [if_neg isKey]
      simp [Ne.symm isKey]

/-- Freed handles lose their entries. -/
theorem freed
    {rank : Nat → Nat}
    {roots removed : List Nat}
    (freed : Freed before after rank roots removed) :
    after.HashOk := by
  intro key hHandle
  rw [freed.hash]
  by_cases isRemoved : ∃ index ∈ removed,
      (before.handles index).eFlag.multi = false ∧
        before.keyOf index = key
  · rw [if_pos isRemoved]
    refine iff_of_false (by simp) ?_
    rintro ⟨index, _, alive, single, keySame⟩
    obtain ⟨aliveBefore, notRemoved⟩ := (freed.live index).mp alive
    obtain ⟨gone, member, goneSingle, goneKey⟩ := isRemoved
    rw [freed.eFlag] at single
    rw [freed.keyOf alive] at keySame
    obtain rfl := hashOk.key_unique aliveBefore (freed.alive gone member)
      single goneSingle (keySame.trans goneKey.symm)
    exact notRemoved member
  · rw [if_neg isRemoved, hashOk]
    refine exists_congr fun index => and_congr_right fun _ => ?_
    constructor
    · rintro ⟨alive, single, keySame⟩
      have notRemoved : index ∉ removed := fun member =>
        isRemoved ⟨index, member, single, keySame⟩
      have aliveAfter := (freed.live index).mpr ⟨alive, notRemoved⟩
      refine ⟨aliveAfter, ?_, ?_⟩
      · rw [freed.eFlag]
        exact single
      · rw [freed.keyOf aliveAfter]
        exact keySame
    · rintro ⟨alive, single, keySame⟩
      rw [freed.eFlag] at single
      rw [freed.keyOf alive] at keySame
      exact ⟨((freed.live index).mp alive).1, single, keySame⟩

end

/-- A batch keeps the entries. -/
theorem keptByLoop : KeptByLoop HandleBase.HashOk where
  same := by
    intro before after sameHandles eType hashOk
    refine hashOk.same ⟨sameHandles.live eType, ?_, sameHandles.hash⟩
    intro index _
    exact
      { eType := eType index
        pvData := sameHandles.pvData index
        eFlag := sameHandles.eFlag index
        parent := sameHandles.parentHandle index }
  freed := fun _ _ _ _ _ freed hashOk => hashOk.freed freed

end HandleBase.HashOk

/-! ## Values that name a handle -/

/-- The values a call looks up. -/
def HandleOp.handles : HandleOp → List Nat
  | .allocSub _ _ _ hParent _ => [hParent]
  | .lookup hHandle _ => [hHandle]
  | .lookupSub hHandle _ _ => [hHandle]
  | .getParent hHandle _ => [hHandle]
  | .lookupAndRelease hHandle _ => [hHandle]
  | .release hHandle _ => [hHandle]
  | _ => []

/-- A value whose lower 32 bits name a live handle has no other bits. -/
def HandleOp.Exact (base : HandleBase) (op : HandleOp) : Prop :=
  ∀ hHandle ∈ op.handles, base.Live (handleToIndex hHandle) →
    hHandle < 2 ^ 32

variable {index pvData parent hHandle : Nat} {base after : HandleBase}
  {op : HandleOp} {eType : HandleType} {eFlag : AllocFlag} {key : HandKey}
  {shareable : Nat → Prop} {outcome : AllocOutcome}
  {result : Except HandleError Nat}

theorem handleToIndex_eq
    (small : hHandle < 2 ^ 32)
    (named : handleToIndex hHandle = index)
    (bounded : index + 1 < 2 ^ 32) :
    hHandle = indexToHandle index := by
  unfold handleToIndex oneLess at named
  rw [Nat.mod_eq_of_lt small] at named
  split_ifs at named with zero
  · omega
  · rw [indexToHandle]
    omega

/-- The indices of live handles are those of handles. -/
def HandleBase.Bounded (base : HandleBase) : Prop :=
  ∀ index, base.Live index → index + 1 < 2 ^ 32

theorem HandleBase.Sound.bounded
    (sound : base.Sound) :
    base.Bounded := by
  obtain ⟨chain, batch, kids, rank, valid, _⟩ := sound
  exact fun index alive => valid.family.bounded index (Or.inl alive)

/-- A value found under the condition is the handle of the structure. -/
theorem HandleBase.Bounded.found_exact
    (bounded : base.Bounded)
    (exact : op.Exact base)
    {eType : Nat}
    (member : hHandle ∈ op.handles)
    (found : base.getHandleStructure hHandle eType = .ok index) :
    hHandle = indexToHandle index := by
  obtain ⟨named, alive, _⟩ := getHandleStructure_ok.mp found
  exact handleToIndex_eq (exact hHandle member (named ▸ alive)) named.symm
    (bounded index alive)

/-! ## Runs -/

/-- The key of a new handle is the one its allocation entered. -/
theorem Created.keyOf
    {before : HandleBase}
    (created : Created before after index pvData eType eFlag parent key) :
    after.keyOf index =
      { data := pvData
        type := eType.value
        parent := if eFlag.priv then parent else 0 } := by
  simp only [HandleBase.keyOf, HandleBase.parentIfPrivate, created.eType,
    created.pvData, created.eFlag, created.parent]

theorem AllocResult.hashOk
    (allocResult : AllocResult base after pvData eType eFlag key parent
      shareable outcome result)
    (ownKey : key =
      { data := pvData
        type := eType.value
        parent := if eFlag.priv then parent else 0 })
    (hashOk : base.HashOk) :
    after.HashOk := by
  cases allocResult with
  | stale _ _ _ same | shared _ _ _ _ _ same | notShareable _ _ _ _ same
  | failed _ _ same => exact hashOk.same same.toKeepsEntries
  | created fresh created =>
    exact hashOk.created fresh created (created.keyOf.trans ownKey.symm)

/-- The handle an allocation returns. -/
def HandleOp.issues : HandleOp → HandleResult → List Nat
  | .alloc .., .ok (.handle hHandle) => [hHandle]
  | .allocSub .., .ok (.handle hHandle) => [hHandle]
  | _, _ => []

theorem AllocResult.live_cases
    (allocResult : AllocResult base after pvData eType eFlag key parent
      shareable outcome result)
    (index : Nat)
    (alive : after.Live index) :
    base.Live index ∨ result = .ok (indexToHandle index) := by
  cases allocResult with
  | stale _ _ _ same | shared _ _ _ _ _ same | notShareable _ _ _ _ same
  | failed _ _ same => exact Or.inl ((same.live index).mp alive)
  | created _ created =>
    rcases (created.live index).mp alive with before | rfl
    · exact Or.inl before
    · exact Or.inr rfl

variable {result : HandleResult}

/-- The end of a batch keeps the hash table right, and makes no handle. -/
theorem BatchEnds.hashOk
    (ends : BatchEnds base after)
    (hashOk : base.HashOk) :
    after.HashOk ∧ ∀ index, after.Live index → base.Live index := by
  obtain ⟨middle, walked, handles, total, hash⟩ := ends
  have live : ∀ index, after.Live index ↔ middle.Live index := by
    intro index
    simp only [HandleBase.Live, handles, total]
  have fewer : KeptByLoop fun other =>
      ∀ index, other.Live index → base.Live index :=
    ⟨fun _ _ same eType holds index alive =>
        holds index ((same.live eType index).mp alive),
      fun _ _ _ _ _ freed holds index alive =>
        holds index ((freed.live index).mp alive).1⟩
  refine ⟨(walked _ HashOk.keptByLoop hashOk).same ⟨live, ?_, hash⟩, ?_⟩
  · intro index _
    exact ⟨by rw [handles], by rw [handles], by rw [handles],
      by simp only [HandleBase.parentHandle, handles]⟩
  · intro index alive
    exact walked _ fewer (fun _ alive => alive) index ((live index).mp alive)

/-- Under the condition, a call keeps the hash table right, and returns the
handles it makes. -/
theorem CallEffect.hashOk
    (effect : CallEffect base after op result)
    (bounded : base.Bounded)
    (exact : op.Exact base)
    (hashOk : base.HashOk) :
    after.HashOk ∧ ∀ index, after.Live index →
      base.Live index ∨ indexToHandle index ∈ op.issues result := by
  cases effect with
  | alloc allocated =>
    refine ⟨allocated.hashOk (by simp) hashOk, fun index alive => ?_⟩
    refine (allocated.live_cases index alive).imp_right ?_
    rintro rfl
    exact List.mem_singleton_self _
  | noParent _ same =>
    exact ⟨hashOk.same same.toKeepsEntries,
      fun index alive => Or.inl ((same.live index).mp alive)⟩
  | allocSub found allocated =>
    have isExact := bounded.found_exact exact List.mem_cons_self found
    refine ⟨allocated.hashOk (by rw [subHandleKey, isExact]) hashOk,
      fun index alive => ?_⟩
    refine (allocated.live_cases index alive).imp_right ?_
    rintro rfl
    exact List.mem_singleton_self _
  | same _ keeps =>
    exact ⟨hashOk.same keeps.toKeepsEntries,
      fun index alive => Or.inl ((keeps.live index).mp alive)⟩
  | freed _ freed =>
    exact ⟨hashOk.freed freed,
      fun index alive => Or.inl ((freed.live index).mp alive).1⟩
  | ended _ ends =>
    obtain ⟨right, fewer⟩ := ends.hashOk hashOk
    exact ⟨right, fun index alive => Or.inl (fewer index alive)⟩

/-- A step with a right hash table. -/
structure KeysStep
    (base : HandleBase) (op : HandleOp)
    (after : HandleBase) (result : HandleResult) : Prop where
  returned : base.step op = some (after, result)
  sound : after.Sound
  hashOk : after.HashOk

/-- Under the condition, a call keeps the hash table right. -/
theorem HandleBase.Sound.keysStep
    (sound : base.Sound)
    (hashOk : base.HashOk)
    (safe : op.GrowthSafe base)
    (exact : op.Exact base) :
    ∃ after result, KeysStep base op after result := by
  obtain ⟨after, result, returned, kept, effect⟩ := sound.step safe
  exact ⟨after, result, returned, kept,
    (effect.hashOk sound.bounded exact hashOk).1⟩

/-- Each call of the sequence meets the conditions where it is made. -/
def ExactRun : HandleBase → List HandleOp → Prop
  | _, [] => True
  | base, op :: ops =>
    op.GrowthSafe base ∧ op.Exact base ∧
      ∀ after result, base.step op = some (after, result) →
        ExactRun after ops

/-- A new base has no handles and no entries. -/
theorem hashOk_create (memory : Nat → Handle) (ui32MaxHandle : Nat) :
    (create memory ui32MaxHandle).HashOk := by
  obtain ⟨_, hash, _, notLive⟩ := sound_create memory ui32MaxHandle
  intro key hHandle
  rw [hash]
  refine iff_of_false (by simp) ?_
  rintro ⟨index, _, alive, _⟩
  exact notLive index alive

end PvrServices.Handles
