import PvrServices.Handles.Lookup

/-!
# What the calls do

Each call keeps the invariant, unless it grows an array whose free chain
starts at structure 0.  Its effect on the handles is one of three: none, one
new handle, or the removal of a handle with its descendants.
-/

namespace PvrServices.Handles

open HandleBase
open List (nodup_nil not_mem_nil)

/-! ## Sound bases -/

/-- A base that meets the invariant, with no batch left over. -/
def HandleBase.Sound (base : HandleBase) : Prop :=
  ∃ chain batch kids rank,
    Valid base chain base.ui32FirstBatchIndexPlusOne batch kids rank ∧
      (base.handlesBatched = false → batch = [])

variable {base before after middle : HandleBase} {chain batch : List Nat}
  {start index pvData parent : Nat} {kids : Nat → List Nat} {rank : Nat → Nat}
  {used : Nat → Prop} {eType : HandleType} {eFlag : AllocFlag} {key : HandKey}

theorem Valid.withFailures
    (valid : Valid base chain start batch kids rank)
    (failures : Nat) :
    Valid { base with ui32BatchHandAllocFailures := failures } chain start
      batch kids rank :=
  valid.frame _ _ failures

theorem Valid.withBatchSize
    (valid : Valid base chain start batch kids rank)
    (ui32HandBatchSize : Nat) :
    Valid { base with ui32HandBatchSize } chain start batch kids rank :=
  valid.frame _ ui32HandBatchSize _

theorem HandleBase.beginBatchAlloc_eq (base : HandleBase) :
    ∃ failures, base.beginBatchAlloc =
      { base with ui32BatchHandAllocFailures := failures } := by
  unfold HandleBase.beginBatchAlloc
  split_ifs
  · exact ⟨_, rfl⟩
  · exact ⟨base.ui32BatchHandAllocFailures, rfl⟩

theorem HandleBase.endBatchAlloc_eq (base : HandleBase) :
    ∃ failures, base.endBatchAlloc =
      { base with ui32BatchHandAllocFailures := failures } := by
  unfold HandleBase.endBatchAlloc
  split_ifs
  · exact ⟨_, rfl⟩
  · exact ⟨base.ui32BatchHandAllocFailures, rfl⟩

/-! ## Effects -/

/-- A handle keeps its contents and its parent. -/
structure KeepsHandle (before after : HandleBase) (index : Nat) : Prop where
  eType : (after.handles index).eType = (before.handles index).eType
  pvData : (after.handles index).pvData = (before.handles index).pvData
  eFlag : (after.handles index).eFlag = (before.handles index).eFlag
  parent : after.parentHandle index = before.parentHandle index

/-- The handles are the same, with the same entries. -/
structure KeepsEntries (before after : HandleBase) : Prop where
  live : ∀ index, after.Live index ↔ before.Live index
  kept : ∀ index, before.Live index → KeepsHandle before after index
  hash : after.hashTab = before.hashTab

/-- Live handles keep their batch flags. -/
def KeepsFlags (before after : HandleBase) : Prop :=
  ∀ index, before.Live index →
    (after.handles index).batched = (before.handles index).batched

/-- The handles are the same, with the same entries and flags. -/
structure KeepsHandles (before after : HandleBase) : Prop
    extends KeepsEntries before after where
  flags : KeepsFlags before after

/-- The handles and the hash table are as before, and the limits. -/
structure SameForest (before after : HandleBase) : Prop
    extends KeepsHandles before after where
  max : after.ui32MaxIndexPlusOne = before.ui32MaxIndexPlusOne
  batchSize : after.ui32HandBatchSize = before.ui32HandBatchSize

/-- One structure has become a handle. -/
structure Created
    (before after : HandleBase)
    (index pvData : Nat) (eType : HandleType) (eFlag : AllocFlag)
    (parent : Nat) (key : HandKey) : Prop where
  hash : after.hashTab = before.hashWith eFlag.multi key (indexToHandle index)
  unused : ¬ before.Live index
  inside : index < after.ui32TotalHandCount
  live : ∀ other, after.Live other ↔ before.Live other ∨ other = index
  kept : ∀ other, before.Live other → KeepsHandle before after other
  flags : KeepsFlags before after
  eType : (after.handles index).eType = eType.value
  pvData : (after.handles index).pvData = pvData
  eFlag : (after.handles index).eFlag = eFlag
  own : (after.handles index).batched = before.handlesBatched
  parent : after.parentHandle index = parent
  max : after.ui32MaxIndexPlusOne = before.ui32MaxIndexPlusOne
  batchSize : after.ui32HandBatchSize = before.ui32HandBatchSize

theorem KeepsHandle.keyOf
    (keeps : KeepsHandle before after index) :
    after.keyOf index = before.keyOf index := by
  simp only [HandleBase.keyOf, HandleBase.parentIfPrivate, keeps.eType,
    keeps.pvData, keeps.eFlag, keeps.parent]

theorem KeepsHandles.of_handles
    (handles : after.handles = before.handles)
    (total : after.ui32TotalHandCount = before.ui32TotalHandCount)
    (hash : after.hashTab = before.hashTab) :
    KeepsHandles before after where
  live := fun index => by
    rw [HandleBase.Live, HandleBase.Live, handles, total]
  kept := fun index _ => by
    refine ⟨?_, ?_, ?_, ?_⟩
    all_goals simp only [HandleBase.parentHandle, handles]
  hash := hash
  flags := fun index _ => by rw [handles]

theorem KeepsHandles.refl (base : HandleBase) : KeepsHandles base base :=
  of_handles rfl rfl rfl

theorem SameForest.refl (base : HandleBase) : SameForest base base :=
  ⟨.refl base, rfl, rfl⟩

theorem KeepsHandle.trans
    (first : KeepsHandle before middle index)
    (second : KeepsHandle middle after index) :
    KeepsHandle before after index where
  eType := second.eType.trans first.eType
  pvData := second.pvData.trans first.pvData
  eFlag := second.eFlag.trans first.eFlag
  parent := second.parent.trans first.parent

theorem KeepsHandles.trans
    (first : KeepsHandles before middle)
    (second : KeepsHandles middle after) :
    KeepsHandles before after where
  live := fun index => (second.live index).trans (first.live index)
  kept := fun index alive =>
    (first.kept index alive).trans
      (second.kept index ((first.live index).mpr alive))
  hash := second.hash.trans first.hash
  flags := fun index alive =>
    (second.flags index ((first.live index).mpr alive)).trans
      (first.flags index alive)

theorem SameForest.trans
    (first : SameForest before middle)
    (second : SameForest middle after) :
    SameForest before after where
  toKeepsHandles := first.toKeepsHandles.trans second.toKeepsHandles
  max := second.max.trans first.max
  batchSize := second.batchSize.trans first.batchSize

/-- The failure count is no part of the handles. -/
theorem SameForest.withFailures (base : HandleBase) (failures : Nat) :
    SameForest base { base with ui32BatchHandAllocFailures := failures } :=
  ⟨.of_handles rfl rfl rfl, rfl, rfl⟩

namespace Created

variable {before middle after : HandleBase} {index pvData parent : Nat}
  {eType : HandleType} {eFlag : AllocFlag} {key : HandKey}

theorem after_same
    (same : SameForest before middle)
    (created : Created middle after index pvData eType eFlag parent key) :
    Created before after index pvData eType eFlag parent key where
  hash := by
    rw [created.hash]
    simp only [hashWith, same.hash]
  unused := fun alive => created.unused ((same.live index).mpr alive)
  inside := created.inside
  live := fun other =>
    (created.live other).trans (or_congr_left (same.live other))
  kept := fun other alive =>
    (same.kept other alive).trans
      (created.kept other ((same.live other).mpr alive))
  flags := fun other alive =>
    (created.flags other ((same.live other).mpr alive)).trans
      (same.flags other alive)
  eType := created.eType
  pvData := created.pvData
  eFlag := created.eFlag
  own := by
    rw [created.own]
    simp only [HandleBase.handlesBatched, same.batchSize]
  parent := created.parent
  max := created.max.trans same.max
  batchSize := created.batchSize.trans same.batchSize

theorem withFailures
    (created : Created before after index pvData eType eFlag parent key)
    (failures : Nat) :
    Created before { after with ui32BatchHandAllocFailures := failures }
      index pvData eType eFlag parent key where
  hash := created.hash
  unused := created.unused
  inside := created.inside
  live := created.live
  kept := fun other alive =>
    (created.kept other alive).trans ⟨rfl, rfl, rfl, rfl⟩
  flags := created.flags
  eType := created.eType
  pvData := created.pvData
  eFlag := created.eFlag
  own := created.own
  parent := created.parent
  max := created.max
  batchSize := created.batchSize

end Created

theorem Grown.keeps
    (grown : Grown before after)
    (alive : before.Live index) :
    KeepsHandle before after index where
  eType := grown.eType index ((grown.live index).mpr alive)
  pvData := grown.pvData index
  eFlag := grown.eFlag index
  parent := congrArg HandleList.hParent (congrFun grown.slot (.siblings index))

theorem Grown.sameForest
    (grown : Grown before after) :
    SameForest before after :=
  ⟨⟨⟨grown.live, fun _ alive => grown.keeps alive, grown.hash⟩,
    fun index alive => grown.batched index ((grown.live index).mpr alive)⟩,
    grown.max, grown.batchSize⟩

/-- A new root handle. -/
theorem Allocates.created
    {base grown after : HandleBase}
    {index pvData hParent : Nat}
    {eType : HandleType}
    {eFlag : AllocFlag}
    (allocates : Allocates base grown after index pvData eType eFlag
      hParent) :
    Created base after index pvData eType eFlag 0
      { data := pvData, type := eType.value, parent := hParent } := by
  have grow := allocates.grow
  have placed := allocates.placed
  have live := placed.live allocates.inside
  have others : ∀ other, base.Live other →
      after.handles other = grown.handles other := by
    intro other alive
    refine placed.others other fun same => ?_
    exact allocates.unused (same ▸ alive)
  refine ⟨?_, allocates.unused, ?_, ?_, ?_, fun other alive => ?_,
    placed.eType, placed.pvData, placed.eFlag, ?_, placed.root, ?_, ?_⟩
  · rw [placed.hash]
    simp only [hashWith, grow.hash]
  · rw [placed.total]
    exact allocates.inside
  · intro other
    rw [live]
    exact or_congr_left (grow.live other)
  · intro other alive
    have same := others other alive
    have keeps := grow.keeps alive
    refine ⟨?_, ?_, ?_, ?_⟩
    · rw [same]
      exact keeps.eType
    · rw [same]
      exact keeps.pvData
    · rw [same]
      exact keeps.eFlag
    · rw [HandleBase.parentHandle, same]
      exact keeps.parent
  · rw [others other alive]
    exact grow.sameForest.flags other alive
  · rw [placed.batched]
    simp only [HandleBase.handlesBatched, grow.batchSize]
  · exact placed.max.trans grow.max
  · exact placed.batchSize.trans grow.batchSize

/-- The new handle has been put below `parent`. -/
theorem Created.adopt
    (created : Created before after index pvData eType eFlag 0 key)
    (family : Family after.slot after.Live used kids rank)
    (parentLive : before.Live parent) :
    Created before (after.adoptChild parent index) index pvData eType eFlag
      (indexToHandle parent) key := by
  have same := SameData.adoptChild after parent index
  have live : ∀ other, (after.adoptChild parent index).Live other ↔
      after.Live other := by
    intro other
    simp only [HandleBase.Live, same.eType]
    rw [same.fields]
  have aliveAfter : after.Live parent :=
    (created.live parent).mpr (Or.inl parentLive)
  have lastMember : prevOf after.slot parent parent ∈
      parent :: kids parent := by
    rw [Links.path_prev
      (family.ring parent (family.liveUsed parent aliveAfter))]
    exact List.getLastD_mem_cons
  have slots := after.slot_adoptChild
    (family.slotOf_ne_root lastMember created.parent)
  have parentField : ∀ other,
      (after.adoptChild parent index).parentHandle other =
        if other = index then indexToHandle parent
        else after.parentHandle other := by
    intro other
    have field := congrArg HandleList.hParent (slots (.siblings other))
    by_cases isNew : other = index
    · rw [if_pos isNew]
      rw [if_pos (congrArg Slot.siblings isNew)] at field
      exact field
    · rw [if_neg isNew]
      rw [if_neg (fun both => isNew (Slot.siblings.inj both))] at field
      exact field
  refine ⟨?_, created.unused, ?_, ?_, ?_, fun other alive => ?_, ?_, ?_, ?_,
    ?_, ?_, ?_, ?_⟩
  · rw [same.fields]
    exact created.hash
  · rw [same.fields]
    exact created.inside
  · intro other
    rw [live]
    exact created.live other
  · intro other alive
    have different : other ≠ index := fun isNew =>
      created.unused (isNew ▸ alive)
    have keeps := created.kept other alive
    refine ⟨?_, ?_, ?_, ?_⟩
    · rw [same.eType, keeps.eType]
    · rw [same.pvData, keeps.pvData]
    · rw [same.eFlag, keeps.eFlag]
    · rw [parentField, if_neg different, keeps.parent]
  · rw [same.batched, created.flags other alive]
  · rw [same.eType, created.eType]
  · rw [same.pvData, created.pvData]
  · rw [same.eFlag, created.eFlag]
  · rw [same.batched, created.own]
  · rw [parentField, if_pos rfl]
  · rw [same.fields]
    exact created.max
  · rw [same.fields]
    exact created.batchSize

/-! ## Allocation -/

/-- Every structure the array may have is live, unless a batch holds some. -/
def HandleBase.Full (base : HandleBase) : Prop :=
  base.handlesBatched = false →
    ∀ index, index < base.ui32MaxIndexPlusOne → base.Live index

/-- Why an allocation fails. -/
def AllocFailure
    (base : HandleBase) (eFlag : AllocFlag) (outcome : AllocOutcome)
    (error : HandleError) : Prop :=
  (error = .outOfMemory ∧ (outcome.osAllocMem = true → base.Full)) ∨
    (error = .unableToAddHandle ∧ eFlag.multi = false ∧
      outcome.hashInsert = false)

/-- What an allocation does that looks for an existing handle under `key`,
takes it if it is shared and `shareable`, and otherwise makes a new handle
below `parent`. -/
inductive AllocResult
    (base after : HandleBase)
    (pvData : Nat) (eType : HandleType) (eFlag : AllocFlag)
    (key : HandKey) (parent : Nat) (shareable : Nat → Prop)
    (outcome : AllocOutcome) : Except HandleError Nat → Prop where
  | stale
      {hHandle : Nat} {error : HandleError}
      (single : eFlag.multi = false)
      (entry : base.hashTab key = some hHandle)
      (lost : base.getHandleStructure hHandle eType.value = .error error)
      (same : SameForest base after) :
      AllocResult base after pvData eType eFlag key parent shareable outcome
        (.error error)
  | shared
      {hHandle index : Nat}
      (single : eFlag.multi = false)
      (entry : base.hashTab key = some hHandle)
      (found : base.getHandleStructure hHandle eType.value = .ok index)
      (both : (base.handles index).eFlag.shared = true ∧
        eFlag.shared = true)
      (allowed : shareable index)
      (same : SameForest base after) :
      AllocResult base after pvData eType eFlag key parent shareable outcome
        (.ok hHandle)
  | notShareable
      {hHandle index : Nat}
      (single : eFlag.multi = false)
      (entry : base.hashTab key = some hHandle)
      (found : base.getHandleStructure hHandle eType.value = .ok index)
      (refused : ¬ (((base.handles index).eFlag.shared = true ∧
        eFlag.shared = true) ∧ shareable index))
      (same : SameForest base after) :
      AllocResult base after pvData eType eFlag key parent shareable outcome
        (.error .handleNotShareable)
  | failed
      {error : HandleError}
      (fresh : eFlag.multi = false → base.hashTab key = none)
      (reason : AllocFailure base eFlag outcome error)
      (same : SameForest base after) :
      AllocResult base after pvData eType eFlag key parent shareable outcome
        (.error error)
  | created
      {index : Nat}
      (fresh : eFlag.multi = false → base.hashTab key = none)
      (created : Created base after index pvData eType eFlag parent key) :
      AllocResult base after pvData eType eFlag key parent shareable outcome
        (.ok (indexToHandle index))

/-- The existing handle an allocation looks up. -/
theorem existing_cases
    (base : HandleBase) (eFlag : AllocFlag) (key : HandKey) :
    ((if eFlag.multi then none else base.hashTab key) = none ∧
      (eFlag.multi = false → base.hashTab key = none)) ∨
    ∃ hHandle, (if eFlag.multi then none else base.hashTab key) =
        some hHandle ∧
      eFlag.multi = false ∧ base.hashTab key = some hHandle := by
  cases multi : eFlag.multi with
  | true => simp
  | false =>
    cases entry : base.hashTab key with
    | none => simp
    | some hHandle => simp

/-- The base is full when no free structure is left and the array cannot
grow. -/
theorem Valid.full
    (valid : Valid base chain start batch kids rank)
    (unbatched : base.handlesBatched = false → batch = [])
    (none : base.ui32FreeHandCount = 0)
    (limit : base.ui32MaxIndexPlusOne ≤ base.ui32TotalHandCount) :
    base.Full := by
  intro notBatched index below
  have empty : chain = [] := by
    apply List.eq_nil_of_length_eq_zero
    rw [← valid.free.count]
    exact none
  have notFree : index ∉ chain := by
    rw [empty]
    exact not_mem_nil
  rw [valid.occupancy.mem_chain, unbatched notBatched] at notFree
  have inside : index < base.ui32TotalHandCount :=
    Nat.lt_of_lt_of_le below limit
  refine ⟨inside, fun free => ?_⟩
  exact notFree ⟨inside, free, not_mem_nil⟩

theorem handlesBatched_congr
    {other : HandleBase}
    (same : other.ui32HandBatchSize = base.ui32HandBatchSize) :
    other.handlesBatched = base.handlesBatched := by
  simp only [HandleBase.handlesBatched, same]

/-- `AllocHandle` on a base whose failure count has been changed. -/
theorem Valid.allocHandle_result
    (valid : Valid base chain base.ui32FirstBatchIndexPlusOne batch kids
      rank)
    (unbatched : base.handlesBatched = false → batch = [])
    (pvData : Nat)
    (eType : HandleType)
    (eFlag : AllocFlag)
    (hParent : Nat)
    (outcome : AllocOutcome) :
    (∃ after error,
      base.allocHandle pvData eType eFlag hParent outcome =
          (after, .error error) ∧
        after.Sound ∧
        SameForest base after ∧
        AllocFailure base eFlag outcome error) ∨
    ∃ after otherChain index batch,
      base.allocHandle pvData eType eFlag hParent outcome =
          (after, .ok (indexToHandle index)) ∧
        Valid after otherChain after.ui32FirstBatchIndexPlusOne batch kids
          rank ∧
        (after.handlesBatched = false → batch = []) ∧
        kids index = [] ∧
        Created base after index pvData eType eFlag 0
          { data := pvData, type := eType.value, parent := hParent } := by
  rcases valid.allocHandle pvData eType eFlag hParent outcome with
    ⟨after, otherChain, error, result, kept, fails⟩ |
    ⟨grown, after, otherChain, index, result, kept, _, childless, allocates⟩
  · left
    have batched := handlesBatched_congr fails.grown.batchSize
    refine ⟨after, error, result, ⟨otherChain, batch, kids, rank, kept, ?_⟩,
      fails.grown.sameForest, ?_⟩
    · rw [batched]
      exact unbatched
    · rcases fails.reason with ⟨noMemory, exhausted⟩ | noHash
      · refine Or.inl ⟨noMemory, fun succeeds => ?_⟩
        obtain ⟨none, limit⟩ := exhausted succeeds
        exact valid.full unbatched none limit
      · exact Or.inr noHash
  · right
    have created := allocates.created
    refine ⟨after, otherChain, index, _, result, kept, ?_, childless, created⟩
    rw [handlesBatched_congr created.batchSize]
    intro notBatched
    rw [HandleBase.batchWith, notBatched]
    exact unbatched notBatched

theorem HandleBase.Sound.withFailures
    (sound : base.Sound)
    (failures : Nat) :
    HandleBase.Sound { base with ui32BatchHandAllocFailures := failures } := by
  obtain ⟨chain, batch, kids, rank, valid, unbatched⟩ := sound
  exact ⟨chain, batch, kids, rank, valid.withFailures failures, unbatched⟩

theorem HandleBase.Sound.endBatchAlloc
    (sound : base.Sound) :
    base.endBatchAlloc.Sound := by
  obtain ⟨failures, ended⟩ := base.endBatchAlloc_eq
  rw [ended]
  exact sound.withFailures failures

theorem SameForest.endBatchAlloc (base : HandleBase) :
    SameForest base base.endBatchAlloc := by
  obtain ⟨failures, ended⟩ := base.endBatchAlloc_eq
  rw [ended]
  exact withFailures base failures

theorem Created.endBatchAlloc
    (created : Created before after index pvData eType eFlag parent key) :
    Created before after.endBatchAlloc index pvData eType eFlag parent
      key := by
  obtain ⟨failures, ended⟩ := after.endBatchAlloc_eq
  rw [ended]
  exact created.withFailures failures

/-- `PVRSRVAllocHandle` keeps the base sound. -/
theorem HandleBase.Sound.pvrsrvAllocHandle
    (sound : base.Sound)
    (pvData : Nat)
    (eType : HandleType)
    (eFlag : AllocFlag)
    (outcome : AllocOutcome) :
    ∃ after result,
      base.pvrsrvAllocHandle pvData eType eFlag outcome = (after, result) ∧
        after.Sound ∧
        AllocResult base after pvData eType eFlag
          { data := pvData, type := eType.value, parent := 0 } 0
          (fun _ => True) outcome result := by
  obtain ⟨failures, begin⟩ := base.beginBatchAlloc_eq
  have begunSound := sound.withFailures failures
  have sameBegun := SameForest.withFailures base failures
  obtain ⟨chain, batch, kids, rank, valid, unbatched⟩ := sound
  have begun := valid.withFailures failures
  unfold HandleBase.pvrsrvAllocHandle
  simp only [begin]
  rcases existing_cases base eFlag
      { data := pvData, type := eType.value, parent := 0 } with
    ⟨absent, fresh⟩ | ⟨hHandle, present, single, entry⟩
  · rw [absent]
    rcases begun.allocHandle_result unbatched pvData eType eFlag 0 outcome
      with ⟨after, error, result, sound, same, reason⟩ |
        ⟨after, otherChain, index, batch, result, kept, emptied, _, created⟩
    · rw [result]
      exact ⟨after, .error error, rfl, sound,
        .failed fresh reason (sameBegun.trans same)⟩
    · rw [result]
      have afterSound : after.Sound :=
        ⟨otherChain, batch, kids, rank, kept, emptied⟩
      exact ⟨_, _, rfl, afterSound.endBatchAlloc,
        .created fresh (created.after_same sameBegun).endBatchAlloc⟩
  · rw [present]
    cases found : base.getHandleStructure hHandle eType.value with
    | error error =>
      have foundBegun : HandleBase.getHandleStructure
          { base with ui32BatchHandAllocFailures := failures } hHandle
          eType.value = .error error := found
      simp only [foundBegun]
      exact ⟨_, _, rfl, begunSound, .stale single entry found sameBegun⟩
    | ok index =>
      have foundBegun : HandleBase.getHandleStructure
          { base with ui32BatchHandAllocFailures := failures } hHandle
          eType.value = .ok index := found
      simp only [foundBegun]
      split_ifs with both
      · rw [Bool.and_eq_true] at both
        exact ⟨_, _, rfl, begunSound.endBatchAlloc,
          .shared single entry found both trivial
            (sameBegun.trans (SameForest.endBatchAlloc _))⟩
      · rw [Bool.and_eq_true] at both
        exact ⟨_, _, rfl, begunSound,
          .notShareable single entry found (fun shared => both shared.1)
            sameBegun⟩

/-- The key under which `PVRSRVAllocSubHandle` looks for a handle. -/
def subHandleKey
    (pvData : Nat) (eType : HandleType) (eFlag : AllocFlag) (hParent : Nat) :
    HandKey where
  data := pvData
  type := eType.value
  parent := if eFlag.priv then hParent else 0

/-- `PVRSRVAllocSubHandle` keeps the base sound. -/
theorem HandleBase.Sound.pvrsrvAllocSubHandle
    (sound : base.Sound)
    (pvData : Nat)
    (eType : HandleType)
    (eFlag : AllocFlag)
    (hParent : Nat)
    (outcome : AllocOutcome) :
    ∃ after result,
      base.pvrsrvAllocSubHandle pvData eType eFlag hParent outcome =
          (after, result) ∧
        after.Sound ∧
        ((∃ error,
            base.getHandleStructure hParent handleTypeNone = .error error ∧
              result = .error error ∧ SameForest base after) ∨
          ∃ parent,
            base.getHandleStructure hParent handleTypeNone = .ok parent ∧
              AllocResult base after pvData eType eFlag
                (subHandleKey pvData eType eFlag hParent)
                (indexToHandle parent)
                (fun index => base.parentHandle index = hParent) outcome
                result) := by
  obtain ⟨failures, begin⟩ := base.beginBatchAlloc_eq
  have begunSound := sound.withFailures failures
  have sameBegun := SameForest.withFailures base failures
  obtain ⟨chain, batch, kids, rank, valid, unbatched⟩ := sound
  have begun := valid.withFailures failures
  have lookup : ∀ hHandle eType, HandleBase.getHandleStructure
      { base with ui32BatchHandAllocFailures := failures } hHandle eType =
        base.getHandleStructure hHandle eType := fun _ _ => rfl
  unfold HandleBase.pvrsrvAllocSubHandle
  simp only [begin, lookup]
  cases parentFound : base.getHandleStructure hParent handleTypeNone with
  | error error =>
    exact ⟨_, _, rfl, begunSound, Or.inl ⟨error, rfl, rfl, sameBegun⟩⟩
  | ok parent =>
    have parentLive := (getHandleStructure_ok.mp parentFound).2.1
    simp only
    rcases existing_cases base eFlag
        (subHandleKey pvData eType eFlag hParent) with
      ⟨absent, fresh⟩ | ⟨hHandle, present, single, entry⟩
    · rw [subHandleKey] at absent
      rw [absent]
      rcases begun.allocHandle_result unbatched pvData eType eFlag
          (if eFlag.priv then hParent else 0) outcome
        with ⟨after, error, result, sound, same, reason⟩ |
          ⟨after, otherChain, index, batch, result, kept, emptied,
            childless, created⟩
      · rw [result]
        exact ⟨after, .error error, rfl, sound, Or.inr ⟨parent, rfl,
          .failed fresh reason (sameBegun.trans same)⟩⟩
      · rw [result]
        have createdBase := created.after_same sameBegun
        have alive : after.Live index := (created.live index).mpr (Or.inr rfl)
        have aliveParent : after.Live parent :=
          (createdBase.live parent).mpr (Or.inl parentLive)
        have different : index ≠ parent := fun same =>
          createdBase.unused (same ▸ parentLive)
        have sameIndex : handleToIndex (indexToHandle index) = index :=
          handleToIndex_indexToHandle
            (kept.family.bounded index (Or.inl alive))
        have adopted := kept.adoptChild aliveParent alive created.parent
          childless different
        have fields := (SameData.adoptChild after parent index).fields
        have adoptedSound : (after.adoptChild parent index).Sound := by
          refine ⟨otherChain, batch,
            Function.update kids parent (kids parent ++ [index]),
            Function.update rank index (rank parent + 1), ?_, ?_⟩
          · rw [show (after.adoptChild parent
                index).ui32FirstBatchIndexPlusOne =
              after.ui32FirstBatchIndexPlusOne by rw [fields]]
            exact adopted
          · have batched : (after.adoptChild parent
                index).handlesBatched = after.handlesBatched :=
              handlesBatched_congr (by rw [fields])
            rw [batched]
            exact emptied
        simp only [sameIndex]
        exact ⟨_, _, rfl, adoptedSound.endBatchAlloc, Or.inr ⟨parent, rfl,
          .created fresh
            (createdBase.adopt kept.family parentLive).endBatchAlloc⟩⟩
    · rw [subHandleKey] at present
      rw [present]
      cases found : base.getHandleStructure hHandle eType.value with
      | error error =>
        simp only [found]
        exact ⟨_, _, rfl, begunSound, Or.inr ⟨parent, rfl,
          .stale single entry found sameBegun⟩⟩
      | ok index =>
        simp only [found]
        split_ifs with both
        · simp only [Bool.and_eq_true, decide_eq_true_eq] at both
          exact ⟨_, _, rfl, begunSound.endBatchAlloc, Or.inr ⟨parent,
            rfl, .shared single entry found both.1 both.2
              (sameBegun.trans (SameForest.endBatchAlloc _))⟩⟩
        · simp only [Bool.and_eq_true, decide_eq_true_eq] at both
          exact ⟨_, _, rfl, begunSound, Or.inr ⟨parent, rfl,
            .notShareable single entry found both sameBegun⟩⟩

/-! ## Release -/

/-- The parents of live handles are live, and of smaller ranks. -/
def HandleBase.Ranked (base : HandleBase) (rank : Nat → Nat) : Prop :=
  ∀ child parent, base.Live child →
    base.parentHandle child = indexToHandle parent →
      base.Live parent ∧ rank parent < rank child

theorem Family.ranked_of_parent
    (family : Family base.slot base.Live used kids rank) :
    base.Ranked rank := by
  intro child parent childLive field
  have member := (family.kids_iff parent child).mpr ⟨childLive, field⟩
  exact ⟨family.parentLive parent child member,
    family.ranked parent child member⟩

/-- `FreeHandle` keeps the base sound. -/
theorem HandleBase.Sound.freeHandle
    (sound : base.Sound)
    (alive : base.Live index) :
    ∃ after rank removed, base.freeHandle index = some after ∧
      after.Sound ∧ base.Ranked rank ∧
      Freed base after rank [index] removed := by
  obtain ⟨chain, batch, kids, rank, valid, unbatched⟩ := sound
  obtain ⟨after, otherChain, otherKids, removed, result, kept, freed⟩ :=
    valid.freeHandle alive
  refine ⟨after, rank, removed, result, ?_, ?_, freed⟩
  · refine ⟨otherChain, batch, otherKids, rank, ?_, ?_⟩
    · rw [freed.firstBatch]
      exact kept
    · rw [handlesBatched_congr freed.batchSize]
      exact unbatched
  · exact valid.family.ranked_of_parent

/-! ## Batches -/

/-- A new batch does not make the array grow while structure 0 is the first
free one. -/
def HandleBase.GrowthSafe
    (base : HandleBase) (ui32BatchSize : Nat) (outcome : AllocOutcome) :
    Prop :=
  base.ui32FirstFreeIndex = 0 → 0 < base.ui32FreeHandCount →
    base.ui32FreeHandCount < ui32BatchSize →
    base.handlesBatched = false → outcome.osAllocMem = true →
    base.increasedCount (ui32BatchSize - base.ui32FreeHandCount) = none

instance (base : HandleBase) (ui32BatchSize : Nat) (outcome : AllocOutcome) :
    Decidable (base.GrowthSafe ui32BatchSize outcome) :=
  inferInstanceAs (Decidable (_ → _))

/-- Without memory, or beyond the limit, `EnsureFreeHandles` fails. -/
theorem Sized.ensureFreeHandles_fails
    (sized : Sized base)
    {ui32Free : Nat}
    {osAllocMem : Bool}
    (short : base.ui32FreeHandCount < ui32Free)
    (stuck : osAllocMem = true →
      base.increasedCount (ui32Free - base.ui32FreeHandCount) = none) :
    base.ensureFreeHandles ui32Free osAllocMem = .error .outOfMemory := by
  unfold HandleBase.ensureFreeHandles HandleBase.increaseHandleArraySize
  rw [if_pos short]
  cases increased :
      base.increasedCount (ui32Free - base.ui32FreeHandCount) with
  | none => rfl
  | some count =>
    obtain ⟨more, _, aligned⟩ :=
      increasedCount_bounds sized (Nat.sub_pos_of_lt short) increased
    have noMemory : osAllocMem = false := by
      cases osAllocMem with
      | false => rfl
      | true => cases increased.symm.trans (stuck rfl)
    simp only [HandleBase.reallocHandleArray]
    rw [if_neg (by omega), if_neg (by omega),
      if_neg (by simp [sized.total_mod, aligned]), if_pos (by simp [noMemory])]

/-- `PVRSRVNewHandleBatch` keeps the base sound. -/
theorem HandleBase.Sound.pvrsrvNewHandleBatch
    (sound : base.Sound)
    {ui32BatchSize : Nat}
    {outcome : AllocOutcome}
    (safe : base.GrowthSafe ui32BatchSize outcome) :
    ∃ after result,
      base.pvrsrvNewHandleBatch ui32BatchSize outcome = (after, result) ∧
        after.Sound ∧ KeepsHandles base after := by
  have unchanged : base.Sound ∧ KeepsHandles base base :=
    ⟨sound, KeepsHandles.refl base⟩
  obtain ⟨chain, batch, kids, rank, valid, unbatched⟩ := sound
  unfold HandleBase.pvrsrvNewHandleBatch
  split_ifs with batched zero
  · exact ⟨_, _, rfl, unchanged⟩
  · exact ⟨_, _, rfl, unchanged⟩
  · have notBatched : base.handlesBatched = false := by
      simpa using batched
    by_cases stuck : base.ui32FreeHandCount < ui32BatchSize ∧
        (outcome.osAllocMem = true → base.increasedCount
          (ui32BatchSize - base.ui32FreeHandCount) = none)
    · rw [valid.sized.ensureFreeHandles_fails stuck.1 stuck.2]
      exact ⟨_, _, rfl, unchanged⟩
    · have zeroEmpty : base.ui32FreeHandCount < ui32BatchSize →
          base.ZeroMeansEmpty := by
        intro short first
        by_contra some
        exact stuck ⟨short, safe first (Nat.pos_of_ne_zero some) short
          notBatched⟩
      rcases valid.ensureFreeHandles (Nat.pos_of_ne_zero zero) zeroEmpty
          outcome.osAllocMem with
        ⟨result, _⟩ | ⟨after, index, rest, result, kept, grown⟩
      · rw [result]
        exact ⟨_, _, rfl, unchanged⟩
      · rw [result]
        refine ⟨_, _, rfl, ?_, grown.sameForest.toKeepsHandles.trans
          (.of_handles rfl rfl rfl)⟩
        refine ⟨index :: rest, batch, kids, rank, ?_, ?_⟩
        · rw [← grown.firstBatch] at kept
          exact kept.withBatchSize ui32BatchSize
        · intro impossible
          exact unbatched notBatched

/-- The fields of the batch are cleared at its end. -/
def HandleBase.closeBatch (base : HandleBase) : HandleBase :=
  { base with
    ui32HandBatchSize := 0
    ui32FirstBatchIndexPlusOne := 0
    ui32BatchHandAllocFailures := 0 }

/-- A base whose batch is walked through is sound again. -/
theorem Valid.closeBatch
    (valid : Valid base chain start [] kids rank) :
    base.closeBatch.Sound := by
  refine ⟨chain, [], kids, rank, ?_, fun _ => rfl⟩
  exact
    { sized := valid.sized.congr rfl rfl
      free := valid.free.congr rfl rfl rfl fun _ _ => rfl
      links := rfl
      occupancy :=
        ⟨valid.occupancy.mem_chain, valid.occupancy.batchInside,
          valid.occupancy.batchDistinct, valid.occupancy.batchFlags,
          valid.occupancy.liveFlags⟩
      family := valid.family }

/-- The base at the end of a batch, after the loop over it. -/
def BatchEnds (before after : HandleBase) : Prop :=
  ∃ middle, Walked before middle ∧
    after.handles = middle.handles ∧
    after.ui32TotalHandCount = middle.ui32TotalHandCount ∧
    after.hashTab = middle.hashTab

/-- Committing or releasing a batch keeps the base sound. -/
theorem HandleBase.Sound.handleBatchCommitOrRelease
    (sound : base.Sound)
    (bCommit : Bool) :
    ∃ after result,
      base.handleBatchCommitOrRelease bCommit = some (after, result) ∧
        after.Sound ∧ BatchEnds base after := by
  unfold HandleBase.handleBatchCommitOrRelease
  split_ifs with unbatchedBase
  · exact ⟨_, _, rfl, sound, base, fun _ _ holds => holds, rfl, rfl, rfl⟩
  · obtain ⟨chain, batch, kids, rank, valid, _⟩ := sound
    obtain ⟨middle, otherChain, otherKids, result, middleValid, walked⟩ :=
      valid.commitOrReleaseLoop
        (bCommit && base.ui32BatchHandAllocFailures = 0)
        (Nat.le_succ_of_le valid.batch_length_le)
    simp only [result]
    exact ⟨_, _, rfl, middleValid.closeBatch, middle, walked, rfl, rfl, rfl⟩

/-! ## Creation -/

theorem roundDownToBlockSize_spec (a : Nat) :
    roundDownToBlockSize a % handleBlockSize = 0 ∧
      roundDownToBlockSize a ≤ a := by
  unfold roundDownToBlockSize
  exact ⟨Nat.mul_mod_left _ _, Nat.div_mul_le_self _ _⟩

theorem create_fields (memory : Nat → Handle) (ui32MaxHandle : Nat) :
    ∃ max, create memory ui32MaxHandle =
        { pvrsrvAllocHandleBase memory with ui32MaxIndexPlusOne := max } ∧
      max % handleBlockSize = 0 ∧ max ≤ defaultMaxHandle := by
  have default := roundDownToBlockSize_spec defaultMaxHandle
  have rounded := roundDownToBlockSize_spec ui32MaxHandle
  unfold create pvrsrvSetMaxHandle
  simp only
  split_ifs with _ limit
  · exact ⟨_, rfl, default⟩
  · exact ⟨_, rfl, default⟩
  · exact ⟨_, rfl, default⟩
  · exact ⟨_, rfl, rounded.1, by omega⟩
  · exact ⟨_, rfl, default⟩

/-- A new base is sound and has no handles. -/
theorem sound_create (memory : Nat → Handle) (ui32MaxHandle : Nat) :
    (create memory ui32MaxHandle).Sound ∧
      (create memory ui32MaxHandle).hashTab = (fun _ => none) ∧
      (create memory ui32MaxHandle).handlesBatched = false ∧
      ∀ index, ¬ (create memory ui32MaxHandle).Live index := by
  obtain ⟨max, fields, aligned, le⟩ := create_fields memory ui32MaxHandle
  rw [fields]
  have notLive : ∀ index, ¬ HandleBase.Live
      { pvrsrvAllocHandleBase memory with ui32MaxIndexPlusOne := max }
      index := fun index alive => Nat.not_lt_zero index alive.1
  refine ⟨⟨[], [], fun _ => [], fun _ => 0, ?_, fun _ => rfl⟩, rfl, rfl,
    notLive⟩
  refine ⟨?_, ?_, rfl, ?_, ?_⟩
  · exact ⟨Nat.zero_le _, rfl, aligned, le⟩
  · exact
      { count := rfl
        first := rfl
        links := List.isChain_nil
        last := fun _ isLast => by cases isLast
        empty := fun _ => rfl
        distinct := nodup_nil }
  · exact
      { mem_chain := fun index =>
          iff_of_false not_mem_nil fun free => Nat.not_lt_zero index free.1
        batchInside := fun _ member => absurd member not_mem_nil
        batchDistinct := nodup_nil
        batchFlags := fun _ member => absurd member not_mem_nil
        liveFlags := fun index alive => absurd alive (notLive index) }
  · have notUsed : ∀ index, ¬ HandleBase.Used
        { pvrsrvAllocHandleBase memory with ui32MaxIndexPlusOne := max } []
        index := by
      rintro index (alive | member)
      · exact notLive index alive
      · exact absurd member not_mem_nil
    exact
      { ring := fun index inUse => absurd inUse (notUsed index)
        self := fun index inUse => absurd inUse (notUsed index)
        kids_iff := fun _ child =>
          iff_of_false not_mem_nil fun both => notLive child both.1
        parentLive := fun _ _ member => absurd member not_mem_nil
        distinct := fun _ => nodup_nil
        ranked := fun _ _ member => absurd member not_mem_nil
        root := fun index inUse => absurd inUse (notUsed index)
        dead := fun index inUse => absurd inUse (notUsed index)
        liveUsed := fun index alive => absurd alive (notLive index)
        bounded := fun index inUse => absurd inUse (notUsed index) }

end PvrServices.Handles
