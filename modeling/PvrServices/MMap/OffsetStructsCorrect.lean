import PvrServices.MMap.OffsetStructs
import Mathlib.Data.List.Perm.Basic
import Mathlib.Data.List.Count
import Mathlib.Data.List.Nodup
import Mathlib.Data.Nat.Basic

/-!
# What mmap resolves to

A mapping is looked up by its process, its offset and its size.  The offset
is made from the handle, so that a handle that is given to another area while
its old offset structure waits for mmap leads to two structures for one
lookup.  Without such a translation every lookup is unambiguous, and each
offset structure is destroyed once, after its last mapping.
-/

namespace PvrServices.MMap

namespace MMapState

open Function (update update_of_ne update_self)
open Option (any_some bind_eq_bind bind_some isSome_iff_exists isSome_some
  map_some)
open List (countP_eq_zero map_cons mem_cons mem_cons_self nodup_nil
  not_mem_nil)

/-! ## What is to hold -/

/-- The area of the handle whose translation last returned an offset and a
size to a process. -/
def lastTranslated
    (state : MMapState) (ui32PID ui32MMapOffset ui32RealByteSize : Nat) :
    Option Address :=
  (state.translations.find? fun translation =>
    translation.ui32PID = ui32PID ∧
      translation.ui32MMapOffset = ui32MMapOffset ∧
      translation.ui32RealByteSize = ui32RealByteSize).map
    Translation.psLinuxMemArea

/-- Number of open mappings of an offset structure. -/
def mappings (state : MMapState) (psOffsetStruct : Address) : Nat :=
  state.vmas.countP fun vma => vma.2 = psOffsetStruct

/-- What mmap and the offset structures are to keep. -/
structure Good (state : MMapState) : Prop where
  resolves : ∀ ui32PID ui32Offset ui32RealByteSize psOffsetStruct,
    state.findOffsetStructByOffset ui32Offset ui32RealByteSize ui32PID =
        some (some psOffsetStruct) →
      ∃ value, state.offsetStructs psOffsetStruct = some value ∧
        state.lastTranslated ui32PID ui32Offset ui32RealByteSize =
          some value.psLinuxMemArea
  unique : ∀ first second value other,
    first ∈ state.gsMMapOffsetStructList →
      second ∈ state.gsMMapOffsetStructList →
      state.offsetStructs first = some value →
      state.offsetStructs second = some other →
      value.fits other.ui32MMapOffset other.ui32RealByteSize
        other.ui32PID = true →
      first = second
  once : ∀ psOffsetStruct,
    state.created.count psOffsetStruct =
      (state.destroyed.map Prod.fst).count psOffsetStruct +
        if (state.offsetStructs psOffsetStruct).isSome then 1 else 0
  unmapped : ∀ entry ∈ state.destroyed, entry.2 = 0
  mapped : ∀ psOffsetStruct value,
    state.offsetStructs psOffsetStruct = some value →
      value.ui32Mapped = state.mappings psOffsetStruct
  opened : ∀ vma ∈ state.vmas, (state.offsetStructs vma.2).isSome = true

/-! ## What the calls may rely on -/

/-- Allocations return unused memory, handles lead to areas that are
registered, and the kernel opens and closes the mappings it has, fewer than
2^32 of them. -/
def Enabled (state : MMapState) : MMapOp → Prop
  | .registerArea psLinuxMemArea _ _ _ _ => state.areas psLinuxMemArea = none
  | .removeRegisteredArea psLinuxMemArea =>
    (state.areas psLinuxMemArea).isSome = true
  | .osMemHandleToMMapData _ _ lookup allocated =>
    (∀ psLinuxMemArea ∈ lookup,
        (state.areas psLinuxMemArea).isSome = true) ∧
      ∀ psOffsetStruct ∈ allocated, state.offsetStructs psOffsetStruct = none
  | .releaseMMapData _ lookup =>
    ∀ psLinuxMemArea ∈ lookup, (state.areas psLinuxMemArea).isSome = true
  | .mmap _ request =>
    request.psVma ∉ state.vmas.map Prod.fst ∧
      state.vmas.length + 1 < 2 ^ 32
  | .vOpen psVma psOffsetStruct =>
    psVma ∉ state.vmas.map Prod.fst ∧
      psOffsetStruct ∈ state.vmas.map Prod.snd ∧
      state.vmas.length + 1 < 2 ^ 32
  | .vClose psVma psOffsetStruct => (psVma, psOffsetStruct) ∈ state.vmas
  | .disconnect _ => True

/-- The offset a translation finds or makes, if there is memory to make
one. -/
def translationOffset
    (state : MMapState) (ui32PID hMHandle : Nat) (area : LinuxMemArea)
    (allocated : Option Address) :
    Option Nat :=
  match state.findOffsetStruct (fun value => value.ui32PID = ui32PID)
    area.sMMapOffsetStructList with
  | some (some psOffsetStruct) =>
    (state.offsetStructs psOffsetStruct).map OffsetStruct.ui32MMapOffset
  | some none => allocated.map fun _ => handleToMMapOffset hMHandle
  | none => none

/-- Offset structures of the process that wait for mmap with the offset and
the size of a translation belong to the area that is translated. -/
def Clear (state : MMapState) : MMapOp → Prop
  | .osMemHandleToMMapData ui32PID hMHandle (some psLinuxMemArea)
      allocated =>
    ∀ area ui32Offset, state.areas psLinuxMemArea = some area →
      state.translationOffset ui32PID hMHandle area allocated =
        some ui32Offset →
      ∀ psOffsetStruct ∈ state.gsMMapOffsetStructList, ∀ value,
        state.offsetStructs psOffsetStruct = some value →
        value.fits ui32Offset area.realByteSize ui32PID = true →
        value.psLinuxMemArea = psLinuxMemArea
  | _ => True

/-- The calls rely on what they may. -/
def EnabledRun : MMapState → List MMapOp → Prop
  | _, [] => True
  | state, op :: ops =>
    state.Enabled op ∧ ∀ after, state.step op = some after →
      after.EnabledRun ops

/-- Every translation of the run is clear where it is made. -/
def ClearRun : MMapState → List MMapOp → Prop
  | _, [] => True
  | state, op :: ops =>
    state.Clear op ∧ ∀ after, state.step op = some after →
      after.ClearRun ops

/-- Every call of the run returns, and every state of it is good. -/
def GoodRun : MMapState → List MMapOp → Prop
  | state, [] => state.Good
  | state, op :: ops =>
    state.Good ∧ ∃ after, state.step op = some after ∧ after.GoodRun ops

/-! ## The invariant -/

/-- Offset structures, areas and mappings lead to each other. -/
structure Inv (state : MMapState) : Prop where
  areaOf : ∀ psOffsetStruct value,
    state.offsetStructs psOffsetStruct = some value →
      ∃ area, state.areas value.psLinuxMemArea = some area ∧
        psOffsetStruct ∈ area.sMMapOffsetStructList ∧
        value.ui32RealByteSize = area.realByteSize
  distinct : ∀ psLinuxMemArea area,
    state.areas psLinuxMemArea = some area →
      area.sMMapOffsetStructList.Nodup
  listed : ∀ psLinuxMemArea area,
    state.areas psLinuxMemArea = some area →
      ∀ psOffsetStruct ∈ area.sMMapOffsetStructList,
        ∃ value, state.offsetStructs psOffsetStruct = some value ∧
          value.psLinuxMemArea = psLinuxMemArea
  processes : ∀ first second value other,
    state.offsetStructs first = some value →
      state.offsetStructs second = some other →
      value.psLinuxMemArea = other.psLinuxMemArea →
      value.ui32PID = other.ui32PID → first = second
  distinctOffsets : state.gsMMapOffsetStructList.Nodup
  waiting : ∀ psOffsetStruct,
    psOffsetStruct ∈ state.gsMMapOffsetStructList ↔
      ∃ value, state.offsetStructs psOffsetStruct = some value ∧
        value.bOnMMapList = true
  onList : ∀ psOffsetStruct value,
    state.offsetStructs psOffsetStruct = some value →
      (value.bOnMMapList = true ↔ value.ui32Mapped = 0)
  mapped : ∀ psOffsetStruct value,
    state.offsetStructs psOffsetStruct = some value →
      value.ui32Mapped = state.mappings psOffsetStruct
  opened : ∀ vma ∈ state.vmas, (state.offsetStructs vma.2).isSome = true
  distinctVmas : (state.vmas.map Prod.fst).Nodup
  fewVmas : state.vmas.length < 2 ^ 32
  once : ∀ psOffsetStruct,
    state.created.count psOffsetStruct =
      (state.destroyed.map Prod.fst).count psOffsetStruct +
        if (state.offsetStructs psOffsetStruct).isSome then 1 else 0
  unmapped : ∀ entry ∈ state.destroyed, entry.2 = 0

/-- Offset structures that wait for mmap were translated last, and differ in
process, offset or size. -/
structure Resolved (state : MMapState) : Prop where
  translated : ∀ psOffsetStruct value,
    state.offsetStructs psOffsetStruct = some value →
      value.bOnMMapList = true →
      state.lastTranslated value.ui32PID value.ui32MMapOffset
        value.ui32RealByteSize = some value.psLinuxMemArea
  unique : ∀ first second value other,
    state.offsetStructs first = some value →
      state.offsetStructs second = some other →
      value.bOnMMapList = true → other.bOnMMapList = true →
      value.fits other.ui32MMapOffset other.ui32RealByteSize
        other.ui32PID = true →
      first = second

variable {state after middle : MMapState} {value changed : OffsetStruct}
  {psLinuxMemArea psVma psOffsetStruct : Address} {ui32PID ui32Offset : Nat}
  {area : LinuxMemArea} {allocated : Option Address} {rest : List Address}

/-- An entry of a table is the one that was set, or an old one. -/
theorem update_cases
    {α : Type}
    {table : Address → α}
    {place other : Address}
    {new found : α}
    (after : update table place new other = found) :
    other = place ∧ new = found ∨ other ≠ place ∧ table other = found := by
  rw [Function.update_apply] at after
  split_ifs at after with same
  · exact Or.inl ⟨same, after⟩
  · exact Or.inr ⟨same, after⟩

theorem OffsetStruct.fits_iff
    {ui32Offset ui32RealByteSize ui32PID : Nat} :
    value.fits ui32Offset ui32RealByteSize ui32PID = true ↔
      ui32Offset = value.ui32MMapOffset ∧
        ui32RealByteSize = value.ui32RealByteSize ∧
        value.ui32PID = ui32PID := by
  rw [MMap.OffsetStruct.fits, decide_eq_true_iff]

/-! ## Searching -/

/-- A search through live structures returns the first one that meets the
test. -/
theorem findOffsetStruct_eq
    {list : List Address}
    (test : OffsetStruct → Bool)
    (live : ∀ psOffsetStruct ∈ list,
      (state.offsetStructs psOffsetStruct).isSome = true) :
    state.findOffsetStruct test list =
      some (list.find? fun psOffsetStruct =>
        (state.offsetStructs psOffsetStruct).any test) := by
  induction list with
  | nil => rfl
  | cons head rest ih =>
    obtain ⟨value, isValue⟩ := isSome_iff_exists.mp (live head mem_cons_self)
    have others := ih fun other member =>
      live other (List.mem_cons_of_mem head member)
    simp only [findOffsetStruct, isValue, List.find?_cons, any_some]
    cases test value with
    | true => rfl
    | false => exact others

section

variable (inv : state.Inv)
include inv

theorem Inv.listed_live
    (isArea : state.areas psLinuxMemArea = some area) :
    ∀ psOffsetStruct ∈ area.sMMapOffsetStructList,
      (state.offsetStructs psOffsetStruct).isSome = true := by
  intro psOffsetStruct member
  obtain ⟨value, isValue, _⟩ :=
    inv.listed psLinuxMemArea area isArea psOffsetStruct member
  rw [isValue, isSome_some]

theorem Inv.waiting_live :
    ∀ psOffsetStruct ∈ state.gsMMapOffsetStructList,
      (state.offsetStructs psOffsetStruct).isSome = true := by
  intro psOffsetStruct member
  obtain ⟨value, isValue, _⟩ := (inv.waiting psOffsetStruct).mp member
  rw [isValue, isSome_some]

/-- What a search of the offset structures of an area finds. -/
theorem Inv.find_process
    (isArea : state.areas psLinuxMemArea = some area)
    (ui32PID : Nat) :
    (∃ psOffsetStruct value,
      state.findOffsetStruct (fun value => value.ui32PID = ui32PID)
          area.sMMapOffsetStructList = some (some psOffsetStruct) ∧
        state.offsetStructs psOffsetStruct = some value ∧
        value.psLinuxMemArea = psLinuxMemArea ∧ value.ui32PID = ui32PID) ∨
    state.findOffsetStruct (fun value => value.ui32PID = ui32PID)
        area.sMMapOffsetStructList = some none ∧
      ∀ psOffsetStruct value,
        state.offsetStructs psOffsetStruct = some value →
        value.psLinuxMemArea = psLinuxMemArea →
        value.ui32PID ≠ ui32PID := by
  rw [findOffsetStruct_eq _ (inv.listed_live isArea)]
  cases found : area.sMMapOffsetStructList.find? fun psOffsetStruct =>
      (state.offsetStructs psOffsetStruct).any fun value =>
        value.ui32PID = ui32PID with
  | some psOffsetStruct =>
    left
    obtain ⟨value, isValue, sameArea⟩ := inv.listed psLinuxMemArea area
      isArea psOffsetStruct (List.mem_of_find?_eq_some found)
    have test := List.find?_some found
    rw [isValue, any_some, decide_eq_true_iff] at test
    exact ⟨psOffsetStruct, value, rfl, isValue, sameArea, test⟩
  | none =>
    right
    refine ⟨rfl, fun psOffsetStruct value isValue sameArea samePid => ?_⟩
    obtain ⟨owner, isOwner, member, _⟩ :=
      inv.areaOf psOffsetStruct value isValue
    rw [sameArea, isArea] at isOwner
    cases isOwner
    have fails := List.find?_eq_none.mp found psOffsetStruct member
    rw [isValue, any_some, decide_eq_true_iff] at fails
    exact fails samePid

/-- What `FindOffsetStructByOffset` finds. -/
theorem Inv.find_offset
    (ui32Offset ui32RealByteSize ui32PID : Nat) :
    (∃ psOffsetStruct value,
      state.findOffsetStructByOffset ui32Offset ui32RealByteSize ui32PID =
          some (some psOffsetStruct) ∧
        state.offsetStructs psOffsetStruct = some value ∧
        value.bOnMMapList = true ∧
        value.fits ui32Offset ui32RealByteSize ui32PID = true) ∨
    state.findOffsetStructByOffset ui32Offset ui32RealByteSize ui32PID =
        some none ∧
      ∀ psOffsetStruct value,
        state.offsetStructs psOffsetStruct = some value →
        value.bOnMMapList = true →
        value.fits ui32Offset ui32RealByteSize ui32PID = false := by
  unfold findOffsetStructByOffset
  rw [findOffsetStruct_eq _ inv.waiting_live]
  cases found : state.gsMMapOffsetStructList.find? fun psOffsetStruct =>
      (state.offsetStructs psOffsetStruct).any fun value =>
        value.fits ui32Offset ui32RealByteSize ui32PID with
  | some psOffsetStruct =>
    left
    obtain ⟨value, isValue, onList⟩ :=
      (inv.waiting psOffsetStruct).mp (List.mem_of_find?_eq_some found)
    have test := List.find?_some found
    rw [isValue, any_some] at test
    exact ⟨psOffsetStruct, value, rfl, isValue, onList, test⟩
  | none =>
    right
    refine ⟨rfl, fun psOffsetStruct value isValue onList => ?_⟩
    have member := (inv.waiting psOffsetStruct).mpr ⟨value, isValue, onList⟩
    have fails := List.find?_eq_none.mp found psOffsetStruct member
    rw [isValue, any_some, Bool.not_eq_true] at fails
    exact fails

/-- The invariant and unambiguous offsets make a state good. -/
theorem Inv.good
    (resolved : state.Resolved) :
    state.Good where
  resolves := by
    intro ui32PID ui32Offset ui32RealByteSize psOffsetStruct finds
    rcases inv.find_offset ui32Offset ui32RealByteSize ui32PID with
      ⟨found, value, result, isValue, onList, test⟩ | ⟨result, _⟩
    · rw [result] at finds
      cases finds
      obtain ⟨rfl, rfl, rfl⟩ := OffsetStruct.fits_iff.mp test
      exact ⟨value, isValue, resolved.translated _ value isValue onList⟩
    · rw [result] at finds
      cases finds
  unique := by
    intro first second value other inFirst inSecond isValue isOther test
    obtain ⟨_, isValue', onList⟩ := (inv.waiting first).mp inFirst
    obtain ⟨_, isOther', onListOther⟩ := (inv.waiting second).mp inSecond
    rw [isValue] at isValue'
    rw [isOther] at isOther'
    cases isValue'
    cases isOther'
    exact resolved.unique first second value other isValue isOther onList
      onListOther test
  once := inv.once
  unmapped := inv.unmapped
  mapped := inv.mapped
  opened := inv.opened

end

/-! ## Changes of one offset structure -/

/-- Two values of an offset structure with the same area and the same key. -/
structure SameKey (value after : OffsetStruct) : Prop where
  area : after.psLinuxMemArea = value.psLinuxMemArea
  offset : after.ui32MMapOffset = value.ui32MMapOffset
  size : after.ui32RealByteSize = value.ui32RealByteSize
  process : after.ui32PID = value.ui32PID

section

variable (inv : state.Inv)
include inv

section

variable (isValue : state.offsetStructs psOffsetStruct = some value)
  (same : SameKey value changed)
include isValue same

/-- A structure whose area and key stay, with the mappings and the list of
offsets as its counter and its flag say. -/
theorem Inv.remap
    (structs : after.offsetStructs =
      update state.offsetStructs psOffsetStruct (some changed))
    (areas : after.areas = state.areas)
    (created : after.created = state.created)
    (destroyed : after.destroyed = state.destroyed)
    (distinctOffsets : after.gsMMapOffsetStructList.Nodup)
    (waiting : ∀ other, other ∈ after.gsMMapOffsetStructList ↔
      if other = psOffsetStruct then changed.bOnMMapList = true
      else other ∈ state.gsMMapOffsetStructList)
    (onList : changed.bOnMMapList = true ↔ changed.ui32Mapped = 0)
    (mapped : changed.ui32Mapped = after.mappings psOffsetStruct)
    (others : ∀ other, other ≠ psOffsetStruct →
      after.mappings other = state.mappings other)
    (opened : ∀ vma ∈ after.vmas, vma.2 = psOffsetStruct ∨ vma ∈ state.vmas)
    (distinctVmas : (after.vmas.map Prod.fst).Nodup)
    (fewVmas : after.vmas.length < 2 ^ 32) :
    after.Inv := by
  have self : after.offsetStructs psOffsetStruct = some changed := by
    rw [structs, update_self]
  have other_eq : ∀ other, other ≠ psOffsetStruct →
      after.offsetStructs other = state.offsetStructs other := by
    intro other different
    rw [structs, update_of_ne different]
  -- every structure has kept its area and its key
  have before : ∀ other value', after.offsetStructs other = some value' →
      ∃ old, state.offsetStructs other = some old ∧ SameKey old value' := by
    intro other value' isValue'
    by_cases isChanged : other = psOffsetStruct
    · rw [isChanged, self] at isValue'
      cases isValue'
      exact ⟨value, isChanged ▸ isValue, same⟩
    · rw [other_eq other isChanged] at isValue'
      exact ⟨value', isValue', rfl, rfl, rfl, rfl⟩
  have behind : ∀ other old, state.offsetStructs other = some old →
      ∃ value', after.offsetStructs other = some value' ∧
        SameKey old value' := by
    intro other old isOld
    by_cases isChanged : other = psOffsetStruct
    · rw [isChanged, isValue] at isOld
      cases isOld
      exact ⟨changed, isChanged ▸ self, same⟩
    · exact ⟨old, (other_eq other isChanged).trans isOld, rfl, rfl, rfl, rfl⟩
  refine ⟨?_, ?_, ?_, ?_, distinctOffsets, ?_, ?_, ?_, ?_, distinctVmas,
    fewVmas, ?_, ?_⟩
  · intro other value' isValue'
    obtain ⟨old, isOld, key⟩ := before other value' isValue'
    rw [areas, key.area, key.size]
    exact inv.areaOf other old isOld
  · rw [areas]
    exact inv.distinct
  · intro psLinuxMemArea area isArea other member
    rw [areas] at isArea
    obtain ⟨old, isOld, owner⟩ :=
      inv.listed psLinuxMemArea area isArea other member
    obtain ⟨value', isValue', key⟩ := behind other old isOld
    exact ⟨value', isValue', key.area.trans owner⟩
  · intro first second value' other' isFirst isSecond sameArea sameProcess
    obtain ⟨old, isOld, key⟩ := before first value' isFirst
    obtain ⟨older, isOlder, otherKey⟩ := before second other' isSecond
    apply inv.processes first second old older isOld isOlder
    · rw [← key.area, ← otherKey.area, sameArea]
    · rw [← key.process, ← otherKey.process, sameProcess]
  · intro other
    rw [waiting]
    split_ifs with isChanged
    · rw [isChanged, self]
      simp only [Option.some.injEq, exists_eq_left']
    · rw [inv.waiting, other_eq other isChanged]
  · intro other value' isValue'
    by_cases isChanged : other = psOffsetStruct
    · rw [isChanged, self] at isValue'
      cases isValue'
      exact onList
    · rw [other_eq other isChanged] at isValue'
      exact inv.onList other value' isValue'
  · intro other value' isValue'
    by_cases isChanged : other = psOffsetStruct
    · rw [isChanged, self] at isValue'
      cases isValue'
      rw [isChanged]
      exact mapped
    · rw [other_eq other isChanged] at isValue'
      rw [others other isChanged]
      exact inv.mapped other value' isValue'
  · intro vma member
    by_cases isChanged : vma.2 = psOffsetStruct
    · rw [isChanged, self, isSome_some]
    · rw [other_eq vma.2 isChanged]
      exact inv.opened vma ((opened vma member).resolve_left isChanged)
  · intro other
    have live : (after.offsetStructs other).isSome =
        (state.offsetStructs other).isSome := by
      by_cases isChanged : other = psOffsetStruct
      · rw [isChanged, self, isValue, isSome_some, isSome_some]
      · rw [other_eq other isChanged]
    rw [created, destroyed, live]
    exact inv.once other
  · rw [destroyed]
    exact inv.unmapped

/-- A change of neither the mappings nor the lists. -/
theorem Inv.setOffsetStruct
    (flag : changed.bOnMMapList = value.bOnMMapList)
    (counter : changed.ui32Mapped = value.ui32Mapped) :
    (state.setOffsetStruct psOffsetStruct changed).Inv := by
  refine inv.remap isValue same rfl rfl rfl rfl inv.distinctOffsets ?_ ?_ ?_
    (fun _ _ => rfl) (fun _ member => Or.inr member) inv.distinctVmas
    inv.fewVmas
  · intro other
    split_ifs with isChanged
    · rw [isChanged, flag]
      refine (inv.waiting psOffsetStruct).trans ?_
      rw [isValue]
      simp only [Option.some.injEq, exists_eq_left']
    · rfl
  · rw [flag, counter]
    exact inv.onList psOffsetStruct value isValue
  · rw [counter]
    exact inv.mapped psOffsetStruct value isValue

end

/-- The translations are no part of the invariant. -/
theorem Inv.withTranslations
    (translations : List Translation) :
    Inv { state with translations } :=
  ⟨inv.areaOf, inv.distinct, inv.listed, inv.processes, inv.distinctOffsets,
    inv.waiting, inv.onList, inv.mapped, inv.opened, inv.distinctVmas,
    inv.fewVmas, inv.once, inv.unmapped⟩

/-- The areas change, but those with offset structures keep their size and
their offset structures. -/
theorem Inv.withAreas
    {areas : Address → Option LinuxMemArea}
    (gsMMapAreaList : List Address)
    (old : ∀ other owned, areas other = some owned →
      owned.sMMapOffsetStructList = [] ∨
        ∃ area, state.areas other = some area ∧
          owned.sMMapOffsetStructList = area.sMMapOffsetStructList)
    (kept : ∀ other area, state.areas other = some area →
      area.sMMapOffsetStructList ≠ [] →
        ∃ owned, areas other = some owned ∧
          owned.sMMapOffsetStructList = area.sMMapOffsetStructList ∧
          owned.realByteSize = area.realByteSize) :
    Inv { state with areas, gsMMapAreaList } := by
  refine ⟨?_, ?_, ?_, inv.processes, inv.distinctOffsets, inv.waiting,
    inv.onList, inv.mapped, inv.opened, inv.distinctVmas, inv.fewVmas,
    inv.once, inv.unmapped⟩
  · intro psOffsetStruct value isValue
    obtain ⟨area, isArea, member, size⟩ :=
      inv.areaOf psOffsetStruct value isValue
    obtain ⟨owned, isOwned, list, sameSize⟩ :=
      kept _ area isArea (List.ne_nil_of_mem member)
    refine ⟨owned, isOwned, ?_, size.trans sameSize.symm⟩
    rw [list]
    exact member
  · intro other owned isOwned
    rcases old other owned isOwned with none | ⟨area, isArea, list⟩
    · rw [none]
      exact nodup_nil
    · rw [list]
      exact inv.distinct other area isArea
  · intro other owned isOwned psOffsetStruct member
    rcases old other owned isOwned with none | ⟨area, isArea, list⟩
    · rw [none] at member
      cases member
    · rw [list] at member
      exact inv.listed other area isArea psOffsetStruct member

/-- An area that keeps its size and its offset structures. -/
theorem Inv.setArea
    {changed : LinuxMemArea}
    (isArea : state.areas psLinuxMemArea = some area)
    (size : changed.realByteSize = area.realByteSize)
    (list : changed.sMMapOffsetStructList = area.sMMapOffsetStructList) :
    (state.setArea psLinuxMemArea changed).Inv := by
  refine inv.withAreas state.gsMMapAreaList ?_ ?_
  · intro other owned isOwned
    rcases update_cases isOwned with ⟨rfl, isChanged⟩ | ⟨_, isOld⟩
    · cases isChanged
      exact Or.inr ⟨area, isArea, list⟩
    · exact Or.inr ⟨owned, isOld, rfl⟩
  · intro other old isOld _
    rcases eq_or_ne other psLinuxMemArea with rfl | different
    · cases isArea.symm.trans isOld
      exact ⟨changed, update_self .., list, size⟩
    · exact ⟨old, (update_of_ne different ..).trans isOld, rfl, rfl⟩

end

/-! ## Creation and destruction -/

/-- An offset structure is gone from memory and from the lists, and with it
its mappings. -/
structure Destroyed
    (state after : MMapState) (psOffsetStruct : Address)
    (value : OffsetStruct) (area : LinuxMemArea) :
    Prop where
  structs : after.offsetStructs =
    Function.update state.offsetStructs psOffsetStruct none
  areas : after.areas =
    Function.update state.areas value.psLinuxMemArea
      (some { area with
        sMMapOffsetStructList :=
          area.sMMapOffsetStructList.erase psOffsetStruct })
  areaList : after.gsMMapAreaList = state.gsMMapAreaList
  waiting : after.gsMMapOffsetStructList =
    state.gsMMapOffsetStructList.erase psOffsetStruct
  created : after.created = state.created
  destroyed : after.destroyed = (psOffsetStruct, 0) :: state.destroyed
  translations : after.translations = state.translations

theorem Destroyed.inv
    (inv : state.Inv)
    (isValue : state.offsetStructs psOffsetStruct = some value)
    (isArea : state.areas value.psLinuxMemArea = some area)
    (gone : Destroyed state after psOffsetStruct value area)
    (others : ∀ other, other ≠ psOffsetStruct →
      after.mappings other = state.mappings other)
    (opened : ∀ vma ∈ after.vmas, vma.2 ≠ psOffsetStruct ∧ vma ∈ state.vmas)
    (distinctVmas : (after.vmas.map Prod.fst).Nodup)
    (fewVmas : after.vmas.length < 2 ^ 32) :
    after.Inv := by
  have self : after.offsetStructs psOffsetStruct = none := by
    rw [gone.structs, update_self]
  have other_eq : ∀ other, other ≠ psOffsetStruct →
      after.offsetStructs other = state.offsetStructs other := by
    intro other different
    rw [gone.structs, update_of_ne different]
  have before : ∀ other old, after.offsetStructs other = some old →
      other ≠ psOffsetStruct ∧ state.offsetStructs other = some old := by
    intro other old isOld
    have different : other ≠ psOffsetStruct := by
      rintro rfl
      rw [self] at isOld
      cases isOld
    exact ⟨different, (other_eq other different) ▸ isOld⟩
  have owner : after.areas value.psLinuxMemArea =
      some { area with
        sMMapOffsetStructList :=
          area.sMMapOffsetStructList.erase psOffsetStruct } := by
    rw [gone.areas, update_self]
  have otherArea : ∀ other, other ≠ value.psLinuxMemArea →
      after.areas other = state.areas other := by
    intro other different
    rw [gone.areas, update_of_ne different]
  have distinct := inv.distinct value.psLinuxMemArea area isArea
  refine ⟨?_, ?_, ?_, ?_, ?_, ?_, ?_, ?_, ?_, distinctVmas, fewVmas, ?_, ?_⟩
  · intro other old isOld
    obtain ⟨different, isOld⟩ := before other old isOld
    obtain ⟨owned, isOwned, member, size⟩ := inv.areaOf other old isOld
    by_cases same : old.psLinuxMemArea = value.psLinuxMemArea
    · rw [same, isArea] at isOwned
      cases isOwned
      rw [same, owner]
      exact ⟨_, rfl, (List.mem_erase_of_ne different).mpr member, size⟩
    · rw [otherArea _ same]
      exact ⟨owned, isOwned, member, size⟩
  · intro other owned isOwned
    by_cases same : other = value.psLinuxMemArea
    · rw [same, owner] at isOwned
      cases isOwned
      exact distinct.erase psOffsetStruct
    · rw [otherArea other same] at isOwned
      exact inv.distinct other owned isOwned
  · intro other owned isOwned member inList
    by_cases same : other = value.psLinuxMemArea
    · rw [same, owner] at isOwned
      cases isOwned
      obtain ⟨different, inList⟩ := (distinct.mem_erase_iff).mp inList
      rw [same, other_eq member different]
      exact inv.listed value.psLinuxMemArea area isArea member inList
    · rw [otherArea other same] at isOwned
      obtain ⟨old, isOld, sameOwner⟩ :=
        inv.listed other owned isOwned member inList
      have different : member ≠ psOffsetStruct := by
        rintro rfl
        rw [isValue] at isOld
        cases isOld
        exact same sameOwner.symm
      exact ⟨old, (other_eq member different).trans isOld, sameOwner⟩
  · intro first second old older isOld isOlder
    exact inv.processes first second old older (before _ _ isOld).2
      (before _ _ isOlder).2
  · rw [gone.waiting]
    exact inv.distinctOffsets.erase psOffsetStruct
  · intro other
    rw [gone.waiting, inv.distinctOffsets.mem_erase_iff, inv.waiting]
    constructor
    · rintro ⟨different, old, isOld, onList⟩
      exact ⟨old, (other_eq other different).trans isOld, onList⟩
    · rintro ⟨old, isOld, onList⟩
      exact ⟨(before other old isOld).1, old, (before other old isOld).2,
        onList⟩
  · intro other old isOld
    exact inv.onList other old (before other old isOld).2
  · intro other old isOld
    rw [others other (before other old isOld).1]
    exact inv.mapped other old (before other old isOld).2
  · intro vma member
    obtain ⟨different, member⟩ := opened vma member
    rw [other_eq vma.2 different]
    exact inv.opened vma member
  · intro other
    rw [gone.created, gone.destroyed, inv.once other, map_cons]
    by_cases same : other = psOffsetStruct
    · rw [same, self, isValue, List.count_cons_self]
      rfl
    · rw [other_eq other same, List.count_cons_of_ne (Ne.symm same)]
  · intro entry member
    rw [gone.destroyed] at member
    rcases mem_cons.mp member with rfl | member
    · rfl
    · exact inv.unmapped entry member

/-- `DestroyOffsetStruct` on an offset structure without mappings. -/
theorem Inv.destroyOffsetStruct
    (inv : state.Inv)
    (isValue : state.offsetStructs psOffsetStruct = some value)
    (unmapped : value.ui32Mapped = 0) :
    ∃ after area, state.destroyOffsetStruct psOffsetStruct = some after ∧
      state.areas value.psLinuxMemArea = some area ∧
      Destroyed state after psOffsetStruct value area ∧
      after.vmas = state.vmas ∧ after.Inv := by
  obtain ⟨area, isArea, _, _⟩ := inv.areaOf psOffsetStruct value isValue
  have waits := (inv.onList psOffsetStruct value isValue).mpr unmapped
  have result : state.destroyOffsetStruct psOffsetStruct =
      some { state with
        offsetStructs := update state.offsetStructs psOffsetStruct none
        areas := update state.areas value.psLinuxMemArea
          (some { area with
            sMMapOffsetStructList :=
              area.sMMapOffsetStructList.erase psOffsetStruct })
        gsMMapOffsetStructList :=
          state.gsMMapOffsetStructList.erase psOffsetStruct
        destroyed := (psOffsetStruct, 0) :: state.destroyed } := by
    unfold MMapState.destroyOffsetStruct
    simp only [isValue, isArea, waits, unmapped, bind_eq_bind,
      bind_some, if_true]
  refine ⟨_, area, result, isArea, ⟨rfl, rfl, rfl, rfl, rfl, rfl, rfl⟩, rfl,
    ?_⟩
  have noMapping : state.mappings psOffsetStruct = 0 := by
    rw [← inv.mapped psOffsetStruct value isValue]
    exact unmapped
  refine Destroyed.inv inv isValue isArea ⟨rfl, rfl, rfl, rfl, rfl, rfl, rfl⟩
    (fun _ _ => rfl) ?_ inv.distinctVmas inv.fewVmas
  intro vma member
  refine ⟨?_, member⟩
  rintro rfl
  have none := countP_eq_zero.mp noMapping vma member
  exact none (decide_eq_true rfl)

/-- A new offset structure, without mappings, is in its area's list and waits
for mmap. -/
structure Created
    (state after : MMapState) (psOffsetStruct : Address)
    (value : OffsetStruct) (area : LinuxMemArea) :
    Prop where
  unused : state.offsetStructs psOffsetStruct = none
  isArea : state.areas value.psLinuxMemArea = some area
  size : value.ui32RealByteSize = area.realByteSize
  onList : value.bOnMMapList = true
  notMapped : value.ui32Mapped = 0
  structs : after.offsetStructs =
    Function.update state.offsetStructs psOffsetStruct (some value)
  areas : after.areas =
    Function.update state.areas value.psLinuxMemArea
      (some { area with
        sMMapOffsetStructList :=
          area.sMMapOffsetStructList ++ [psOffsetStruct] })
  waiting : after.gsMMapOffsetStructList =
    state.gsMMapOffsetStructList ++ [psOffsetStruct]
  created : after.created = psOffsetStruct :: state.created
  destroyed : after.destroyed = state.destroyed
  vmas : after.vmas = state.vmas

namespace Created

variable {after : MMapState} {psOffsetStruct other : Address}
  {value old : OffsetStruct} {area : LinuxMemArea}

theorem self (made : Created state after psOffsetStruct value area) :
    after.offsetStructs psOffsetStruct = some value := by
  rw [made.structs, update_self]

section

variable (made : Created state after psOffsetStruct value area)
include made

theorem other_eq
    (different : other ≠ psOffsetStruct) :
    after.offsetStructs other = state.offsetStructs other := by
  rw [made.structs, update_of_ne different]

theorem live_ne
    (isOld : state.offsetStructs other = some old) :
    other ≠ psOffsetStruct := by
  rintro rfl
  rw [made.unused] at isOld
  cases isOld

theorem kept
    (isOld : state.offsetStructs other = some old) :
    after.offsetStructs other = some old :=
  (made.other_eq (made.live_ne isOld)).trans isOld

/-- An offset structure is the new one or an old one. -/
theorem cases_of_some
    (isOld : after.offsetStructs other = some old) :
    other = psOffsetStruct ∧ old = value ∨
      other ≠ psOffsetStruct ∧ state.offsetStructs other = some old := by
  by_cases isNew : other = psOffsetStruct
  · rw [isNew, made.self] at isOld
    exact Or.inl ⟨isNew, (Option.some.inj isOld).symm⟩
  · rw [made.other_eq isNew] at isOld
    exact Or.inr ⟨isNew, isOld⟩

end

theorem owner (made : Created state after psOffsetStruct value area) :
    after.areas value.psLinuxMemArea =
      some { area with
        sMMapOffsetStructList :=
          area.sMMapOffsetStructList ++ [psOffsetStruct] } := by
  rw [made.areas, update_self]

section

variable (made : Created state after psOffsetStruct value area)
include made

theorem otherArea
    (different : other ≠ value.psLinuxMemArea) :
    after.areas other = state.areas other := by
  rw [made.areas, update_of_ne different]

theorem areaOf
    (inv : state.Inv)
    (isOld : after.offsetStructs other = some old) :
    ∃ owned, after.areas old.psLinuxMemArea = some owned ∧
      other ∈ owned.sMMapOffsetStructList ∧
      old.ui32RealByteSize = owned.realByteSize := by
  obtain ⟨rfl, rfl⟩ | ⟨_, isOld⟩ := made.cases_of_some isOld
  · rw [made.owner]
    exact ⟨_, rfl, List.mem_append_right _ (List.mem_singleton_self _),
      made.size⟩
  · obtain ⟨owned, isOwned, member, size⟩ := inv.areaOf other old isOld
    by_cases same : old.psLinuxMemArea = value.psLinuxMemArea
    · rw [same, made.isArea] at isOwned
      cases isOwned
      rw [same, made.owner]
      exact ⟨_, rfl, List.mem_append_left _ member, size⟩
    · rw [made.otherArea same]
      exact ⟨owned, isOwned, member, size⟩

variable {owned : LinuxMemArea}

section

variable (inv : state.Inv)
include inv

theorem distinct
    (isOwned : after.areas other = some owned) :
    owned.sMMapOffsetStructList.Nodup := by
  by_cases same : other = value.psLinuxMemArea
  · rw [same, made.owner] at isOwned
    cases isOwned
    apply (inv.distinct _ area made.isArea).append (List.nodup_singleton _)
    apply List.disjoint_singleton.mpr
    intro member
    obtain ⟨old, isOld, _⟩ :=
      inv.listed _ area made.isArea psOffsetStruct member
    exact made.live_ne isOld rfl
  · rw [made.otherArea same] at isOwned
    exact inv.distinct other owned isOwned

theorem listed
    (isOwned : after.areas other = some owned)
    {member : Address}
    (inList : member ∈ owned.sMMapOffsetStructList) :
    ∃ old, after.offsetStructs member = some old ∧
      old.psLinuxMemArea = other := by
  by_cases same : other = value.psLinuxMemArea
  · rw [same, made.owner] at isOwned
    cases isOwned
    rcases List.mem_append.mp inList with inList | isNew
    · obtain ⟨old, isOld, sameOwner⟩ :=
        inv.listed _ area made.isArea member inList
      exact ⟨old, made.kept isOld, sameOwner.trans same.symm⟩
    · rw [List.mem_singleton.mp isNew]
      exact ⟨value, made.self, same.symm⟩
  · rw [made.otherArea same] at isOwned
    obtain ⟨old, isOld, sameOwner⟩ :=
      inv.listed other owned isOwned member inList
    exact ⟨old, made.kept isOld, sameOwner⟩

theorem processes
    (first : ∀ other old, state.offsetStructs other = some old →
      old.psLinuxMemArea = value.psLinuxMemArea →
        old.ui32PID ≠ value.ui32PID)
    {another : Address}
    {older : OffsetStruct}
    (isOld : after.offsetStructs other = some old)
    (isOlder : after.offsetStructs another = some older)
    (sameArea : old.psLinuxMemArea = older.psLinuxMemArea)
    (sameProcess : old.ui32PID = older.ui32PID) :
    other = another := by
  obtain ⟨isNew, rfl⟩ | ⟨_, isOld⟩ := made.cases_of_some isOld
  · obtain ⟨isNewToo, _⟩ | ⟨_, isOlder⟩ := made.cases_of_some isOlder
    · exact isNew.trans isNewToo.symm
    · exact absurd sameProcess.symm (first another older isOlder sameArea.symm)
  · obtain ⟨_, rfl⟩ | ⟨_, isOlder⟩ := made.cases_of_some isOlder
    · exact absurd sameProcess (first other old isOld sameArea)
    · exact inv.processes other another old older isOld isOlder sameArea
        sameProcess

theorem waiting_iff
    (other : Address) :
    other ∈ after.gsMMapOffsetStructList ↔
      ∃ old, after.offsetStructs other = some old ∧
        old.bOnMMapList = true := by
  rw [made.waiting, List.mem_append, List.mem_singleton, inv.waiting]
  by_cases isNew : other = psOffsetStruct
  · rw [isNew, made.self]
    exact iff_of_true (Or.inr rfl) ⟨value, rfl, made.onList⟩
  · rw [made.other_eq isNew]
    exact or_iff_left isNew

theorem distinctOffsets :
    after.gsMMapOffsetStructList.Nodup := by
  rw [made.waiting]
  apply inv.distinctOffsets.append (List.nodup_singleton _)
  apply List.disjoint_singleton.mpr
  intro member
  obtain ⟨old, isOld, _⟩ := (inv.waiting psOffsetStruct).mp member
  exact made.live_ne isOld rfl

theorem mapped
    (isOld : after.offsetStructs other = some old) :
    old.ui32Mapped = after.mappings other := by
  have sameMappings : after.mappings other = state.mappings other := by
    unfold mappings
    rw [made.vmas]
  rw [sameMappings]
  obtain ⟨rfl, rfl⟩ | ⟨_, isOld⟩ := made.cases_of_some isOld
  · rw [made.notMapped]
    symm
    unfold mappings
    apply countP_eq_zero.mpr
    intro vma member same
    have alive := inv.opened vma member
    rw [of_decide_eq_true same, made.unused] at alive
    cases alive
  · exact inv.mapped other old isOld

theorem once
    (other : Address) :
    after.created.count other =
      (after.destroyed.map Prod.fst).count other +
        if (after.offsetStructs other).isSome then 1 else 0 := by
  rw [made.created, made.destroyed]
  by_cases isNew : other = psOffsetStruct
  · have once := inv.once psOffsetStruct
    rw [made.unused] at once
    rw [isNew, made.self, List.count_cons_self, once]
    rfl
  · rw [made.other_eq isNew, List.count_cons_of_ne (Ne.symm isNew)]
    exact inv.once other

end

/-- An offset structure of a process that has none of the area. -/
theorem inv
    (before : state.Inv)
    (first : ∀ other old, state.offsetStructs other = some old →
      old.psLinuxMemArea = value.psLinuxMemArea →
        old.ui32PID ≠ value.ui32PID) :
    after.Inv where
  areaOf _ _ := made.areaOf before
  distinct _ _ := made.distinct before
  listed _ _ isOwned _ := made.listed before isOwned
  processes _ _ _ _ := made.processes before first
  distinctOffsets := made.distinctOffsets before
  waiting := made.waiting_iff before
  onList other old isOld := by
    obtain ⟨_, rfl⟩ | ⟨_, isOld⟩ := made.cases_of_some isOld
    · exact iff_of_true made.onList made.notMapped
    · exact before.onList other old isOld
  mapped _ _ := made.mapped before
  opened vma member := by
    rw [made.vmas] at member
    obtain ⟨old, isOld⟩ := isSome_iff_exists.mp (before.opened vma member)
    rw [made.kept isOld]
    rfl
  distinctVmas := by
    rw [made.vmas]
    exact before.distinctVmas
  fewVmas := by
    rw [made.vmas]
    exact before.fewVmas
  once := made.once before
  unmapped := by
    rw [made.destroyed]
    exact before.unmapped

end

end Created

/-- A new offset structure of a process that has none of the area. -/
theorem Inv.createOffsetStruct
    (inv : state.Inv)
    (isArea : state.areas psLinuxMemArea = some area)
    (unused : state.offsetStructs psOffsetStruct = none)
    (first : ∀ other value, state.offsetStructs other = some value →
      value.psLinuxMemArea = psLinuxMemArea → value.ui32PID ≠ ui32PID)
    (ui32Offset : Nat) :
    (state.createOffsetStruct psLinuxMemArea area ui32Offset
      area.realByteSize ui32PID psOffsetStruct).Inv := by
  have made : Created state
      (state.createOffsetStruct psLinuxMemArea area ui32Offset
        area.realByteSize ui32PID psOffsetStruct)
      psOffsetStruct
      { ui32Mapped := 0
        ui32MMapOffset := ui32Offset
        ui32RealByteSize := area.realByteSize
        psLinuxMemArea
        ui32PID
        bOnMMapList := true
        ui32RefCount := 1
        ui32UserVAddr := 0 } area :=
    ⟨unused, isArea, rfl, rfl, rfl, rfl, rfl, rfl, rfl, rfl, rfl⟩
  exact made.inv inv first

/-- A new area has no offset structure. -/
theorem Inv.registerArea
    (inv : state.Inv)
    (unused : state.areas psLinuxMemArea = none)
    (ui32ByteSize cpuPAddr : Nat)
    (ui32AreaFlags : BitVec 32)
    (bNeedsCacheInvalidate : Bool) :
    (state.pvrMMapRegisterArea psLinuxMemArea ui32ByteSize cpuPAddr
      ui32AreaFlags bNeedsCacheInvalidate).Inv := by
  refine inv.withAreas _ ?_ ?_
  · intro other owned isOwned
    rcases update_cases isOwned with ⟨_, isNew⟩ | ⟨_, isOld⟩
    · cases isNew
      exact Or.inl rfl
    · exact Or.inr ⟨owned, isOld, rfl⟩
  · intro other old isOld _
    have different : other ≠ psLinuxMemArea := by
      rintro rfl
      cases unused.symm.trans isOld
    exact ⟨old, (update_of_ne different ..).trans isOld, rfl, rfl⟩

/-- An area without offset structures goes. -/
theorem Inv.removeArea
    (inv : state.Inv)
    (isArea : state.areas psLinuxMemArea = some area)
    (none : area.sMMapOffsetStructList = [])
    (gsMMapAreaList : List Address) :
    Inv
      { state with
        areas := update state.areas psLinuxMemArea Option.none
        gsMMapAreaList } := by
  refine inv.withAreas gsMMapAreaList ?_ ?_
  · intro other owned isOwned
    rcases update_cases isOwned with ⟨_, isNone⟩ | ⟨_, isOld⟩
    · cases isNone
    · exact Or.inr ⟨owned, isOld, rfl⟩
  · intro other old isOld filled
    have different : other ≠ psLinuxMemArea := by
      rintro rfl
      cases isArea.symm.trans isOld
      exact filled none
    exact ⟨old, (update_of_ne different ..).trans isOld, rfl, rfl⟩

/-! ## What waits for mmap -/

/-- No offset structure begins to wait for mmap. -/
def WaitsLess (state after : MMapState) : Prop :=
  ∀ psOffsetStruct changed,
    after.offsetStructs psOffsetStruct = some changed →
    changed.bOnMMapList = true →
    ∃ value, state.offsetStructs psOffsetStruct = some value ∧
      value.bOnMMapList = true ∧ SameKey value changed

theorem WaitsLess.refl (state : MMapState) : WaitsLess state state :=
  fun _ value isValue onList => ⟨value, isValue, onList, rfl, rfl, rfl, rfl⟩

theorem SameKey.fits
    (same : SameKey value changed) :
    changed.fits = value.fits := by
  funext ui32Offset ui32RealByteSize ui32PID
  rw [OffsetStruct.fits, OffsetStruct.fits, same.offset, same.size,
    same.process]

theorem SameKey.trans
    {last : OffsetStruct}
    (first : SameKey value changed)
    (second : SameKey changed last) :
    SameKey value last where
  area := second.area.trans first.area
  offset := second.offset.trans first.offset
  size := second.size.trans first.size
  process := second.process.trans first.process

theorem WaitsLess.trans
    (first : WaitsLess state middle)
    (second : WaitsLess middle after) :
    WaitsLess state after := by
  intro psOffsetStruct changed isChanged onList
  obtain ⟨value, isValue, waits, same⟩ :=
    second psOffsetStruct changed isChanged onList
  obtain ⟨oldest, isOldest, waited, sameToo⟩ :=
    first psOffsetStruct value isValue waits
  exact ⟨oldest, isOldest, waited, sameToo.trans same⟩

/-- One offset structure changes, and does not begin to wait. -/
theorem WaitsLess.of_update
    (isValue : state.offsetStructs psOffsetStruct = some value)
    (structs : after.offsetStructs =
      update state.offsetStructs psOffsetStruct (some changed))
    (same : SameKey value changed)
    (flag : changed.bOnMMapList = true → value.bOnMMapList = true) :
    WaitsLess state after := by
  intro other last isLast onList
  rw [structs] at isLast
  by_cases isChanged : other = psOffsetStruct
  · rw [isChanged, update_self] at isLast
    cases isLast
    rw [isChanged]
    exact ⟨value, isValue, flag onList, same⟩
  · rw [update_of_ne isChanged] at isLast
    exact ⟨last, isLast, onList, rfl, rfl, rfl, rfl⟩

variable {after : MMapState}

theorem Destroyed.waitsLess
    {psOffsetStruct : Address}
    {value : OffsetStruct}
    {area : LinuxMemArea}
    (gone : Destroyed state after psOffsetStruct value area) :
    WaitsLess state after := by
  intro other last isLast onList
  rw [gone.structs] at isLast
  by_cases isGone : other = psOffsetStruct
  · rw [isGone, update_self] at isLast
    cases isLast
  · rw [update_of_ne isGone] at isLast
    exact ⟨last, isLast, onList, rfl, rfl, rfl, rfl⟩

theorem Resolved.of_waitsLess
    (resolved : state.Resolved)
    (less : WaitsLess state after)
    (translations : after.translations = state.translations) :
    after.Resolved where
  translated := by
    intro psOffsetStruct changed isChanged onList
    obtain ⟨value, isValue, waits, same⟩ :=
      less psOffsetStruct changed isChanged onList
    rw [lastTranslated, translations, same.process, same.offset, same.size,
      same.area]
    exact resolved.translated psOffsetStruct value isValue waits
  unique := by
    intro first second changed other isChanged isOther onList onListOther test
    obtain ⟨value, isValue, waits, same⟩ := less first changed isChanged onList
    obtain ⟨older, isOlder, waitsToo, sameOther⟩ :=
      less second other isOther onListOther
    apply resolved.unique first second value older isValue isOlder waits
      waitsToo
    rwa [sameOther.offset, sameOther.size, sameOther.process, same.fits]
      at test

/-- A call that keeps the invariant, and after which no other offset
structure waits for mmap. -/
structure Calm (state after : MMapState) : Prop where
  inv : after.Inv
  less : WaitsLess state after
  translations : after.translations = state.translations

theorem Destroyed.calm
    (gone : Destroyed state middle psOffsetStruct value area)
    (calm : Calm middle after) :
    Calm state after :=
  ⟨calm.inv, gone.waitsLess.trans calm.less,
    calm.translations.trans gone.translations⟩

theorem Inv.calm (inv : state.Inv) : Calm state state :=
  ⟨inv, WaitsLess.refl state, rfl⟩

/-- What comes of a call that does not translate. -/
theorem Calm.step
    (calm : Calm state after)
    {clear : Prop}
    (always : clear) :
    after.Inv ∧ (state.Resolved → clear → after.Resolved) ∧
      (after.Good → clear) :=
  ⟨calm.inv,
    fun resolved _ => resolved.of_waitsLess calm.less calm.translations,
    fun _ => always⟩

/-! ## Translations -/

/-- What a translation that returns leaves. -/
structure Translated
    (state after : MMapState) (ui32PID : Nat) (psLinuxMemArea : Address)
    (area : LinuxMemArea) (allocated : Option Address)
    (ui32Offset : Nat) :
    Prop where
  translations : after.translations =
    { ui32PID
      ui32MMapOffset := ui32Offset
      ui32RealByteSize := area.realByteSize
      psLinuxMemArea } :: state.translations
  waits : ∀ psOffsetStruct changed,
    after.offsetStructs psOffsetStruct = some changed →
    changed.bOnMMapList = true →
    (∃ value, state.offsetStructs psOffsetStruct = some value ∧
        value.bOnMMapList = true ∧ SameKey value changed) ∨
      allocated = some psOffsetStruct ∧
        changed.psLinuxMemArea = psLinuxMemArea ∧
        changed.fits ui32Offset area.realByteSize ui32PID = true ∧
        ∀ other value, state.offsetStructs other = some value →
          value.psLinuxMemArea = psLinuxMemArea → value.ui32PID ≠ ui32PID
  kept : ∀ psOffsetStruct value,
    state.offsetStructs psOffsetStruct = some value →
    ∃ changed, after.offsetStructs psOffsetStruct = some changed ∧
      changed.bOnMMapList = value.bOnMMapList ∧ SameKey value changed

/-- A translation returns.  Unless the area or the memory for an offset
structure is missing, it hands out its offset. -/
theorem Inv.translate
    (inv : state.Inv)
    {ui32PID hMHandle : Nat}
    {psLinuxMemArea : Address}
    {area : LinuxMemArea}
    {allocated : Option Address}
    (isArea : state.areas psLinuxMemArea = some area)
    (unused : ∀ psOffsetStruct ∈ allocated,
      state.offsetStructs psOffsetStruct = none) :
    ∃ after result,
      state.pvrMMapOSMemHandleToMMapData ui32PID hMHandle
          (some psLinuxMemArea) allocated = some (after, result) ∧
        after.Inv ∧
        ((state.translationOffset ui32PID hMHandle area allocated = none ∧
            after = state) ∨
          ∃ ui32Offset,
            state.translationOffset ui32PID hMHandle area allocated =
                some ui32Offset ∧
              Translated state after ui32PID psLinuxMemArea area allocated
                ui32Offset) := by
  unfold pvrMMapOSMemHandleToMMapData translationOffset
  rcases inv.find_process isArea ui32PID with
    ⟨psOffsetStruct, value, found, isValue, sameArea, samePid⟩ |
    ⟨found, first⟩
  · have same : SameKey value
        { value with ui32RefCount := (value.ui32RefCount + 1) % 2 ^ 32 } :=
      ⟨rfl, rfl, rfl, rfl⟩
    simp only [isArea, found, isValue, bind_eq_bind, bind_some, map_some]
    refine ⟨_, _, rfl,
      (inv.setOffsetStruct isValue same rfl rfl).withTranslations _,
      Or.inr ⟨value.ui32MMapOffset, rfl, rfl, ?_, ?_⟩⟩
    · intro other changed isChanged onList
      left
      exact WaitsLess.of_update isValue rfl same (fun waits => waits) other
        changed isChanged onList
    · intro other old isOld
      by_cases isChanged : other = psOffsetStruct
      · rw [isChanged, isValue] at isOld
        cases isOld
        rw [isChanged]
        exact ⟨_, update_self psOffsetStruct _ _, rfl, same⟩
      · refine ⟨old, ?_, rfl, rfl, rfl, rfl, rfl⟩
        rw [← isOld]
        exact update_of_ne isChanged _ _
  · simp only [isArea, found, bind_eq_bind, bind_some]
    cases allocated with
    | none => exact ⟨state, _, rfl, inv, Or.inl ⟨rfl, rfl⟩⟩
    | some psOffsetStruct =>
      have free := unused psOffsetStruct rfl
      simp only [free, Option.isSome_none, Bool.false_eq_true, if_false,
        map_some]
      refine ⟨_, _, rfl, (inv.createOffsetStruct isArea free first
        (handleToMMapOffset hMHandle)).withTranslations _,
        Or.inr ⟨_, rfl, rfl, ?_, ?_⟩⟩
      · intro other changed isChanged onList
        by_cases isNew : other = psOffsetStruct
        · right
          rw [isNew] at isChanged
          have value := Option.some.inj
            ((update_self psOffsetStruct _
              state.offsetStructs).symm.trans isChanged)
          rw [← value, isNew]
          exact ⟨rfl, rfl, OffsetStruct.fits_iff.mpr ⟨rfl, rfl, rfl⟩, first⟩
        · left
          refine ⟨changed, ?_, onList, rfl, rfl, rfl, rfl⟩
          rw [← isChanged]
          exact (update_of_ne isNew _ _).symm
      · intro other old isOld
        have different : other ≠ psOffsetStruct := by
          rintro rfl
          rw [free] at isOld
          cases isOld
        refine ⟨old, ?_, rfl, rfl, rfl, rfl, rfl⟩
        rw [← isOld]
        exact update_of_ne different _ _

/-- After a translation that returns an offset, that offset was translated
last, and the other ones as before. -/
theorem Translated.lastTranslated
    (translated : Translated state after ui32PID psLinuxMemArea area
      allocated ui32Offset)
    (value : OffsetStruct) :
    after.lastTranslated value.ui32PID value.ui32MMapOffset
        value.ui32RealByteSize =
      if value.fits ui32Offset area.realByteSize ui32PID then
        some psLinuxMemArea
      else state.lastTranslated value.ui32PID value.ui32MMapOffset
        value.ui32RealByteSize := by
  unfold MMapState.lastTranslated
  rw [translated.translations, List.find?_cons]
  by_cases test : value.fits ui32Offset area.realByteSize ui32PID = true
  · obtain ⟨offset, size, process⟩ := OffsetStruct.fits_iff.mp test
    rw [if_pos test]
    simp only [offset, size, process, and_self, decide_true, map_some]
  · have different : ¬ (ui32PID = value.ui32PID ∧
        ui32Offset = value.ui32MMapOffset ∧
        area.realByteSize = value.ui32RealByteSize) := by
      rintro ⟨process, offset, size⟩
      exact test (OffsetStruct.fits_iff.mpr ⟨offset, size, process.symm⟩)
    simp only [different, test, decide_false, if_false, Bool.false_eq_true]

/-- A clear translation keeps the offsets unambiguous. -/
theorem Resolved.translate
    (resolved : state.Resolved)
    {ui32PID ui32Offset : Nat}
    {psLinuxMemArea : Address}
    {area : LinuxMemArea}
    {allocated : Option Address}
    (translated : Translated state after ui32PID psLinuxMemArea area
      allocated ui32Offset)
    (clear : ∀ psOffsetStruct value,
      state.offsetStructs psOffsetStruct = some value →
      value.bOnMMapList = true →
      value.fits ui32Offset area.realByteSize ui32PID = true →
      value.psLinuxMemArea = psLinuxMemArea) :
    after.Resolved where
  translated := by
    intro psOffsetStruct changed isChanged onList
    rw [translated.lastTranslated changed]
    rcases translated.waits psOffsetStruct changed isChanged onList with
      ⟨value, isValue, waits, same⟩ | ⟨_, sameArea, test, _⟩
    · split_ifs with test
      · rw [same.fits] at test
        rw [same.area, clear psOffsetStruct value isValue waits test]
      · rw [same.process, same.offset, same.size, same.area]
        exact resolved.translated psOffsetStruct value isValue waits
    · rw [if_pos test, sameArea]
  unique := by
    intro first second changed other isChanged isOther onList onListOther test
    have keys := OffsetStruct.fits_iff.mp test
    rcases translated.waits first changed isChanged onList with
      ⟨value, isValue, waits, same⟩ | ⟨isNew, _, newKey, alone⟩
    · rcases translated.waits second other isOther onListOther with
        ⟨older, isOlder, waitsToo, sameOther⟩ | ⟨_, _, newKey, alone⟩
      · apply resolved.unique first second value older isValue isOlder waits
          waitsToo
        rwa [sameOther.offset, sameOther.size, sameOther.process, same.fits]
          at test
      · obtain ⟨offset, size, process⟩ := OffsetStruct.fits_iff.mp newKey
        rw [← offset, ← size, process, same.offset, same.size,
          same.process] at keys
        have owner := clear first value isValue waits
          (OffsetStruct.fits_iff.mpr keys)
        exact absurd keys.2.2 (alone first value isValue owner)
    · rcases translated.waits second other isOther onListOther with
        ⟨older, isOlder, waitsToo, sameOther⟩ | ⟨isNewToo, _, _, _⟩
      · obtain ⟨offset, size, process⟩ := OffsetStruct.fits_iff.mp newKey
        rw [← offset, ← size, process, sameOther.offset, sameOther.size,
          sameOther.process] at keys
        have owner := clear second older isOlder waitsToo
          (OffsetStruct.fits_iff.mpr
            ⟨keys.1.symm, keys.2.1.symm, keys.2.2.symm⟩)
        exact absurd keys.2.2.symm (alone second older isOlder owner)
      · rw [isNew] at isNewToo
        exact Option.some.inj isNewToo

/-- A translation that is not clear leaves an offset that mmap resolves to
another area, or ambiguously. -/
theorem Translated.not_good
    (inv : after.Inv)
    (translated : Translated state after ui32PID psLinuxMemArea area
      allocated ui32Offset)
    (isValue : state.offsetStructs psOffsetStruct = some value)
    (waits : value.bOnMMapList = true)
    (test : value.fits ui32Offset area.realByteSize ui32PID = true)
    (foreign : value.psLinuxMemArea ≠ psLinuxMemArea) :
    ¬ after.Good := by
  intro good
  obtain ⟨changed, isChanged, flag, same⟩ :=
    translated.kept psOffsetStruct value isValue
  obtain ⟨offset, size, process⟩ := OffsetStruct.fits_iff.mp test
  have stillWaits : changed.bOnMMapList = true := flag.trans waits
  have stillFits : changed.fits ui32Offset area.realByteSize ui32PID =
      true := by
    rw [same.fits]
    exact test
  rcases inv.find_offset ui32Offset area.realByteSize ui32PID with
    ⟨found, other, result, isOther, otherWaits, otherFits⟩ | ⟨_, none⟩
  · obtain ⟨resolvedTo, isResolved, last⟩ := good.resolves _ _ _ _ result
    rw [isOther] at isResolved
    cases isResolved
    have lastHere := translated.lastTranslated value
    rw [if_pos test, process, ← offset, ← size, last] at lastHere
    have sameStruct : found = psOffsetStruct := by
      apply good.unique found psOffsetStruct other changed
        ((inv.waiting found).mpr ⟨other, isOther, otherWaits⟩)
        ((inv.waiting psOffsetStruct).mpr ⟨changed, isChanged, stillWaits⟩)
        isOther isChanged
      obtain ⟨otherOffset, otherSize, otherProcess⟩ :=
        OffsetStruct.fits_iff.mp otherFits
      rw [OffsetStruct.fits_iff, same.offset, same.size, same.process,
        ← offset, ← size, process]
      exact ⟨otherOffset, otherSize, otherProcess⟩
    rw [sameStruct, isChanged] at isOther
    cases isOther
    apply foreign
    rw [← same.area]
    exact Option.some.inj lastHere
  · have fails := none psOffsetStruct changed isChanged stillWaits
    rw [stillFits] at fails
    cases fails

/-! ## Mappings -/

theorem mappings_cons
    (vmas : after.vmas = (psVma, psOffsetStruct) :: state.vmas)
    (other : Address) :
    after.mappings other =
      state.mappings other + if other = psOffsetStruct then 1 else 0 := by
  unfold mappings
  rw [vmas, List.countP_cons]
  simp only [decide_eq_true_eq, eq_comm (a := other)]

theorem mappings_erase
    {psVma psOffsetStruct : Address}
    (open' : (psVma, psOffsetStruct) ∈ state.vmas)
    (vmas : after.vmas = state.vmas.erase (psVma, psOffsetStruct))
    (other : Address) :
    state.mappings other =
      after.mappings other + if other = psOffsetStruct then 1 else 0 := by
  have perm := List.perm_cons_erase open'
  unfold mappings
  rw [vmas, perm.countP_eq, List.countP_cons]
  simp only [decide_eq_true_eq, eq_comm (a := other)]

section

variable (inv : state.Inv)
include inv

/-- One more mapping of an offset structure. -/
theorem Inv.open
    (isValue : state.offsetStructs psOffsetStruct = some value)
    (same : SameKey value changed)
    (flag : changed.bOnMMapList = false)
    (counter : changed.ui32Mapped = value.ui32Mapped + 1)
    (structs : after.offsetStructs =
      update state.offsetStructs psOffsetStruct (some changed))
    (areas : after.areas = state.areas)
    (created : after.created = state.created)
    (destroyed : after.destroyed = state.destroyed)
    (waiting : after.gsMMapOffsetStructList =
      state.gsMMapOffsetStructList.erase psOffsetStruct)
    (vmas : after.vmas = (psVma, psOffsetStruct) :: state.vmas)
    (fresh : psVma ∉ state.vmas.map Prod.fst)
    (few : state.vmas.length + 1 < 2 ^ 32) :
    after.Inv := by
  have mappings := mappings_cons vmas
  refine inv.remap isValue same structs areas created destroyed ?_ ?_ ?_ ?_
    ?_ ?_ ?_ ?_
  · rw [waiting]
    exact inv.distinctOffsets.erase psOffsetStruct
  · intro other
    rw [waiting, inv.distinctOffsets.mem_erase_iff]
    split_ifs with isChanged
    · rw [isChanged, flag]
      simp only [ne_eq, not_true_eq_false, false_and, Bool.false_eq_true]
    · exact and_iff_right isChanged
  · rw [flag, counter]
    exact iff_of_false Bool.false_ne_true (Nat.succ_ne_zero _)
  · rw [mappings psOffsetStruct, if_pos rfl, counter,
      inv.mapped psOffsetStruct value isValue]
  · intro other different
    rw [mappings other, if_neg different, Nat.add_zero]
  · intro vma member
    rw [vmas] at member
    rcases mem_cons.mp member with rfl | member
    · exact Or.inl rfl
    · exact Or.inr member
  · rw [vmas, map_cons, List.nodup_cons]
    exact ⟨fresh, inv.distinctVmas⟩
  · rw [vmas, List.length_cons]
    exact few

/-- The counter of an offset structure is small. -/
theorem Inv.mapped_le
    (isValue : state.offsetStructs psOffsetStruct = some value) :
    value.ui32Mapped ≤ state.vmas.length := by
  rw [inv.mapped psOffsetStruct value isValue]
  exact List.countP_le_length

/-- A structure with an open mapping is counted, and does not wait. -/
theorem Inv.not_waiting
    {vma : Address × Address}
    (member : vma ∈ state.vmas)
    (isValue : state.offsetStructs vma.2 = some value) :
    value.ui32Mapped ≠ 0 ∧ value.bOnMMapList = false ∧
      vma.2 ∉ state.gsMMapOffsetStructList := by
  have positive : value.ui32Mapped ≠ 0 := by
    rw [inv.mapped _ value isValue]
    intro none
    exact countP_eq_zero.mp none _ member (decide_eq_true rfl)
  have flag : value.bOnMMapList = false := by
    rw [← Bool.not_eq_true]
    exact fun waits => positive ((inv.onList _ value isValue).mp waits)
  refine ⟨positive, flag, fun waits => ?_⟩
  obtain ⟨other, isOther, onList⟩ := (inv.waiting _).mp waits
  cases isValue.symm.trans isOther
  cases flag.symm.trans onList

/-- `MMapVOpen` on a copy of an open mapping. -/
theorem Inv.mMapVOpenNoLock
    (fresh : psVma ∉ state.vmas.map Prod.fst)
    (copied : psOffsetStruct ∈ state.vmas.map Prod.snd)
    (few : state.vmas.length + 1 < 2 ^ 32) :
    ∃ after, state.mMapVOpenNoLock psVma psOffsetStruct = some after ∧
      Calm state after := by
  obtain ⟨⟨_, _⟩, member, rfl⟩ := List.mem_map.mp copied
  obtain ⟨value, isValue⟩ := isSome_iff_exists.mp (inv.opened _ member)
  have small := inv.mapped_le isValue
  have counter : (value.ui32Mapped + 1) % 2 ^ 32 = value.ui32Mapped + 1 :=
    Nat.mod_eq_of_lt (by omega)
  obtain ⟨_, flag, notWaiting⟩ := inv.not_waiting member isValue
  have same : SameKey value
      { value with ui32Mapped := value.ui32Mapped + 1 } :=
    ⟨rfl, rfl, rfl, rfl⟩
  unfold MMapState.mMapVOpenNoLock
  simp only at isValue
  simp only [isValue, bind_eq_bind, bind_some, counter]
  refine ⟨_, rfl, ?_, WaitsLess.of_update isValue rfl same id, rfl⟩
  exact inv.open isValue same flag rfl rfl rfl rfl rfl
    (List.erase_of_not_mem notWaiting).symm rfl fresh few

/-- `MMapVClose` on an open mapping. -/
theorem Inv.mMapVCloseNoLock
    (open' : (psVma, psOffsetStruct) ∈ state.vmas) :
    ∃ after, state.mMapVCloseNoLock psVma psOffsetStruct = some after ∧
      Calm state after := by
  obtain ⟨value, isValue⟩ := isSome_iff_exists.mp (inv.opened _ open')
  simp only at isValue
  obtain ⟨area, isArea, _, _⟩ := inv.areaOf psOffsetStruct value isValue
  obtain ⟨vmas, isVmas⟩ : ∃ vmas, vmas =
      state.vmas.erase (psVma, psOffsetStruct) := ⟨_, rfl⟩
  have mappings := fun after : MMapState =>
    @mappings_erase state after psVma psOffsetStruct open'
  have counted := inv.mapped psOffsetStruct value isValue
  obtain ⟨positive, flag, notWaiting⟩ := inv.not_waiting open' isValue
  have counter : oneLess value.ui32Mapped = value.ui32Mapped - 1 := by
    rw [oneLess, if_neg positive]
  have same : SameKey value
      { value with ui32Mapped := value.ui32Mapped - 1 } :=
    ⟨rfl, rfl, rfl, rfl⟩
  have inside : ∀ vma ∈ vmas, vma ∈ state.vmas := by
    rw [isVmas]
    exact fun vma member => List.mem_of_mem_erase member
  have distinctVmas : (vmas.map Prod.fst).Nodup := by
    rw [isVmas]
    exact (inv.distinctVmas.sublist
      ((List.erase_sublist (a := (psVma, psOffsetStruct))).map Prod.fst))
  have fewVmas : vmas.length < 2 ^ 32 := by
    rw [isVmas]
    exact Nat.lt_of_le_of_lt List.length_erase_le inv.fewVmas
  unfold MMapState.mMapVCloseNoLock
  simp only [isValue, bind_eq_bind, bind_some, counter, ← isVmas]
  split_ifs with last
  · -- the last mapping takes the structure along
    unfold MMapState.destroyOffsetStruct
    simp only [MMapState.setOffsetStruct, update_self, isArea,
      bind_eq_bind, bind_some, flag, Function.update_idem,
      last, Bool.false_eq_true, if_false]
    refine ⟨_, rfl, ?_, ?_, rfl⟩
    · refine Destroyed.inv inv isValue isArea
        ⟨rfl, rfl, rfl, (List.erase_of_not_mem notWaiting).symm, rfl, rfl,
          rfl⟩ ?_ ?_ distinctVmas fewVmas
      · intro other different
        have split := mappings { state with vmas } isVmas other
        rw [if_neg different, Nat.add_zero] at split
        exact split.symm
      · intro vma member
        refine ⟨?_, inside vma member⟩
        rintro rfl
        have split := mappings { state with vmas } isVmas vma.2
        rw [if_pos rfl, ← counted] at split
        have none : MMapState.mappings { state with vmas } vma.2 = 0 := by
          omega
        exact countP_eq_zero.mp none vma member (decide_eq_true rfl)
    · exact @Destroyed.waitsLess state _ psOffsetStruct value area
        ⟨rfl, rfl, rfl, (List.erase_of_not_mem notWaiting).symm, rfl, rfl, rfl⟩
  · refine ⟨_, rfl, ?_, ?_, rfl⟩
    · refine inv.remap isValue same rfl rfl rfl rfl inv.distinctOffsets ?_
        ?_ ?_ ?_ (fun vma member => Or.inr (inside vma member)) distinctVmas
        fewVmas
      · intro other
        split_ifs with isChanged
        · rw [isChanged, flag]
          exact iff_of_false notWaiting Bool.false_ne_true
        · rfl
      · rw [flag]
        exact iff_of_false Bool.false_ne_true last
      · have split := mappings { state with vmas } isVmas psOffsetStruct
        rw [if_pos rfl, ← counted] at split
        simp only [split, Nat.add_sub_cancel]
        rfl
      · intro other different
        have split := mappings { state with vmas } isVmas other
        rw [if_neg different, Nat.add_zero] at split
        exact split.symm
    · exact WaitsLess.of_update isValue rfl same fun waits => waits

end

/-- Taking an offset structure out of the list does not matter to its
destruction. -/
theorem destroyOffsetStruct_unlist
    (isValue : state.offsetStructs psOffsetStruct = some value)
    (waits : value.bOnMMapList = true) :
    (state.unlist psOffsetStruct value).destroyOffsetStruct psOffsetStruct =
      state.destroyOffsetStruct psOffsetStruct := by
  unfold MMapState.destroyOffsetStruct
  simp only [unlist, MMapState.setOffsetStruct, update_self,
    isValue, waits, bind_eq_bind, bind_some,
    Function.update_idem, Bool.false_eq_true, if_false, if_true]

/-- mmap returns, and maps no structure that another call has found. -/
theorem Inv.pvrMMap
    (inv : state.Inv)
    (ui32PID : Nat)
    {request : MMapRequest}
    (fresh : request.psVma ∉ state.vmas.map Prod.fst)
    (few : state.vmas.length + 1 < 2 ^ 32) :
    ∃ after result, state.pvrMMap ui32PID request = some (after, result) ∧
      Calm state after := by
  unfold MMapState.pvrMMap
  rcases inv.find_offset (request.vmPgoff % 2 ^ 32)
      (request.ui32ByteSize % 2 ^ 32) ui32PID with
    ⟨psOffsetStruct, value, found, isValue, waits, _⟩ | ⟨found, _⟩
  · obtain ⟨area, isArea, _, _⟩ := inv.areaOf psOffsetStruct value isValue
    have unmapped := (inv.onList psOffsetStruct value isValue).mp waits
    obtain ⟨gone, owner, destroys, isOwner, isGone, vmas, goneInv⟩ :=
      inv.destroyOffsetStruct isValue unmapped
    have unlisted := destroyOffsetStruct_unlist isValue waits
    have destroyed : ∀ error : MMapError,
        ∃ after result, (do
          let state ← (state.unlist psOffsetStruct
            value).destroyOffsetStruct psOffsetStruct
          some (state, some value.psLinuxMemArea,
            (Except.error error : Except MMapError Unit))) =
            some (after, result) ∧
          Calm state after := by
      intro error
      rw [unlisted, destroys]
      exact ⟨gone, _, rfl, goneInv, isGone.waitsLess, isGone.translations⟩
    simp only [found, isValue, bind_eq_bind, bind_some]
    by_cases shareable : (request.vmWrite && !request.vmShared) = true
    · simp only [shareable, if_true]
      exact destroyed .invalidParams
    · have owned : (state.unlist psOffsetStruct value).areas
          value.psLinuxMemArea = some area := isArea
      simp only [shareable, owned, bind_some]
      by_cases known : (!area.knownCacheType) = true
      · simp only [known, if_true]
        exact destroyed .invalidParams
      · by_cases mapped : (!request.doMapToUser) = true
        · simp only [known, mapped, if_true]
          exact destroyed .again
        · have counter : (value.ui32Mapped + 1) % 2 ^ 32 =
              value.ui32Mapped + 1 :=
            Nat.mod_eq_of_lt (by omega)
          simp only [known, mapped]
          have flagged : (state.setArea value.psLinuxMemArea
              { area with bNeedsCacheInvalidate := false }).Inv :=
            inv.setArea isArea rfl rfl
          have same : SameKey value
              { value with
                bOnMMapList := false
                ui32UserVAddr := request.vmStart % 2 ^ 32
                ui32Mapped := value.ui32Mapped + 1 } :=
            ⟨rfl, rfl, rfl, rfl⟩
          unfold MMapState.mMapVOpenNoLock
          simp only [unlist, MMapState.setOffsetStruct, MMapState.setArea,
            update_self, Function.update_idem, counter,
            bind_eq_bind, bind_some]
          refine ⟨_, _, rfl, ?_, ?_, rfl⟩
          · exact flagged.open isValue same rfl rfl rfl rfl rfl rfl rfl rfl
              fresh few
          · exact WaitsLess.of_update isValue rfl same nofun
  · simp only [found, bind_eq_bind, bind_some]
    exact ⟨state, _, rfl, inv.calm⟩

/-! ## The other calls -/

section

variable (inv : state.Inv)
include inv

/-- `PVRMMapReleaseMMapData` changes a reference count at most. -/
theorem Inv.pvrMMapReleaseMMapData
    (ui32PID : Nat)
    {lookup : Option Address}
    (live : ∀ psLinuxMemArea ∈ lookup,
      (state.areas psLinuxMemArea).isSome = true) :
    ∃ after result,
      state.pvrMMapReleaseMMapData ui32PID lookup = some (after, result) ∧
        Calm state after := by
  unfold MMapState.pvrMMapReleaseMMapData
  cases lookup with
  | none => exact ⟨state, _, rfl, inv.calm⟩
  | some psLinuxMemArea =>
    obtain ⟨area, isArea⟩ := isSome_iff_exists.mp (live psLinuxMemArea rfl)
    rcases inv.find_process isArea ui32PID with
      ⟨psOffsetStruct, value, found, isValue, _, _⟩ | ⟨found, _⟩
    · simp only [isArea, found, isValue, bind_eq_bind, bind_some]
      have same : SameKey value
          { value with ui32RefCount := value.ui32RefCount - 1 } :=
        ⟨rfl, rfl, rfl, rfl⟩
      by_cases zero : value.ui32RefCount = 0
      · simp only [zero, if_true]
        exact ⟨state, _, rfl, inv.calm⟩
      · simp only [zero, if_false]
        exact ⟨_, _, rfl, inv.setOffsetStruct isValue same rfl rfl,
          WaitsLess.of_update isValue rfl same fun waits => waits, rfl⟩
    · simp only [isArea, found, bind_eq_bind, bind_some]
      exact ⟨state, _, rfl, inv.calm⟩

/-- The loop over the offset structures of an area, by the ones that are
left. -/
theorem Inv.destroyUnmapped
    (isArea : state.areas psLinuxMemArea = some area)
    (list : area.sMMapOffsetStructList = rest) :
    ∃ after removed owner,
      destroyUnmapped rest state = some (after, removed) ∧
        Calm state after ∧
        after.areas psLinuxMemArea = some owner ∧
        (removed = true → owner.sMMapOffsetStructList = []) := by
  induction rest generalizing state area with
  | nil => exact ⟨state, true, area, rfl, inv.calm, isArea, fun _ => list⟩
  | cons psOffsetStruct rest ih =>
    have member : psOffsetStruct ∈ area.sMMapOffsetStructList := by
      rw [list]
      exact mem_cons_self
    obtain ⟨value, isValue, sameArea⟩ :=
      inv.listed psLinuxMemArea area isArea psOffsetStruct member
    simp only [MMapState.destroyUnmapped, isValue]
    by_cases mapped : value.ui32Mapped ≠ 0
    · simp only [mapped, if_true, ne_eq, not_false_eq_true]
      exact ⟨state, false, area, rfl, inv.calm, isArea, nofun⟩
    · have unmapped : value.ui32Mapped = 0 := not_not.mp mapped
      obtain ⟨middle, owner, destroys, isOwner, gone, _, kept⟩ :=
        inv.destroyOffsetStruct isValue unmapped
      rw [sameArea, isArea] at isOwner
      cases isOwner
      have left : middle.areas psLinuxMemArea = some { area with
          sMMapOffsetStructList :=
            area.sMMapOffsetStructList.erase psOffsetStruct } := by
        rw [gone.areas, sameArea, update_self]
      obtain ⟨after, removed, owner, loops, calm, isLast, none⟩ :=
        ih kept left (by simp only [list, List.erase_cons_head])
      simp only [unmapped, ne_eq, not_true_eq_false, if_false, destroys]
      exact ⟨after, removed, owner, loops, gone.calm calm, isLast, none⟩

/-- `PVRMMapRemoveRegisteredArea` removes an area without mappings. -/
theorem Inv.pvrMMapRemoveRegisteredArea
    (live : (state.areas psLinuxMemArea).isSome = true) :
    ∃ after result,
      state.pvrMMapRemoveRegisteredArea psLinuxMemArea =
          some (after, result) ∧
        Calm state after := by
  obtain ⟨area, isArea⟩ := isSome_iff_exists.mp live
  obtain ⟨after, removed, owner, loops, calm, isOwner, none⟩ :=
    inv.destroyUnmapped isArea rfl
  unfold MMapState.pvrMMapRemoveRegisteredArea
  simp only [isArea, loops, bind_eq_bind, bind_some]
  cases removed with
  | false => exact ⟨after, _, rfl, calm⟩
  | true =>
    exact ⟨_, _, rfl, calm.inv.removeArea isOwner (none rfl) _, calm.less,
      calm.translations⟩

/-- The loop over the structures that wait for mmap, by the ones that are
left. -/
theorem Inv.destroyOfProcess
    (ui32PID : Nat)
    (waits : ∀ psOffsetStruct ∈ rest,
      psOffsetStruct ∈ state.gsMMapOffsetStructList)
    (distinct : rest.Nodup) :
    ∃ after, destroyOfProcess ui32PID rest state = some after ∧
      Calm state after := by
  induction rest generalizing state with
  | nil => exact ⟨state, rfl, inv.calm⟩
  | cons psOffsetStruct rest ih =>
    obtain ⟨notLeft, distinctRest⟩ := List.nodup_cons.mp distinct
    obtain ⟨value, isValue, onList⟩ :=
      (inv.waiting psOffsetStruct).mp (waits _ mem_cons_self)
    have waitsRest : ∀ other ∈ rest,
        other ∈ state.gsMMapOffsetStructList := fun other member =>
      waits other (List.mem_cons_of_mem psOffsetStruct member)
    simp only [MMapState.destroyOfProcess, isValue]
    split_ifs with own
    · obtain ⟨middle, _, destroys, _, gone, _, kept⟩ :=
        inv.destroyOffsetStruct isValue
          ((inv.onList psOffsetStruct value isValue).mp onList)
      have waitsStill : ∀ other ∈ rest,
          other ∈ middle.gsMMapOffsetStructList := by
        intro other member
        rw [gone.waiting]
        refine (List.mem_erase_of_ne ?_).mpr (waitsRest other member)
        rintro rfl
        exact notLeft member
      obtain ⟨after, loops, calm⟩ := ih kept waitsStill distinctRest
      simp only [destroys]
      exact ⟨after, loops, gone.calm calm⟩
    · exact ih inv waitsRest distinctRest

end

/-! ## Runs -/

/-- Every call returns and keeps the invariant.  Offsets stay unambiguous if
it is clear, and do not if it is not. -/
theorem Inv.step
    (inv : state.Inv)
    {op : MMapOp}
    (enabled : state.Enabled op) :
    ∃ after, state.step op = some after ∧ after.Inv ∧
      (state.Resolved → state.Clear op → after.Resolved) ∧
      (after.Good → state.Clear op) := by
  cases op with
  | registerArea psLinuxMemArea ui32ByteSize cpuPAddr ui32AreaFlags
      bNeedsCacheInvalidate =>
    exact ⟨_, rfl, inv.registerArea enabled ui32ByteSize cpuPAddr
      ui32AreaFlags bNeedsCacheInvalidate,
      fun resolved _ => resolved.of_waitsLess (WaitsLess.refl state) rfl,
      fun _ => trivial⟩
  | removeRegisteredArea psLinuxMemArea =>
    obtain ⟨after, result, returned, calm⟩ :=
      inv.pvrMMapRemoveRegisteredArea enabled
    refine ⟨after, ?_, calm.step trivial⟩
    simp only [MMapState.step, returned, map_some]
  | osMemHandleToMMapData ui32PID hMHandle lookup allocated =>
    cases lookup with
    | none =>
      exact ⟨state, rfl, inv, fun resolved _ => resolved, fun _ => trivial⟩
    | some psLinuxMemArea =>
      obtain ⟨area, isArea⟩ :=
        isSome_iff_exists.mp (enabled.1 psLinuxMemArea rfl)
      obtain ⟨after, result, returned, kept, effect⟩ :=
        @Inv.translate state inv ui32PID hMHandle psLinuxMemArea area
          allocated isArea enabled.2
      refine ⟨after, ?_, kept, ?_, ?_⟩
      · simp only [MMapState.step, returned, map_some]
      · intro resolved clear
        rcases effect with ⟨_, rfl⟩ | ⟨ui32Offset, offset, translated⟩
        · exact resolved
        · refine resolved.translate translated ?_
          intro psOffsetStruct value isValue waits
          exact clear area ui32Offset isArea offset psOffsetStruct
            ((inv.waiting psOffsetStruct).mpr ⟨value, isValue, waits⟩)
            value isValue
      · intro good owned ui32Offset isOwned offset psOffsetStruct member
          value isValue test
        rw [isArea] at isOwned
        cases isOwned
        rcases effect with ⟨none, _⟩ | ⟨_, some, translated⟩
        · rw [none] at offset
          cases offset
        · rw [some] at offset
          cases offset
          obtain ⟨_, isWaiting, waits⟩ :=
            (inv.waiting psOffsetStruct).mp member
          rw [isValue] at isWaiting
          cases isWaiting
          by_contra foreign
          exact translated.not_good kept isValue waits test foreign good
  | releaseMMapData ui32PID lookup =>
    obtain ⟨after, result, returned, calm⟩ :=
      inv.pvrMMapReleaseMMapData ui32PID enabled
    refine ⟨after, ?_, calm.step trivial⟩
    simp only [MMapState.step, returned, map_some]
  | mmap ui32PID request =>
    obtain ⟨after, result, returned, calm⟩ :=
      inv.pvrMMap ui32PID enabled.1 enabled.2
    refine ⟨after, ?_, calm.step trivial⟩
    simp only [MMapState.step, returned, map_some]
  | vOpen psVma psOffsetStruct =>
    obtain ⟨after, returned, calm⟩ :=
      inv.mMapVOpenNoLock enabled.1 enabled.2.1 enabled.2.2
    exact ⟨after, returned, calm.step trivial⟩
  | vClose psVma psOffsetStruct =>
    obtain ⟨after, returned, calm⟩ := inv.mMapVCloseNoLock enabled
    exact ⟨after, returned, calm.step trivial⟩
  | disconnect ui32PID =>
    obtain ⟨after, returned, calm⟩ :=
      inv.destroyOfProcess ui32PID (fun _ member => member)
        inv.distinctOffsets
    exact ⟨after, returned, calm.step trivial⟩

theorem inv_init : init.Inv where
  areaOf := nofun
  distinct := nofun
  listed := nofun
  processes := nofun
  distinctOffsets := nodup_nil
  waiting := fun _ => iff_of_false not_mem_nil nofun
  onList := nofun
  mapped := nofun
  opened := fun _ impossible => absurd impossible not_mem_nil
  distinctVmas := nodup_nil
  fewVmas := Nat.two_pow_pos 32
  once := fun _ => rfl
  unmapped := fun _ impossible => absurd impossible not_mem_nil

theorem resolved_init : init.Resolved where
  translated := nofun
  unique := nofun

theorem Inv.run
    (inv : state.Inv)
    (resolved : state.Resolved)
    {ops : List MMapOp}
    (enabled : state.EnabledRun ops) :
    state.GoodRun ops ↔ state.ClearRun ops := by
  induction ops generalizing state with
  | nil => exact iff_of_true (inv.good resolved) trivial
  | cons op ops ih =>
    obtain ⟨first, others⟩ := enabled
    obtain ⟨after, returned, kept, stays, only⟩ := inv.step first
    constructor
    · rintro ⟨_, next, isNext, good⟩
      rw [returned] at isNext
      cases isNext
      have clear : state.Clear op := by
        apply only
        cases ops with
        | nil => exact good
        | cons _ _ => exact good.1
      refine ⟨clear, fun next isNext => ?_⟩
      rw [returned] at isNext
      cases isNext
      exact (ih kept (stays resolved clear) (others after returned)).mp good
    · rintro ⟨clear, rest⟩
      exact ⟨inv.good resolved, after, returned,
        (ih kept (stays resolved clear)
          (others after returned)).mpr (rest after returned)⟩

/-- A run is good throughout exactly if each of its translations is clear:
then mmap resolves an offset to the area that was translated to it last, no
two structures wait for the same mmap, and each structure is destroyed once,
without a mapping. -/
theorem goodRun_iff_clearRun
    (ops : List MMapOp)
    (enabled : init.EnabledRun ops) :
    init.GoodRun ops ↔ init.ClearRun ops :=
  inv_init.run resolved_init enabled

/-! ## A handle that is given to another area -/

/-- Two areas, and translations of one handle to the first and then to the
second. -/
def reusedHandle : List MMapOp :=
  [.registerArea 1 4096 0x10000 pvrsrvHapUncached false,
    .registerArea 2 4096 0x20000 pvrsrvHapUncached false,
    .osMemHandleToMMapData 7 5 (some 1) (some 10),
    .osMemHandleToMMapData 7 5 (some 2) (some 11)]

theorem reusedHandle_enabled : init.EnabledRun reusedHandle := by
  refine ⟨rfl, fun first isFirst => ?_⟩
  cases isFirst
  refine ⟨rfl, fun second isSecond => ?_⟩
  cases isSecond
  refine ⟨⟨?_, ?_⟩, fun third isThird => ?_⟩
  · rintro _ ⟨⟩
    rfl
  · rintro _ ⟨⟩
    rfl
  cases isThird
  refine ⟨⟨?_, ?_⟩, fun _ _ => trivial⟩
  · rintro _ ⟨⟩
    rfl
  · rintro _ ⟨⟩
    rfl

/-- The first offset structure waits for mmap when the second one is made. -/
theorem reusedHandle_not_clear : ¬ init.ClearRun reusedHandle := by
  rintro ⟨_, first⟩
  obtain ⟨_, second⟩ := first _ rfl
  obtain ⟨_, third⟩ := second _ rfl
  obtain ⟨clear, _⟩ := third _ rfl
  have same := clear _ _ rfl rfl 10 mem_cons_self _ rfl (by decide)
  exact absurd same (by decide)

/-- The two translations return one offset and one size for two areas, and
mmap finds the area of the first one. -/
theorem goodRun_reusedHandle :
    ¬ ∀ ops, init.EnabledRun ops → init.GoodRun ops := by
  intro always
  have good := always reusedHandle reusedHandle_enabled
  exact reusedHandle_not_clear
    ((inv_init.run resolved_init reusedHandle_enabled).mp good)

/-- An area that is translated, mapped and unmapped. -/
theorem goodRun_iff_clearRun_mapped :
    init.GoodRun
        [.registerArea 1 4096 0x10000 pvrsrvHapUncached false,
          .osMemHandleToMMapData 7 5 (some 1) (some 10),
          .mmap 7
            { psVma := 20
              vmPgoff := 0x80000005
              ui32ByteSize := 4096
              vmStart := 0x40000000
              vmWrite := true
              vmShared := true
              doMapToUser := true },
          .vClose 20 10] ↔
      init.ClearRun
        [.registerArea 1 4096 0x10000 pvrsrvHapUncached false,
          .osMemHandleToMMapData 7 5 (some 1) (some 10),
          .mmap 7
            { psVma := 20
              vmPgoff := 0x80000005
              ui32ByteSize := 4096
              vmStart := 0x40000000
              vmWrite := true
              vmShared := true
              doMapToUser := true },
          .vClose 20 10] := by
  apply goodRun_iff_clearRun
  refine ⟨rfl, fun first isFirst => ?_⟩
  cases isFirst
  refine ⟨⟨?_, ?_⟩, fun second isSecond => ?_⟩
  · rintro _ ⟨⟩
    rfl
  · rintro _ ⟨⟩
    rfl
  cases isSecond
  refine ⟨⟨not_mem_nil, by decide⟩, fun third isThird => ?_⟩
  cases isThird
  exact ⟨mem_cons_self, fun _ _ => trivial⟩

end MMapState

end PvrServices.MMap
