import PvrServices.Resman.Base

/-!
# Connections of processes

The first connection of a process makes its per-process data: a block, an
entry in the process hash table, and four resources, each of which may fail.
The last disconnection gives all of it back.  The allocators, the handle bases
and the resource manager are known by what they answer.
-/

namespace PvrServices.PerProc

open Function (update update_apply update_eq_self update_idem update_of_ne
  update_self)
open Resman (Address PvrsrvError)

/-! ## Data -/

/-- The fields of the per-process data that name a resource: its handle in
`KERNEL_HANDLE_BASE`, its own handle base, the data of the OS layer, and the
resource manager context. -/
inductive ResourceField where
  | hPerProcData
  | psHandleBase
  | hOsPrivateData
  | hResManContext
deriving DecidableEq, Repr

/-- `PVRSRV_PER_PROCESS_DATA`, without the block allocation. -/
structure PerProcessData where
  ui32PID : BitVec 32
  ui32RefCount : BitVec 32
  fields : ResourceField → Option Nat

/-- The process hash table, the blocks of per-process data, and the live
resources of each kind with the block they were made for. -/
structure PerProcState where
  psHashTab : BitVec 32 → Option Address
  perProcs : Address → Option PerProcessData
  owners : ResourceField → Nat → Option Address

/-- `PVRSRV_ERROR_INSERT_HASH_TABLE_DATA_FAILED`. -/
abbrev pvrsrvErrorInsertHashTableDataFailed : PvrsrvError := 159

/-- What the functions called for a first connection answer. -/
structure ConnectAnswers where
  osAllocMem : Except PvrsrvError Address
  hashInsert : Bool
  osPerProcessPrivateDataInit : Except PvrsrvError Nat
  pvrsrvAllocHandle : Except PvrsrvError Nat
  pvrsrvAllocHandleBase : Except PvrsrvError Nat
  osPerProcessSetHandleOptions : Except PvrsrvError Nat
  pvrsrvResManConnect : Except PvrsrvError Nat

/-- A call that may fail, with the field its result is stored in. -/
abbrev Step := Option ResourceField × Except PvrsrvError Nat

/-- The calls between the insertion into the hash table and
`PVRSRVResManConnect`, in order. -/
def ConnectAnswers.steps (answers : ConnectAnswers) : List Step :=
  [ (some .hOsPrivateData, answers.osPerProcessPrivateDataInit)
  , (some .hPerProcData, answers.pvrsrvAllocHandle)
  , (some .psHandleBase, answers.pvrsrvAllocHandleBase)
  , (none, answers.osPerProcessSetHandleOptions) ]

namespace PerProcState

/-! ## Freeing -/

/-- Store the per-process data of a block. -/
def setData (state : PerProcState) (psPerProc : Address)
    (data : PerProcessData) : PerProcState :=
  { state with perProcs := update state.perProcs psPerProc (some data) }

/-- Give back the resource of a field, unless the field is null.  A resource
that is not live cannot be given back. -/
def release
    (state : PerProcState) (data : PerProcessData) (field : ResourceField) :
    Option PerProcState :=
  match data.fields field with
  | none => some state
  | some value =>
    if (state.owners field value).isNone then none
    else
      some { state with
        owners := update state.owners field
          (update (state.owners field) value none) }

/-- Give back the resources of some fields, up to the first that fails. -/
def releaseAll :
    PerProcState → PerProcessData → List ResourceField → PerProcState × Bool
  | state, _, [] => (state, true)
  | state, data, field :: fields =>
    match state.release data field with
    | none => (state, false)
    | some state => state.releaseAll data fields

/-- `FreePerProcessData`, and whether it returns `PVRSRV_OK`. -/
def freePerProcessData (state : PerProcState) (psPerProc : Address) :
    PerProcState × Bool :=
  match state.perProcs psPerProc with
  | none => (state, false)
  | some data =>
    match ({ state with
        psHashTab := update state.psHashTab data.ui32PID none } :
      PerProcState).releaseAll data
        [.psHandleBase, .hPerProcData, .hOsPrivateData] with
    | (state, false) => (state, false)
    | (state, true) =>
      ({ state with
        perProcs := update state.perProcs psPerProc none }, true)

/-! ## Connecting -/

/-- Store what a call returned. -/
def acquire
    (state : PerProcState) (psPerProc : Address) (field : ResourceField)
    (value : Nat) : PerProcState :=
  { state with
    perProcs := update state.perProcs psPerProc
      ((state.perProcs psPerProc).map fun data =>
        { data with fields := update data.fields field (some value) })
    owners := update state.owners field
      (update (state.owners field) value (some psPerProc)) }

/-- Make the calls up to the first one that fails. -/
def acquireAll :
    PerProcState → Address → List Step →
      PerProcState × Except PvrsrvError Unit
  | state, _, [] => (state, .ok ())
  | state, _, (_, .error eError) :: _ => (state, .error eError)
  | state, psPerProc, (none, .ok _) :: steps =>
    acquireAll state psPerProc steps
  | state, psPerProc, (some field, .ok value) :: steps =>
    acquireAll (state.acquire psPerProc field value) psPerProc steps

/-- The per-process data after `OSMemSet`. -/
def clearedData : PerProcessData where
  ui32PID := 0
  ui32RefCount := 0
  fields := fun _ => none

/-- Fill in the new per-process data. -/
def build
    (state : PerProcState) (ui32PID : BitVec 32) (psPerProc : Address)
    (answers : ConnectAnswers) :
    PerProcState × Except PvrsrvError Unit :=
  if !answers.hashInsert then
    (state.setData psPerProc clearedData,
      .error pvrsrvErrorInsertHashTableDataFailed)
  else
    let state := { state with
      psHashTab := update state.psHashTab ui32PID (some psPerProc) }
    match (state.setData psPerProc { clearedData with ui32PID }).acquireAll
        psPerProc answers.steps with
    | (state, .error eError) => (state, .error eError)
    | (state, .ok ()) =>
      match answers.pvrsrvResManConnect with
      | .error eError => (state, .error eError)
      | .ok hResManContext =>
        (state.acquire psPerProc .hResManContext hResManContext, .ok ())

/-- Change the reference count. -/
def recount
    (state : PerProcState) (psPerProc : Address)
    (change : BitVec 32 → BitVec 32) : PerProcState :=
  { state with
    perProcs := update state.perProcs psPerProc
      ((state.perProcs psPerProc).map fun data =>
        { data with ui32RefCount := change data.ui32RefCount }) }

/-- `PVRSRVPerProcessDataConnect`. -/
def connect
    (state : PerProcState) (ui32PID : BitVec 32) (answers : ConnectAnswers) :
    PerProcState × Except PvrsrvError Unit :=
  match state.psHashTab ui32PID with
  | some psPerProc => (state.recount psPerProc (· + 1), .ok ())
  | none =>
    match answers.osAllocMem with
    | .error eError => (state, .error eError)
    | .ok psPerProc =>
      match state.build ui32PID psPerProc answers with
      | (state, .ok ()) => (state.recount psPerProc (· + 1), .ok ())
      | (state, .error eError) =>
        ((state.freePerProcessData psPerProc).1, .error eError)

/-- `PVRSRVPerProcessDataDisconnect`.  The purge of `KERNEL_HANDLE_BASE` at its
end leaves the live handles alone. -/
def disconnect (state : PerProcState) (ui32PID : BitVec 32) : PerProcState :=
  match state.psHashTab ui32PID with
  | none => state
  | some psPerProc =>
    let state := state.recount psPerProc (· - 1)
    match state.perProcs psPerProc with
    | none => state
    | some data =>
      if data.ui32RefCount = 0 then
        match state.release data .hResManContext with
        | none => state
        | some state => (state.freePerProcessData psPerProc).1
      else state

end PerProcState

open PerProcState

/-! ## One block over the rest -/

/-- `before` with the block of a process over it, and the live resources of
some of its fields. -/
def holding
    (before : PerProcState)
    (psHashTab : BitVec 32 → Option Address)
    (psPerProc : Address)
    (data : PerProcessData)
    (held : List ResourceField) : PerProcState where
  psHashTab := psHashTab
  perProcs := update before.perProcs psPerProc (some data)
  owners := fun field value =>
    if field ∈ held ∧ data.fields field = some value then some psPerProc
    else before.owners field value

/-- The resources that `FreePerProcessData` gives back. -/
abbrev ownFields : List ResourceField :=
  [.psHandleBase, .hPerProcData, .hOsPrivateData]

/-- All resources of a process. -/
abbrev allFields : List ResourceField :=
  .hResManContext :: ownFields

/-- The block and the resources of a process are not in use elsewhere. -/
structure Spare
    (before : PerProcState) (psPerProc : Address) (data : PerProcessData) :
    Prop where
  block : before.perProcs psPerProc = none
  resources : ∀ field value, data.fields field = some value →
    before.owners field value = none

variable {before state : PerProcState} {psPerProc : Address}
  {data : PerProcessData} {ui32PID : BitVec 32} {answers : ConnectAnswers}
  {psHashTab : BitVec 32 → Option Address} {field : ResourceField}
  {connects : BitVec 32 → Nat}

theorem holding_recount
    {held : List ResourceField}
    (change : BitVec 32 → BitVec 32) :
    (holding before psHashTab psPerProc data held).recount psPerProc change =
      holding before psHashTab psPerProc
        { data with ui32RefCount := change data.ui32RefCount } held := by
  simp [holding, PerProcState.recount]

theorem holding_acquire
    {value : Nat}
    {held : List ResourceField}
    (member : field ∈ held)
    (empty : data.fields field = none) :
    (holding before psHashTab psPerProc data held).acquire psPerProc field
        value =
      holding before psHashTab psPerProc
        { data with fields := update data.fields field (some value) }
        held := by
  simp only [holding, acquire, update_self, Option.map_some, update_idem,
    PerProcState.mk.injEq, true_and]
  funext other item
  by_cases same : other = field
  · subst same
    simp [member, empty, update_apply, eq_comm]
  · simp [update_of_ne same]

section

variable (spare : Spare before psPerProc data)
include spare

theorem release_holding
    {held : List ResourceField}
    (notHeld : field ∉ held) :
    (holding before psHashTab psPerProc data (field :: held)).release data
        field =
      some (holding before psHashTab psPerProc data held) := by
  unfold release
  cases stored : data.fields field with
  | none =>
    simp only [holding, Option.some.injEq, PerProcState.mk.injEq, true_and]
    funext other item
    grind
  | some value =>
    have unused := spare.resources field value stored
    simp only [holding, List.mem_cons, true_or, stored, and_self, if_true,
      Option.isNone_some, Bool.false_eq_true, if_false, Option.some.injEq,
      PerProcState.mk.injEq, true_and]
    funext other item
    by_cases same : other = field
    · subst same
      simp only [update_self, update_apply]
      grind
    · simp [same]

theorem releaseAll_holding
    {fields held : List ResourceField}
    (distinct : (fields ++ held).Nodup) :
    (holding before psHashTab psPerProc data (fields ++ held)).releaseAll data
        fields =
      (holding before psHashTab psPerProc data held, true) := by
  induction fields with
  | nil => rfl
  | cons field fields ih =>
    rw [List.cons_append] at distinct ⊢
    obtain ⟨outside, distinct⟩ := List.nodup_cons.mp distinct
    rw [releaseAll, release_holding spare outside]
    exact ih distinct

/-- A block that is not connected to the resource manager can be freed without
a trace. -/
theorem freePerProcessData_holding :
    (holding before psHashTab psPerProc data ownFields).freePerProcessData
        psPerProc =
      ({ before with psHashTab := update psHashTab data.ui32PID none },
        true) := by
  have released := @releaseAll_holding before psPerProc data
    (update psHashTab data.ui32PID none) spare ownFields [] (by decide)
  have absent : update before.perProcs psPerProc none = before.perProcs := by
    rw [← spare.block, update_eq_self]
  simp only [freePerProcessData, holding, update_self, List.append_nil]
    at released ⊢
  rw [released]
  simp [absent]

/-- A disconnection gives back everything, or counts. -/
theorem disconnect_holding
    (isEntry : psHashTab data.ui32PID = some psPerProc) :
    (holding before psHashTab psPerProc data allFields).disconnect
        data.ui32PID =
      if data.ui32RefCount - 1 = 0 then
        { before with psHashTab := update psHashTab data.ui32PID none }
      else
        holding before psHashTab psPerProc
          { data with ui32RefCount := data.ui32RefCount - 1 } allFields := by
  have counted : Spare before psPerProc
      { data with ui32RefCount := data.ui32RefCount - 1 } :=
    ⟨spare.block, spare.resources⟩
  have released := @release_holding _ _ _ psHashTab .hResManContext counted
    ownFields (by decide)
  have freed := @freePerProcessData_holding _ _ _ psHashTab counted
  have entry : (holding before psHashTab psPerProc data allFields).psHashTab
      data.ui32PID = some psPerProc := isEntry
  have found : (holding before psHashTab psPerProc
      { data with ui32RefCount := data.ui32RefCount - 1 }
        allFields).perProcs psPerProc = some _ := update_self _ _ _
  unfold PerProcState.disconnect
  simp only [entry, holding_recount, found, released, freed]

end

/-! ## Making the per-process data -/

theorem Spare.acquire
    {value : Nat}
    (spare : Spare before psPerProc data)
    (fresh : before.owners field value = none) :
    Spare before psPerProc
      { data with fields := update data.fields field (some value) } := by
  refine ⟨spare.block, fun other item stored => ?_⟩
  dsimp only at stored
  by_cases same : other = field
  · rw [same, update_self] at stored
    rw [same, ← Option.some.inj stored]
    exact fresh
  · rw [update_of_ne same] at stored
    exact spare.resources other item stored

/-- The calls store what they return, all of them if none fails. -/
theorem acquireAll_holding
    {steps : List Step}
    (spare : Spare before psPerProc data)
    (distinct : (steps.filterMap Prod.fst).Nodup)
    (empty : ∀ field ∈ steps.filterMap Prod.fst, data.fields field = none)
    (fresh : ∀ field value, (some field, .ok value) ∈ steps →
      before.owners field value = none) :
    ∃ fields result,
      (holding before psHashTab psPerProc data allFields).acquireAll
          psPerProc steps =
        (holding before psHashTab psPerProc { data with fields } allFields,
          result) ∧
      Spare before psPerProc { data with fields } ∧
      (∀ field, field ∉ steps.filterMap Prod.fst →
        fields field = data.fields field) ∧
      (result = .ok () →
        ∀ field ∈ steps.filterMap Prod.fst, (fields field).isSome) := by
  induction steps generalizing data with
  | nil =>
    exact ⟨_, _, rfl, spare, fun _ _ => rfl,
      fun _ _ impossible => absurd impossible List.not_mem_nil⟩
  | cons step steps ih =>
    obtain ⟨target, result⟩ := step
    cases result with
    | error eError =>
      cases target <;>
        exact ⟨_, _, rfl, spare, fun _ _ => rfl,
          fun impossible => by cases impossible⟩
    | ok value =>
      have freshRest : ∀ field value, (some field, .ok value) ∈ steps →
          before.owners field value = none := fun field value member =>
        fresh field value (List.mem_cons_of_mem _ member)
      cases target with
      | none => exact ih spare distinct empty freshRest
      | some field =>
        obtain ⟨outside, distinct⟩ := List.nodup_cons.mp distinct
        have others : ∀ other ≠ field,
            update data.fields field (some value) other =
              data.fields other := fun other different =>
          update_of_ne different _ _
        obtain ⟨fields, result, made, spare, untouched, complete⟩ := ih
          (spare.acquire (fresh field value List.mem_cons_self)) distinct
          (fun other member => (others other fun same =>
            outside (same ▸ member)).trans
              (empty other (List.mem_cons_of_mem _ member))) freshRest
        refine ⟨fields, result, ?_, spare, fun other notIn => ?_,
          fun ok other member => ?_⟩
        · rw [acquireAll, holding_acquire (by cases field <;> decide)
            (empty field List.mem_cons_self)]
          exact made
        · obtain ⟨different, notRest⟩ := not_or.mp fun member =>
            notIn (List.mem_cons.mpr member)
          exact (untouched other notRest).trans (others other different)
        · obtain rfl | inRest := List.mem_cons.mp member
          · rw [untouched other outside]
            exact congrArg Option.isSome (update_self other _ data.fields)
          · exact complete ok other inRest

/-- What a first connection allocates is not in use. -/
structure ConnectAnswers.Fresh
    (answers : ConnectAnswers) (state : PerProcState) : Prop where
  block : ∀ psPerProc, answers.osAllocMem = .ok psPerProc →
    state.perProcs psPerProc = none
  steps : ∀ field value, (some field, .ok value) ∈ answers.steps →
    state.owners field value = none
  context : ∀ value, answers.pvrsrvResManConnect = .ok value →
    state.owners .hResManContext value = none

/-- Per-process data that are not connected to the resource manager can be
freed without a trace. -/
theorem freePerProcessData_disconnected
    (spare : Spare before psPerProc data)
    (disconnected : data.fields .hResManContext = none)
    (table : update psHashTab data.ui32PID none = before.psHashTab) :
    ((holding before psHashTab psPerProc data allFields).freePerProcessData
      psPerProc).1 = before := by
  have same := @release_holding before psPerProc data psHashTab
    .hResManContext spare ownFields (by decide)
  simp only [release, disconnected, Option.some.injEq] at same
  rw [same, freePerProcessData_holding spare, table]

theorem build_cases
    (absent : before.psHashTab ui32PID = none)
    (zero : before.psHashTab 0 = none)
    (allocated : answers.osAllocMem = .ok psPerProc)
    (fresh : answers.Fresh before) :
    (∃ after eError,
      before.build ui32PID psPerProc answers = (after, .error eError) ∧
      (after.freePerProcessData psPerProc).1 = before) ∨
    ∃ data, before.build ui32PID psPerProc answers =
        (holding before (update before.psHashTab ui32PID (some psPerProc))
          psPerProc data allFields, .ok ()) ∧
      data.ui32PID = ui32PID ∧ data.ui32RefCount = 0 ∧
      Spare before psPerProc data ∧
      ∀ field, (data.fields field).isSome := by
  have start : ∀ psHashTab ui32PID,
      ({ before with psHashTab }.setData psPerProc
        { clearedData with ui32PID }) =
      holding before psHashTab psPerProc { clearedData with ui32PID }
        allFields := fun _ _ => by simp [setData, holding, clearedData]
  have spare : ∀ ui32PID,
      Spare before psPerProc { clearedData with ui32PID } := fun _ =>
    ⟨fresh.block psPerProc allocated, by simp [clearedData]⟩
  unfold PerProcState.build
  cases answers.hashInsert with
  | false =>
    refine .inl ⟨_, _, rfl, ?_⟩
    rw [show before.setData psPerProc clearedData = _ from start _ 0]
    refine freePerProcessData_disconnected (spare 0) rfl ?_
    exact zero ▸ update_eq_self _ _
  | true =>
    have table : update (update before.psHashTab ui32PID (some psPerProc))
        ui32PID none = before.psHashTab := by
      rw [update_idem, ← absent, update_eq_self]
    have targets : answers.steps.filterMap Prod.fst =
        [.hOsPrivateData, .hPerProcData, .psHandleBase] := rfl
    obtain ⟨fields, result, made, spare, untouched, complete⟩ :=
      @acquireAll_holding before psPerProc _
        (update before.psHashTab ui32PID (some psPerProc)) answers.steps
        (spare ui32PID) (targets ▸ by decide) (fun _ _ => rfl) fresh.steps
    have disconnected : fields .hResManContext = none :=
      untouched .hResManContext (targets ▸ by decide)
    have freed := freePerProcessData_disconnected spare disconnected table
    simp only [Bool.not_true, Bool.false_eq_true, if_false, start, made]
    cases result with
    | error eError => exact .inl ⟨_, eError, rfl, freed⟩
    | ok _ =>
      cases connected : answers.pvrsrvResManConnect with
      | error eError => exact .inl ⟨_, eError, rfl, freed⟩
      | ok value =>
        dsimp only
        rw [holding_acquire (by decide) disconnected]
        refine .inr ⟨_, rfl, rfl, rfl,
          spare.acquire (fresh.context value connected), fun field => ?_⟩
        dsimp only
        by_cases same : field = .hResManContext
        · rw [same, update_self]
          rfl
        · rw [update_of_ne same]
          refine complete rfl field ?_
          rw [targets]
          cases field <;> simp at same ⊢

/-! ## Refinement -/

/-- The hash table has the processes with connections.  The block of each
counts them and has all its resources, and nothing else is allocated. -/
structure Refines (state : PerProcState) (connects : BitVec 32 → Nat) :
    Prop where
  absent : ∀ ui32PID, state.psHashTab ui32PID = none ↔ connects ui32PID = 0
  entry : ∀ ui32PID psPerProc, state.psHashTab ui32PID = some psPerProc →
    ∃ data, state.perProcs psPerProc = some data ∧
      data.ui32PID = ui32PID ∧
      data.ui32RefCount.toNat = connects ui32PID ∧
      ∀ field, (data.fields field).isSome
  listed : ∀ psPerProc data, state.perProcs psPerProc = some data →
    state.psHashTab data.ui32PID = some psPerProc
  owned : ∀ field value psPerProc,
    state.owners field value = some psPerProc ↔
      ∃ data, state.perProcs psPerProc = some data ∧
        data.fields field = some value
  zero : connects 0 = 0

namespace Refines

variable {connects : BitVec 32 → Nat}

/-- The block of a new process joins the others. -/
theorem add
    (refines : Refines before connects)
    (absent : before.psHashTab data.ui32PID = none)
    (spare : Spare before psPerProc data)
    (nonzero : data.ui32PID ≠ 0)
    (positive : data.ui32RefCount.toNat ≠ 0)
    (complete : ∀ field, (data.fields field).isSome) :
    Refines
      (holding before (update before.psHashTab data.ui32PID (some psPerProc))
        psPerProc data allFields)
      (update connects data.ui32PID data.ui32RefCount.toNat) := by
  have member : ∀ field, field ∈ allFields := by
    intro field
    cases field <;> decide
  obtain ⟨unused, unowned⟩ := spare
  obtain ⟨absent, entry, listed, owned, zero⟩ := refines
  constructor <;>
    simp only [holding, member, true_and, update_apply] <;> grind

/-- The state is what is left without a process, with the block of the process
over it. -/
theorem remove
    (refines : Refines state connects)
    (isEntry : state.psHashTab ui32PID = some psPerProc) :
    ∃ before data,
      state = holding before state.psHashTab psPerProc data allFields ∧
      before.psHashTab = update state.psHashTab ui32PID none ∧
      Refines before (update connects ui32PID 0) ∧
      Spare before psPerProc data ∧
      data.ui32PID = ui32PID ∧
      data.ui32RefCount.toNat = connects ui32PID ∧
      ∀ field, (data.fields field).isSome := by
  obtain ⟨data, found, isPID, count, complete⟩ :=
    refines.entry ui32PID psPerProc isEntry
  have isOwner : ∀ field value, data.fields field = some value →
      state.owners field value = some psPerProc := fun field value stored =>
    (refines.owned field value psPerProc).mpr ⟨data, found, stored⟩
  refine ⟨{ psHashTab := update state.psHashTab ui32PID none
            perProcs := update state.perProcs psPerProc none
            owners := fun field value =>
              if data.fields field = some value then none
              else state.owners field value }, data, ?_, rfl, ?_,
    ⟨update_self _ _ _, fun _ _ stored => if_pos stored⟩, isPID, count,
    complete⟩
  · obtain ⟨psHashTab, perProcs, owners⟩ := state
    have blocks : update perProcs psPerProc (some data) = perProcs :=
      Function.update_eq_iff.mpr ⟨found.symm, fun _ _ => rfl⟩
    simp only [holding, update_idem, blocks, PerProcState.mk.injEq, true_and]
    funext field value
    have member : field ∈ allFields := by cases field <;> decide
    simp only [member, true_and]
    split_ifs with stored
    · exact isOwner field value stored
    · rfl
  · obtain ⟨absent, entry, listed, owned, zero⟩ := refines
    constructor <;> simp only [update_apply] <;> grind

section

variable (refines : Refines state connects)
include refines

theorem nonzero
    (isEntry : state.psHashTab ui32PID = some psPerProc) :
    ui32PID ≠ 0 := by
  rintro rfl
  rw [(refines.absent 0).mpr refines.zero] at isEntry
  cases isEntry

/-- The number of connections of a process that has some changes. -/
theorem recount
    {change : BitVec 32 → BitVec 32}
    {count : Nat}
    (isEntry : state.psHashTab ui32PID = some psPerProc)
    (changed : ∀ old : BitVec 32, old.toNat = connects ui32PID →
      (change old).toNat = count)
    (positive : count ≠ 0) :
    Refines (state.recount psPerProc change)
      (update connects ui32PID count) := by
  obtain ⟨before, data, isState, hash, rest, spare, isPID, old, complete⟩ :=
    refines.remove isEntry
  have table : state.psHashTab =
      update before.psHashTab ui32PID (some psPerProc) := by
    rw [hash, update_idem, ← isEntry, update_eq_self]
  have isCount := changed data.ui32RefCount old
  subst isPID
  have added := @add before psPerProc
    { data with ui32RefCount := change data.ui32RefCount } _ rest
    (by rw [hash, update_self]) ⟨spare.block, spare.resources⟩
    (refines.nonzero isEntry) (isCount ▸ positive) complete
  dsimp only at added
  rw [isState, holding_recount, table]
  rw [update_idem, isCount] at added
  exact added

theorem disconnect :
    Refines (state.disconnect ui32PID)
      (update connects ui32PID (connects ui32PID - 1)) := by
  cases isEntry : state.psHashTab ui32PID with
  | none =>
    have unchanged : state.disconnect ui32PID = state := by
      simp only [PerProcState.disconnect, isEntry]
    have none := (refines.absent ui32PID).mp isEntry
    rw [unchanged, none, Nat.zero_sub, ← none, update_eq_self]
    exact refines
  | some psPerProc =>
    obtain ⟨before, data, isState, hash, rest, spare, isPID, old, _⟩ :=
      refines.remove isEntry
    have connected : connects ui32PID ≠ 0 := fun none => by
      rw [(refines.absent ui32PID).mpr none] at isEntry
      cases isEntry
    subst isPID
    have left := disconnect_holding spare isEntry
    rw [← isState] at left
    rw [left]
    split_ifs with last
    · have one : connects data.ui32PID - 1 = 0 := by bv_omega
      rw [one, ← hash]
      exact rest
    · rw [← holding_recount (· - 1), ← isState]
      refine refines.recount isEntry (fun count isCount => ?_) ?_
      · bv_omega
      · bv_omega

/-- A connection fails without a trace, or it counts. -/
theorem connect
    (nonzero : ui32PID ≠ 0)
    (fresh : answers.Fresh state) :
    (∃ eError, state.connect ui32PID answers = (state, .error eError)) ∨
    ∃ after, state.connect ui32PID answers = (after, .ok ()) ∧
      (connects ui32PID + 1 < 2 ^ 32 →
        Refines after (update connects ui32PID (connects ui32PID + 1))) := by
  unfold PerProcState.connect
  cases isEntry : state.psHashTab ui32PID with
  | some psPerProc =>
    refine .inr ⟨_, rfl, fun bounded => refines.recount isEntry
      (fun count isCount => ?_) (Nat.succ_ne_zero _)⟩
    bv_omega
  | none =>
    have none := (refines.absent ui32PID).mp isEntry
    cases allocated : answers.osAllocMem with
    | error eError => exact .inl ⟨eError, rfl⟩
    | ok psPerProc =>
      obtain ⟨after, eError, failed, freed⟩ | ⟨data, made, isPID, isCount,
          spare, complete⟩ := build_cases isEntry
            ((refines.absent 0).mpr refines.zero) allocated fresh
      · simp only [failed, freed]
        exact .inl ⟨eError, rfl⟩
      · subst isPID
        have one : (data.ui32RefCount + 1).toNat = 0 + 1 := by
          rw [isCount]
          rfl
        have added := @add state psPerProc
          { data with ui32RefCount := data.ui32RefCount + 1 } _ refines
          isEntry ⟨spare.block, spare.resources⟩ nonzero
          (by dsimp only; omega) complete
        simp only [made, holding_recount]
        refine .inr ⟨_, rfl, fun _ => ?_⟩
        rw [none, ← one]
        exact added

end

end Refines

/-! ## Runs -/

/-- No process is connected. -/
def initial : PerProcState where
  psHashTab := fun _ => none
  perProcs := fun _ => none
  owners := fun _ _ => none

/-- The numbers of connections after a connection has returned. -/
def counted
    (connects : BitVec 32 → Nat) (ui32PID : BitVec 32) :
    Except PvrsrvError Unit → BitVec 32 → Nat
  | .ok () => update connects ui32PID (connects ui32PID + 1)
  | .error _ => connects

/-- The states between the calls, with the number of connections each process
has.  No process has the identifier 0, and none gets 2^32 connections. -/
inductive Connected : PerProcState → (BitVec 32 → Nat) → Prop where
  | init : Connected initial fun _ => 0
  | connect
      {state : PerProcState}
      {connects : BitVec 32 → Nat}
      {ui32PID : BitVec 32}
      {answers : ConnectAnswers}
      (run : Connected state connects)
      (nonzero : ui32PID ≠ 0)
      (fresh : answers.Fresh state)
      (bounded : connects ui32PID + 1 < 2 ^ 32) :
      Connected (state.connect ui32PID answers).1
        (counted connects ui32PID (state.connect ui32PID answers).2)
  | disconnect
      {state : PerProcState}
      {connects : BitVec 32 → Nat}
      {ui32PID : BitVec 32}
      (run : Connected state connects) :
      Connected (state.disconnect ui32PID)
        (update connects ui32PID (connects ui32PID - 1))

theorem Connected.refines
    (run : Connected state connects) :
    Refines state connects := by
  induction run with
  | init =>
    exact ⟨by simp [initial], by simp [initial], by simp [initial],
      by simp [initial], rfl⟩
  | connect _ nonzero fresh bounded ih =>
    obtain ⟨eError, failed⟩ | ⟨after, connected, counts⟩ :=
      ih.connect nonzero fresh
    · rw [failed]
      exact ih
    · rw [connected]
      exact counts bounded
  | disconnect _ ih => exact ih.disconnect

/-- The hash table and the blocks count the connections of every process, and
nothing is left once all have been closed. -/
theorem connected_counts
    (run : Connected state connects) :
    Refines state connects ∧
      ((∀ ui32PID, connects ui32PID = 0) → state = initial) := by
  have refines := run.refines
  refine ⟨refines, fun closed => ?_⟩
  obtain ⟨psHashTab, perProcs, owners⟩ := state
  have noEntry : psHashTab = fun _ => none := by
    funext ui32PID
    exact (refines.absent ui32PID).mpr (closed ui32PID)
  have noBlock : perProcs = fun _ => none := by
    funext psPerProc
    cases isBlock : perProcs psPerProc with
    | none => rfl
    | some data =>
      have listed := refines.listed psPerProc data isBlock
      simp [noEntry] at listed
  have noResource : owners = fun _ _ => none := by
    funext field value
    cases isOwner : owners field value with
    | none => rfl
    | some psPerProc =>
      obtain ⟨data, isBlock, _⟩ :=
        (refines.owned field value psPerProc).mp isOwner
      simp [noBlock] at isBlock
  rw [noEntry, noBlock, noResource]
  rfl

/-- What a first connection is answered when nothing fails. -/
def firstAnswers : ConnectAnswers where
  osAllocMem := .ok 1
  hashInsert := true
  osPerProcessPrivateDataInit := .ok 2
  pvrsrvAllocHandle := .ok 3
  pvrsrvAllocHandleBase := .ok 4
  osPerProcessSetHandleOptions := .ok 0
  pvrsrvResManConnect := .ok 5

theorem connected_counts_firstAnswers :
    Refines (initial.connect 7 firstAnswers).1
      (counted (fun _ => 0) 7 (.ok ())) :=
  (connected_counts (.connect .init (by decide) ⟨fun _ _ => rfl,
    fun _ _ _ => rfl, fun _ _ => rfl⟩ (by decide))).1

/-- A connection that fails leaves everything as it was. -/
theorem connected_failed
    {eError : PvrsrvError}
    (run : Connected state connects)
    (nonzero : ui32PID ≠ 0)
    (fresh : answers.Fresh state)
    (failed : (state.connect ui32PID answers).2 = .error eError) :
    (state.connect ui32PID answers).1 = state := by
  obtain ⟨eError, failed⟩ | ⟨after, connected, counts⟩ :=
    run.refines.connect nonzero fresh
  · rw [failed]
  · rw [connected] at failed
    cases failed

theorem connected_failed_handleBase :
    (initial.connect 7
      { firstAnswers with pvrsrvAllocHandleBase := .error 1 }).1 = initial :=
  connected_failed .init (by decide) ⟨fun _ _ => rfl, fun _ _ _ => rfl,
    fun _ _ => rfl⟩ rfl

/-- The disconnection of a process that has been connected once leaves
everything as it was before. -/
theorem connected_disconnect
    (run : Connected state connects)
    (nonzero : ui32PID ≠ 0)
    (fresh : answers.Fresh state)
    (unconnected : connects ui32PID = 0)
    (connected : (state.connect ui32PID answers).2 = .ok ()) :
    (state.connect ui32PID answers).1.disconnect ui32PID = state := by
  have refines := run.refines
  have isEntry := (refines.absent ui32PID).mpr unconnected
  unfold PerProcState.connect at connected ⊢
  simp only [isEntry] at connected ⊢
  cases allocated : answers.osAllocMem with
  | error eError =>
    rw [allocated] at connected
    cases connected
  | ok psPerProc =>
    obtain ⟨after, eError, failed, freed⟩ | ⟨data, made, isPID, isCount,
        spare, _⟩ := build_cases isEntry
          ((refines.absent 0).mpr refines.zero) allocated fresh
    · simp only [allocated, failed] at connected
      cases connected
    · subst isPID
      have left := @disconnect_holding state psPerProc
        { data with ui32RefCount := data.ui32RefCount + 1 }
        (update state.psHashTab data.ui32PID (some psPerProc))
        ⟨spare.block, spare.resources⟩ (update_self _ _ _)
      have last : data.ui32RefCount + 1 - 1 = 0 := by
        rw [isCount]
        rfl
      simp only [made, holding_recount]
      refine left.trans ((if_pos last).trans ?_)
      rw [update_idem, ← isEntry, update_eq_self]

theorem connected_disconnect_firstAnswers :
    (initial.connect 7 firstAnswers).1.disconnect 7 = initial :=
  connected_disconnect .init (by decide) ⟨fun _ _ => rfl, fun _ _ _ => rfl,
    fun _ _ => rfl⟩ rfl rfl

end PvrServices.PerProc
