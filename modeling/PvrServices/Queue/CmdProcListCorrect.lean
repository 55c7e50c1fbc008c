import PvrServices.Queue.CmdProcList

/-!
# Failing registrations of command processors

A registration that fails inside its loops leaves pointers of its table
unwritten, and the removal it cleans up with reads them.  One that fails before
them removes whatever the device had registered before.
-/

namespace PvrServices.CmdProcList

open Function (update update_of_ne update_self)
open Resman
open Option (bind_eq_bind bind_eq_some_iff bind_none bind_some
  isSome_iff_exists map_eq_some_iff map_some some_ne_none)
open List (append_assoc append_nil mem_append mem_append_left mem_append_right
  mem_cons_of_mem mem_cons_self mem_map mem_singleton not_mem_nil)
open CmdRun (start)

/-! ## The contract -/

/-- The commands of a device have been processed since: the blocks and the
pointers to them are the same. -/
structure ProcessedSince (before after : CmdSystem) : Prop where
  tables : after.apsDeviceCommandData = before.apsDeviceCommandData
  arrays : ∀ {address : Address} {array : CommandArray},
    before.arrays address = some array →
      ∃ later, after.arrays address = some later ∧
        later.size = array.size ∧
          later.apsCmdCompleteData = array.apsCmdCompleteData
  completes : ∀ {address : Address} {complete : CompleteBlock},
    before.completes address = some complete →
      ∃ later, after.completes address = some later ∧
        later.size = complete.size ∧
          later.data.ui32AllocSize = complete.data.ui32AllocSize

/-- What a failing call leaves: everything it allocated is freed, nothing else
is, it has read no pointer before it was written, and the device has no
table. -/
structure Undone (ui32DevIndex : BitVec 32) (run : CmdRun) : Prop where
  freed : run.freed.Perm run.allocated
  initialised : run.uninitialisedReads = []
  unregistered : ui32DevIndex.toNat < sysDeviceCount →
    run.system.apsDeviceCommandData ui32DevIndex.toNat = 0

/-- A removal, at any time later, frees what the call has allocated. -/
def Removable
    (ui32DevIndex ui32CmdCount : BitVec 32) (run : CmdRun) : Prop :=
  ∀ later, ProcessedSince run.system later →
    ∃ removed, pvrsrvRemoveCmdProcListKM ui32DevIndex ui32CmdCount
          (start later) = some (pvrsrvOk, removed) ∧
      removed.freed.Perm run.allocated ∧
        removed.uninitialisedReads = [] ∧
          removed.system.apsDeviceCommandData ui32DevIndex.toNat = 0

/-- A registration keeps to live memory, is undone when it fails, and can be
removed when it succeeds. -/
def RegistersAtomically
    (types : CmdTypes)
    (allocator : CmdAllocator)
    (ui32DevIndex ui32CmdCount : BitVec 32)
    (system : CmdSystem) :
    Prop :=
  ∃ eError run,
    pvrsrvRegisterCmdProcListKM types allocator ui32DevIndex ui32CmdCount
        (start system) = some (eError, run) ∧
      (eError ≠ pvrsrvOk → Undone ui32DevIndex run) ∧
      (eError = pvrsrvOk → run.freed = [] ∧
        Removable ui32DevIndex ui32CmdCount run)

/-- The block of a command is there and is as long as its structure. -/
def CommandAllocated
    (types : CmdTypes) (allocator : CmdAllocator) (position : Nat × Nat) :
    Prop :=
  (allocator.complete position).isSome ∧
    sizeofCommandCompleteData ≤ (completeAllocSize types position.1).toNat

/-- Every allocation behind the array's succeeds and no size wraps to less than
what is stored in the block. -/
structure AllAllocated
    (types : CmdTypes) (allocator : CmdAllocator) (ui32CmdCount : BitVec 32) :
    Prop where
  array : ui32CmdCount.toNat * sizeofDeviceCommandData < 2 ^ 32
  commands : ∀ position ∈ tablePositions ui32CmdCount,
    CommandAllocated types allocator position

/-- When a registration is atomic: the device index is refused, or the array
cannot be allocated and the device has no table yet, or nothing fails. -/
def FailsEarlyOrNotAtAll
    (types : CmdTypes)
    (allocator : CmdAllocator)
    (ui32DevIndex ui32CmdCount : BitVec 32)
    (system : CmdSystem) :
    Prop :=
  sysDeviceCount ≤ ui32DevIndex.toNat ∨
    (allocator.array = none ∧
      system.apsDeviceCommandData ui32DevIndex.toNat = 0) ∨
    (allocator.array.isSome ∧ AllAllocated types allocator ui32CmdCount)

/-! ## Entries of a table -/

variable {system : CmdSystem} {type : Nat} {array : CommandArray}
  {psDeviceCommandData : Address}

section

variable (change : CommandArray → CommandArray)
  (live : system.arrays psDeviceCommandData = some array)
include live

theorem writeEntry_of_holds
    (holds : sizeofDeviceCommandData * (type + 1) ≤ array.size.toNat) :
    system.writeEntry psDeviceCommandData type change =
      some { system with
        arrays := update system.arrays psDeviceCommandData
          (some (change array)) } := by
  simp only [CmdSystem.writeEntry, live, if_pos holds]

theorem writeEntry_of_not_holds
    (outside : ¬ sizeofDeviceCommandData * (type + 1) ≤ array.size.toNat) :
    system.writeEntry psDeviceCommandData type change = none := by
  simp only [CmdSystem.writeEntry, live, if_neg outside]

end

theorem mem_tablePositions
    {ui32CmdCount : BitVec 32}
    {position : Nat × Nat} :
    position ∈ tablePositions ui32CmdCount ↔
      position.1 < ui32CmdCount.toNat ∧
        position.2 < dcNumCommandsPerType := by
  simp only [tablePositions, List.mem_flatMap, mem_map, List.mem_range]
  constructor
  · rintro ⟨type, typeBound, command, commandBound, rfl⟩
    exact ⟨typeBound, commandBound⟩
  · rintro ⟨typeBound, commandBound⟩
    exact ⟨position.1, typeBound, position.2, commandBound, rfl⟩

theorem tablePositions_nodup (ui32CmdCount : BitVec 32) :
    (tablePositions ui32CmdCount).Nodup := by
  rw [tablePositions, List.nodup_flatMap]
  constructor
  · intro type _
    exact List.nodup_range.map fun first second same =>
      (Prod.mk.injEq _ _ _ _ ▸ same : type = type ∧ first = second).2
  · apply List.nodup_range.imp
    intro first second different position inFirst inSecond
    obtain ⟨_, _, rfl⟩ := mem_map.mp inFirst
    obtain ⟨_, _, same⟩ := mem_map.mp inSecond
    exact different (congrArg Prod.fst same).symm

/-! ## Filling the table -/

section

variable {types : CmdTypes} {allocator : CmdAllocator}
  {psDeviceCommandData : Address} {first done positions : List (Nat × Nat)}
  {between run : CmdRun} {system : CmdSystem} {type : Nat}
  {result : PvrsrvError × CmdRun} {size ui32DevIndex ui32CmdCount : BitVec 32}
  {position : Nat × Nat} {eError : PvrsrvError}

/-- The block the allocator has for a command. -/
def commandBlock
    (types : CmdTypes) (allocator : CmdAllocator) (position : Nat × Nat) :
    Block :=
  ((allocator.complete position).getD 0, completeAllocSize types position.1)

/-- The table is filled at the positions `done`, and nowhere else. -/
structure Filled
    (types : CmdTypes)
    (allocator : CmdAllocator)
    (psDeviceCommandData : Address)
    (size : BitVec 32)
    (done : List (Nat × Nat))
    (system : CmdSystem) :
    Prop where
  array : ∃ array, system.arrays psDeviceCommandData = some array ∧
    array.size = size ∧ ∀ position, array.apsCmdCompleteData position =
      if position ∈ done then allocator.complete position else none
  allocated : ∀ position ∈ done, CommandAllocated types allocator position
  completes : ∀ position ∈ done,
    ∃ complete, system.completes (commandBlock types allocator position).1 =
        some complete ∧
      complete.size = completeAllocSize types position.1 ∧
        complete.data.ui32AllocSize = completeAllocSize types position.1

/-- A step of the registration: what `positions` need has been allocated, and
nothing was freed. -/
structure Extends
    (types : CmdTypes)
    (allocator : CmdAllocator)
    (positions : List (Nat × Nat))
    (before after : CmdRun) :
    Prop where
  allocated : after.allocated =
    before.allocated ++ positions.map (commandBlock types allocator)
  freed : after.freed = before.freed
  reads : after.uninitialisedReads = before.uninitialisedReads
  tables : after.system.apsDeviceCommandData =
    before.system.apsDeviceCommandData

theorem Extends.refl (run : CmdRun) : Extends types allocator [] run run :=
  ⟨(append_nil _).symm, rfl, rfl, rfl⟩

theorem Extends.trans
    {second : List (Nat × Nat)}
    {before after : CmdRun}
    (left : Extends types allocator first before between)
    (right : Extends types allocator second between after) :
    Extends types allocator (first ++ second) before after where
  allocated := by
    rw [right.allocated, left.allocated, append_assoc, List.map_append]
  freed := right.freed.trans left.freed
  reads := right.reads.trans left.reads
  tables := right.tables.trans left.tables

/-- A change of an entry that leaves its pointers keeps the table filled. -/
theorem Filled.writeEntry
    (filled : Filled types allocator psDeviceCommandData size done system)
    (holds : sizeofDeviceCommandData * (type + 1) ≤ size.toNat)
    (change : CommandArray → CommandArray)
    (sameSize : ∀ array, (change array).size = array.size)
    (samePointers : ∀ array,
      (change array).apsCmdCompleteData = array.apsCmdCompleteData) :
    ∃ after, system.writeEntry psDeviceCommandData type change = some after ∧
      after.apsDeviceCommandData = system.apsDeviceCommandData ∧
        Filled types allocator psDeviceCommandData size done after := by
  obtain ⟨array, live, sizeEq, pointers⟩ := filled.array
  refine ⟨_, writeEntry_of_holds change live (by rw [sizeEq]; exact holds),
    rfl, ?_, filled.allocated, filled.completes⟩
  refine ⟨change array, update_self _ _ _, ?_, ?_⟩
  · rw [sameSize, sizeEq]
  · rw [samePointers]
    exact pointers

/-- A failing allocation of the inner loop changes nothing. -/
theorem registerCommand_failed
    (run : CmdRun)
    (failed : allocator.complete position = none) :
    registerCommand types allocator psDeviceCommandData position run =
      some (pvrsrvErrorOutOfMemory, run) := by
  simp only [registerCommand, failed]

/-- A block that is too short for its structure is written past its end. -/
theorem registerCommand_short
    (run : CmdRun)
    {psCmdCompleteData : Address}
    (allocated : allocator.complete position = some psCmdCompleteData)
    (short : ¬ sizeofCommandCompleteData ≤
      (completeAllocSize types position.1).toNat) :
    registerCommand types allocator psDeviceCommandData position run =
      none := by
  simp only [registerCommand, allocated]
  cases run.system.writeEntry psDeviceCommandData position.1 _ with
  | none => rfl
  | some system => exact if_neg short

/-- A step of the inner loop fills one position. -/
theorem registerCommand_filled
    (filled : Filled types allocator psDeviceCommandData size done run.system)
    (position : Nat × Nat)
    (holds : sizeofDeviceCommandData * (position.1 + 1) ≤ size.toNat)
    (allocated : CommandAllocated types allocator position) :
    ∃ after,
      registerCommand types allocator psDeviceCommandData position run =
          some (pvrsrvOk, after) ∧
        Extends types allocator [position] run after ∧
          Filled types allocator psDeviceCommandData size (done ++ [position])
            after.system := by
  obtain ⟨psCmdCompleteData, found⟩ := isSome_iff_exists.mp allocated.1
  obtain ⟨array, live, sizeEq, pointers⟩ := filled.array
  have written := writeEntry_of_holds
    (fun array => { array with
      apsCmdCompleteData := update array.apsCmdCompleteData
        position (some psCmdCompleteData) })
    live (by rw [sizeEq]; exact holds)
  have block : commandBlock types allocator position =
      (psCmdCompleteData, completeAllocSize types position.1) := by
    rw [commandBlock, found]
    rfl
  let complete := newCompleteBlock types position.1 psCmdCompleteData
  refine ⟨{ run with
    allocated := run.allocated ++ [(psCmdCompleteData, complete.size)]
    system := { run.system with
      arrays := update run.system.arrays psDeviceCommandData
        (some { array with
          apsCmdCompleteData := update array.apsCmdCompleteData
            position (some psCmdCompleteData) })
      completes := update run.system.completes psCmdCompleteData
        (some complete) } }, ?_, ?_, ?_⟩
  · simp only [registerCommand, found, written, bind_eq_bind, bind_some]
    exact if_pos allocated.2
  · refine ⟨?_, rfl, rfl, rfl⟩
    rw [List.map_singleton, block]
    rfl
  · refine ⟨?_, ?_, ?_⟩
    · refine ⟨_, update_self _ _ _, sizeEq, ?_⟩
      intro other
      by_cases same : other = position
      · subst same
        simp only [update_self, found, mem_append,
          mem_singleton, or_true, if_true]
      · simp only [update_of_ne same, pointers, mem_append,
          mem_singleton, same, or_false]
    · intro other otherMem
      rcases mem_append.mp otherMem with before | new
      · exact filled.allocated other before
      · rw [mem_singleton.mp new]
        exact allocated
    · intro other otherMem
      by_cases same : other = position
      · subst same
        rw [block]
        exact ⟨_, update_self _ _ _, rfl, rfl⟩
      · have before : other ∈ done := by
          rcases mem_append.mp otherMem with before | new
          · exact before
          · exact absurd (mem_singleton.mp new) same
        obtain ⟨complete, completeEq, sizes⟩ := filled.completes other before
        refine ⟨complete, ?_, sizes⟩
        obtain ⟨otherBlock, otherFound⟩ :=
          isSome_iff_exists.mp (filled.allocated other before).1
        have apart : (commandBlock types allocator other).1 ≠
            psCmdCompleteData := by
          intro equal
          rw [commandBlock, otherFound] at equal
          have otherFound : allocator.complete other =
              some psCmdCompleteData := otherFound.trans (congrArg some equal)
          exact same (allocator.complete_once otherFound found)
        exact (update_of_ne apart _ _).trans completeEq

/-- What the loops of a registration come to: the table is filled at all of
`positions`, or the memory was overrun, or an allocation failed at one of them
and the table has nothing there. -/
inductive LoopResult
    (types : CmdTypes)
    (allocator : CmdAllocator)
    (psDeviceCommandData : Address)
    (size : BitVec 32)
    (done positions : List (Nat × Nat))
    (run : CmdRun) :
    Option (PvrsrvError × CmdRun) → Prop
  | filled
      {after : CmdRun}
      (extended : Extends types allocator positions run after)
      (table : Filled types allocator psDeviceCommandData size
        (done ++ positions) after.system)
      (fits : ∀ position ∈ positions,
        sizeofDeviceCommandData * (position.1 + 1) ≤ size.toNat) :
      LoopResult types allocator psDeviceCommandData size done positions run
        (some (pvrsrvOk, after))
  | overrun
      (outside : (∃ position ∈ positions,
        ¬ CommandAllocated types allocator position) ∨
          ∃ position ∈ positions,
            ¬ sizeofDeviceCommandData * (position.1 + 1) ≤ size.toNat) :
      LoopResult types allocator psDeviceCommandData size done positions run
        none
  | failed
      {after : CmdRun}
      {filledPositions : List (Nat × Nat)}
      {position : Nat × Nat}
      (positionMem : position ∈ positions)
      (unallocated : allocator.complete position = none)
      (tables : after.system.apsDeviceCommandData =
        run.system.apsDeviceCommandData)
      (table : Filled types allocator psDeviceCommandData size
        filledPositions after.system) :
      LoopResult types allocator psDeviceCommandData size done positions run
        (some (pvrsrvErrorOutOfMemory, after))

/-- The rest of a loop after positions that have been filled. -/
theorem LoopResult.after
    {rest : List (Nat × Nat)}
    {result : Option (PvrsrvError × CmdRun)}
    (later : LoopResult types allocator psDeviceCommandData size
      (done ++ first) rest between result)
    (extended : Extends types allocator first run between)
    (holds : ∀ position ∈ first,
      sizeofDeviceCommandData * (position.1 + 1) ≤ size.toNat) :
    LoopResult types allocator psDeviceCommandData size done (first ++ rest)
      run result := by
  cases later with
  | filled extendedLater table fits =>
    refine .filled (extended.trans extendedLater) ?_ ?_
    · rwa [append_assoc] at table
    · intro position positionMem
      rcases mem_append.mp positionMem with head | tail
      · exact holds position head
      · exact fits position tail
  | overrun outside =>
    refine .overrun ?_
    rcases outside with ⟨position, positionMem, bad⟩ |
      ⟨position, positionMem, bad⟩
    · exact .inl ⟨position, mem_append_right _ positionMem, bad⟩
    · exact .inr ⟨position, mem_append_right _ positionMem, bad⟩
  | failed positionMem unallocated tables table =>
    exact .failed (mem_append_right _ positionMem) unallocated
      (tables.trans extended.tables) table

theorem registerCommands_result
    (holds : sizeofDeviceCommandData * (type + 1) ≤ size.toNat)
    (commands : List Nat)
    (run : CmdRun)
    (filled :
      Filled types allocator psDeviceCommandData size done run.system) :
    LoopResult types allocator psDeviceCommandData size done
      (commands.map (type, ·)) run
      (registerCommands types allocator psDeviceCommandData type commands
        run) := by
  induction commands generalizing done run with
  | nil =>
    refine .filled (Extends.refl run) ?_ fun position positionMem =>
      absurd positionMem not_mem_nil
    rwa [List.map_nil, append_nil]
  | cons command commands ih =>
    cases found : allocator.complete (type, command) with
    | none =>
      rw [registerCommands, registerCommand_failed run found]
      exact .failed mem_cons_self found rfl filled
    | some psCmdCompleteData =>
      by_cases fits : sizeofCommandCompleteData ≤
          (completeAllocSize types type).toNat
      · obtain ⟨between, stepEq, extended, table⟩ :=
          registerCommand_filled filled (type, command) holds
            ⟨by rw [found]; rfl, fits⟩
        rw [registerCommands, stepEq]
        exact (ih between table).after extended
          fun position positionMem => mem_singleton.mp positionMem ▸ holds
      · rw [registerCommands, registerCommand_short run found fits]
        exact .overrun (.inl ⟨_, mem_cons_self, fun allocated =>
          fits allocated.2⟩)

theorem registerTypes_result
    (typeList : List Nat)
    (filled :
      Filled types allocator psDeviceCommandData size done run.system) :
    LoopResult types allocator psDeviceCommandData size done
      (typeList.flatMap fun type =>
        (List.range dcNumCommandsPerType).map (type, ·)) run
      (registerTypes types allocator psDeviceCommandData typeList run) := by
  induction typeList generalizing done run with
  | nil =>
    refine .filled (Extends.refl run) ?_ fun position positionMem =>
      absurd positionMem not_mem_nil
    rwa [List.flatMap_nil, append_nil]
  | cons type typeList ih =>
    rw [List.flatMap_cons]
    let change : CommandArray → CommandArray := fun array => { array with
      pfnCmdProc := update array.pfnCmdProc type
        (some (types.ppfnCmdProcList type))
      ui32CCBOffset := update array.ui32CCBOffset type (some 0) }
    by_cases holds : sizeofDeviceCommandData * (type + 1) ≤ size.toNat
    · obtain ⟨system, written, tables, table⟩ :=
        filled.writeEntry holds change (fun _ => rfl) fun _ => rfl
      have inner := registerCommands_result holds
        (List.range dcNumCommandsPerType) { run with system := system }
        table
      rw [registerTypes, written]
      change LoopResult types allocator psDeviceCommandData size done _ run
        ((registerCommands types allocator psDeviceCommandData type
          (List.range dcNumCommandsPerType)
          { run with system := system }).bind _)
      generalize registerCommands types allocator psDeviceCommandData type
        (List.range dcNumCommandsPerType)
        { run with system := system } = result at inner ⊢
      cases inner with
      | filled extended tableAfter fits =>
        refine (ih tableAfter).after ?_ fits
        exact ⟨extended.allocated, extended.freed, extended.reads,
          extended.tables.trans tables⟩
      | overrun outside =>
        refine .overrun ?_
        rcases outside with ⟨position, positionMem, bad⟩ |
          ⟨position, positionMem, bad⟩
        · exact .inl ⟨position, mem_append_left _ positionMem, bad⟩
        · exact .inr ⟨position, mem_append_left _ positionMem, bad⟩
      | failed positionMem unallocated tablesAfter tableAfter =>
        exact .failed (mem_append_left _ positionMem) unallocated
          (tablesAfter.trans tables) tableAfter
    · obtain ⟨array, live, sizeEq, _⟩ := filled.array
      rw [registerTypes, writeEntry_of_not_holds _ live
        (by rw [sizeEq]; exact holds)]
      refine .overrun (.inr ⟨(type, 0), ?_, holds⟩)
      exact mem_append_left _ (mem_map.mpr
        ⟨0, List.mem_range.mpr Nat.one_pos, rfl⟩)

/-! ## Walking the table -/

/-- What a removal finds at a position it has not come to yet. -/
structure Ready
    (types : CmdTypes)
    (allocator : CmdAllocator)
    (psDeviceCommandData : Address)
    (size : BitVec 32)
    (positions : List (Nat × Nat))
    (system : CmdSystem) :
    Prop where
  array : ∃ array, system.arrays psDeviceCommandData = some array ∧
    array.size = size ∧ ∀ position ∈ positions,
      array.apsCmdCompleteData position = allocator.complete position
  allocated : ∀ position ∈ positions, CommandAllocated types allocator position
  completes : ∀ position ∈ positions,
    ∃ complete, system.completes (commandBlock types allocator position).1 =
        some complete ∧
      complete.size = completeAllocSize types position.1 ∧
        complete.data.ui32AllocSize = completeAllocSize types position.1

/-- A removal that comes to a position frees its block. -/
theorem removeCommand_ready
    (holds : sizeofDeviceCommandData * (position.1 + 1) ≤ size.toNat)
    (notLater : position ∉ positions)
    (ready : Ready types allocator psDeviceCommandData size
      (position :: positions) run.system) :
    ∃ after, removeCommand psDeviceCommandData position run = some after ∧
      after.freed = run.freed ++ [commandBlock types allocator position] ∧
        after.uninitialisedReads = run.uninitialisedReads ∧
          after.system.apsDeviceCommandData =
              run.system.apsDeviceCommandData ∧
            Ready types allocator psDeviceCommandData size positions
              after.system := by
  obtain ⟨array, live, sizeEq, pointers⟩ := ready.array
  have allocated := ready.allocated position mem_cons_self
  obtain ⟨psCmdCompleteData, found⟩ := isSome_iff_exists.mp allocated.1
  have block : commandBlock types allocator position =
      (psCmdCompleteData, completeAllocSize types position.1) := by
    rw [commandBlock, found]
    rfl
  obtain ⟨complete, completeEq, completeSize, allocSize⟩ :=
    ready.completes position mem_cons_self
  rw [block] at completeEq
  have pointer := pointers position mem_cons_self
  rw [found] at pointer
  have notNull : psCmdCompleteData ≠ 0 := by
    intro null
    rw [null] at found
    exact allocator.complete_ne_null position found
  let after : CmdRun := { run with
    freed := run.freed ++ [(psCmdCompleteData, complete.data.ui32AllocSize)]
    system := { run.system with
      arrays := update run.system.arrays psDeviceCommandData
        (some { array with
          apsCmdCompleteData := update array.apsCmdCompleteData
            position (some 0) })
      completes := update run.system.completes psCmdCompleteData none } }
  refine ⟨after, ?_, ?_, rfl, rfl, ?_, ?_, ?_⟩
  · simp only [removeCommand, live, bind_eq_bind, bind_some,
      sizeEq, if_pos holds, pointer, Option.getD_some, Option.isSome_some,
      if_true, if_pos notNull, completeEq, completeSize,
      if_pos allocated.2, after]
  · rw [block, ← allocSize]
  · refine ⟨_, update_self _ _ _, sizeEq, ?_⟩
    intro other otherMem
    have apart : other ≠ position := fun same => notLater (same ▸ otherMem)
    simp only [update_of_ne apart]
    exact pointers other (mem_cons_of_mem _ otherMem)
  · intro other otherMem
    exact ready.allocated other (mem_cons_of_mem _ otherMem)
  · intro other otherMem
    obtain ⟨otherComplete, otherEq, sizes⟩ :=
      ready.completes other (mem_cons_of_mem _ otherMem)
    refine ⟨otherComplete, ?_, sizes⟩
    have apart : (commandBlock types allocator other).1 ≠
        psCmdCompleteData := by
      intro equal
      obtain ⟨otherBlock, otherFound⟩ := isSome_iff_exists.mp
        (ready.allocated other (mem_cons_of_mem _ otherMem)).1
      rw [commandBlock, otherFound] at equal
      have otherFound : allocator.complete other = some psCmdCompleteData :=
        otherFound.trans (congrArg some equal)
      exact notLater (allocator.complete_once otherFound found ▸ otherMem)
    exact (update_of_ne apart _ _).trans otherEq

/-- The loops of a removal free the block of each position. -/
theorem removeCommands_ready
    (distinct : positions.Nodup)
    (holds : ∀ position ∈ positions,
      sizeofDeviceCommandData * (position.1 + 1) ≤ size.toNat)
    (run : CmdRun)
    (ready : Ready types allocator psDeviceCommandData size positions
      run.system) :
    ∃ after, removeCommands psDeviceCommandData positions run = some after ∧
      after.freed =
          run.freed ++ positions.map (commandBlock types allocator) ∧
        after.uninitialisedReads = run.uninitialisedReads ∧
          after.system.apsDeviceCommandData =
              run.system.apsDeviceCommandData ∧
            (after.system.arrays psDeviceCommandData).isSome := by
  induction positions generalizing run with
  | nil =>
    obtain ⟨array, live, _⟩ := ready.array
    refine ⟨run, rfl, (append_nil _).symm, rfl, rfl, ?_⟩
    rw [live]
    rfl
  | cons position positions ih =>
    have head := List.nodup_cons.mp distinct
    obtain ⟨between, stepEq, freed, reads, tables, later⟩ :=
      removeCommand_ready (holds position mem_cons_self) head.1 ready
    obtain ⟨after, restEq, restFreed, restReads, restTables, live⟩ :=
      ih head.2
        (fun other otherMem =>
          holds other (mem_cons_of_mem _ otherMem)) between later
    refine ⟨after, ?_, ?_, restReads.trans reads, restTables.trans tables,
      live⟩
    · rw [removeCommands, stepEq]
      exact restEq
    · rw [restFreed, freed, append_assoc, List.map_cons]
      rfl

/-- A table filled at every position can be removed at any time later. -/
theorem removable_of_filled
    (device : ui32DevIndex.toNat < sysDeviceCount)
    (table : run.system.apsDeviceCommandData ui32DevIndex.toNat =
      psDeviceCommandData)
    (notNull : psDeviceCommandData ≠ 0)
    (allocated : run.allocated =
      (psDeviceCommandData, arrayAllocSize ui32CmdCount) ::
        (tablePositions ui32CmdCount).map (commandBlock types allocator))
    (filled : Filled types allocator psDeviceCommandData
      (arrayAllocSize ui32CmdCount) (tablePositions ui32CmdCount) run.system)
    (holds : ∀ position ∈ tablePositions ui32CmdCount,
      sizeofDeviceCommandData * (position.1 + 1) ≤
        (arrayAllocSize ui32CmdCount).toNat) :
    Removable ui32DevIndex ui32CmdCount run := by
  intro later processed
  have ready : Ready types allocator psDeviceCommandData
      (arrayAllocSize ui32CmdCount) (tablePositions ui32CmdCount) later := by
    obtain ⟨array, live, sizeEq, pointers⟩ := filled.array
    obtain ⟨laterArray, laterLive, laterSize, laterPointers⟩ :=
      processed.arrays live
    refine ⟨⟨laterArray, laterLive, laterSize.trans sizeEq, ?_⟩,
      filled.allocated, ?_⟩
    · intro position positionMem
      rw [laterPointers, pointers, if_pos positionMem]
    · intro position positionMem
      obtain ⟨complete, completeEq, completeSize, allocSize⟩ :=
        filled.completes position positionMem
      obtain ⟨laterComplete, laterEq, sameSize, sameAllocSize⟩ :=
        processed.completes completeEq
      exact ⟨laterComplete, laterEq, sameSize.trans completeSize,
        sameAllocSize.trans allocSize⟩
  obtain ⟨after, loopEq, freed, reads, tables, live⟩ :=
    removeCommands_ready (tablePositions_nodup ui32CmdCount) holds
      (start later) ready
  obtain ⟨array, arrayEq⟩ := isSome_iff_exists.mp live
  have laterTable : later.apsDeviceCommandData ui32DevIndex.toNat =
      psDeviceCommandData := by
    rw [processed.tables, table]
  refine ⟨{ after with
    freed := after.freed ++
      [(psDeviceCommandData, arrayAllocSize ui32CmdCount)]
    system := { after.system with
      apsDeviceCommandData := update
        after.system.apsDeviceCommandData ui32DevIndex.toNat 0
      arrays := update after.system.arrays psDeviceCommandData
        none } }, ?_, ?_, reads, update_self _ _ _⟩
  · simp only [pvrsrvRemoveCmdProcListKM, start, laterTable,
      if_neg (Nat.not_le.mpr device), if_pos notNull]
    rw [show (⟨later, [], [], []⟩ : CmdRun) = start later from rfl, loopEq]
    simp only [bind_eq_bind, bind_some, arrayEq]
  · rw [freed, allocated]
    exact List.perm_append_singleton _ _

/-! ## Unwritten pointers -/

/-- The table has not been written at a position. -/
def Unwritten
    (psDeviceCommandData : Address)
    (position : Nat × Nat)
    (system : CmdSystem) :
    Prop :=
  ∃ array, system.arrays psDeviceCommandData = some array ∧
    array.apsCmdCompleteData position = none

/-- A step of a removal changes the table at its position only, and reads that
position whether it has been written or not. -/
theorem removeCommand_cases
    {after : CmdRun}
    (stepEq : removeCommand psDeviceCommandData position run = some after) :
    ∃ array later, run.system.arrays psDeviceCommandData = some array ∧
      after.system.arrays psDeviceCommandData = some later ∧
        (∀ other, other ≠ position → later.apsCmdCompleteData other =
          array.apsCmdCompleteData other) ∧
          (after.uninitialisedReads = run.uninitialisedReads ++
              if (array.apsCmdCompleteData position).isSome then []
              else [position]) ∧
            after.allocated = run.allocated := by
  cases live : run.system.arrays psDeviceCommandData with
  | none =>
    simp only [removeCommand, live, bind_eq_bind, bind_none,
      reduceCtorEq] at stepEq
  | some array =>
    simp only [removeCommand, live, bind_eq_bind, bind_some]
      at stepEq
    split at stepEq
    · -- the run whose reads have been noted
      have noted : ∀ (read : CmdRun),
          read = (if (array.apsCmdCompleteData position).isSome then run
            else { run with
              uninitialisedReads := run.uninitialisedReads ++ [position] }) →
          read.system = run.system ∧
            (read.uninitialisedReads = run.uninitialisedReads ++
                if (array.apsCmdCompleteData position).isSome then []
                else [position]) ∧
              read.allocated = run.allocated := by
        intro read readEq
        rw [readEq]
        cases (array.apsCmdCompleteData position).isSome with
        | true => exact ⟨rfl, (append_nil _).symm, rfl⟩
        | false => exact ⟨rfl, rfl, rfl⟩
      generalize readEq : (if (array.apsCmdCompleteData position).isSome
        then run else _) = read at stepEq
      obtain ⟨system, reads⟩ := noted read readEq.symm
      split at stepEq
      · cases complete : read.system.completes
            ((array.apsCmdCompleteData position).getD
              (array.garbage position)) with
        | none => simp only [complete, bind_none, reduceCtorEq] at stepEq
        | some block =>
          simp only [complete, bind_some] at stepEq
          split at stepEq
          · cases stepEq
            exact ⟨array, _, rfl, update_self _ _ _,
              fun other apart => update_of_ne apart _ _, reads⟩
          · exact absurd stepEq (some_ne_none _).symm
      · cases stepEq
        exact ⟨array, array, rfl, by rw [system, live], fun _ _ => rfl, reads⟩
    · exact absurd stepEq (some_ne_none _).symm

/-- The reads of a removal are kept to its end, and it allocates nothing. -/
theorem removeCommands_frame
    {after : CmdRun}
    (loopEq :
      removeCommands psDeviceCommandData positions run = some after) :
    run.uninitialisedReads <+: after.uninitialisedReads ∧
      after.allocated = run.allocated := by
  induction positions generalizing run with
  | nil =>
    cases loopEq
    exact ⟨List.prefix_rfl, rfl⟩
  | cons position positions ih =>
    rw [removeCommands] at loopEq
    obtain ⟨between, stepEq, restEq⟩ := bind_eq_some_iff.mp loopEq
    obtain ⟨array, later, _, _, _, reads, allocated⟩ :=
      removeCommand_cases stepEq
    obtain ⟨kept, allocatedRest⟩ := ih restEq
    refine ⟨List.IsPrefix.trans ?_ kept, allocatedRest.trans allocated⟩
    rw [reads]
    exact List.prefix_append _ _

/-- A removal that ends has read every pointer that had not been written. -/
theorem removeCommands_unwritten
    {unwritten : Nat × Nat}
    (member : unwritten ∈ positions)
    {after : CmdRun}
    (loopEq : removeCommands psDeviceCommandData positions run = some after)
    (bare : Unwritten psDeviceCommandData unwritten run.system) :
    unwritten ∈ after.uninitialisedReads := by
  induction positions generalizing run with
  | nil => exact absurd member not_mem_nil
  | cons position positions ih =>
    rw [removeCommands] at loopEq
    obtain ⟨between, stepEq, restEq⟩ := bind_eq_some_iff.mp loopEq
    obtain ⟨array, later, live, laterLive, frame, reads, _⟩ :=
      removeCommand_cases stepEq
    obtain ⟨bareArray, bareLive, empty⟩ := bare
    cases live.symm.trans bareLive
    by_cases same : unwritten = position
    · apply (removeCommands_frame restEq).1.subset
      rw [reads, ← same, empty]
      exact mem_append_right _ mem_cons_self
    · have tail := (List.mem_cons.mp member).resolve_left same
      exact ih tail restEq ⟨later, laterLive, (frame _ same).trans empty⟩

/-! ## Registering -/

theorem registerErrorExit_error
    {returned : PvrsrvError}
    {after : CmdRun}
    (exitEq : registerErrorExit eError ui32DevIndex ui32CmdCount run =
      some (returned, after)) :
    returned = eError := by
  obtain ⟨removed, _, same⟩ := map_eq_some_iff.mp exitEq
  exact (congrArg Prod.fst same).symm

/-- A removal of a table that is there ends the loop, and frees the array. -/
theorem registerErrorExit_cases
    (device : ui32DevIndex.toNat < sysDeviceCount)
    (registered : run.system.apsDeviceCommandData ui32DevIndex.toNat ≠ 0)
    (exitEq : registerErrorExit eError ui32DevIndex ui32CmdCount run =
      some result) :
    ∃ after,
      removeCommands (run.system.apsDeviceCommandData ui32DevIndex.toNat)
          (tablePositions ui32CmdCount) run = some after ∧
        result.2.uninitialisedReads = after.uninitialisedReads ∧
        result.2.allocated = after.allocated ∧ result.2.freed ≠ [] := by
  obtain ⟨removed, removedEq, rfl⟩ := map_eq_some_iff.mp exitEq
  rw [pvrsrvRemoveCmdProcListKM, if_neg (Nat.not_le.mpr device)] at removedEq
  simp only [if_pos registered] at removedEq
  obtain ⟨after, loopEq, restEq⟩ := bind_eq_some_iff.mp removedEq
  obtain ⟨array, arrayEq, removedIs⟩ := bind_eq_some_iff.mp restEq
  cases removedIs
  exact ⟨after, loopEq, rfl, rfl, by simp⟩

/-- A removal of a table with an unwritten pointer is not clean. -/
theorem registerErrorExit_unwritten
    (device : ui32DevIndex.toNat < sysDeviceCount)
    (table : run.system.apsDeviceCommandData ui32DevIndex.toNat =
      psDeviceCommandData)
    (notNull : psDeviceCommandData ≠ 0)
    (member : position ∈ tablePositions ui32CmdCount)
    (bare : Unwritten psDeviceCommandData position run.system)
    (exitEq : registerErrorExit eError ui32DevIndex ui32CmdCount run =
      some result) :
    result.2.uninitialisedReads ≠ [] := by
  obtain ⟨after, loopEq, reads, _, _⟩ :=
    registerErrorExit_cases device (table ▸ notNull) exitEq
  rw [table] at loopEq
  rw [reads]
  exact List.ne_nil_of_mem (removeCommands_unwritten member loopEq bare)

/-- The table right after the array has been installed. -/
theorem filled_installArray
    (types : CmdTypes)
    (allocator : CmdAllocator)
    (psDeviceCommandData : Address)
    (ui32DevIndex ui32CmdCount : BitVec 32)
    (run : CmdRun) :
    Filled types allocator psDeviceCommandData (arrayAllocSize ui32CmdCount)
      [] (installArray allocator psDeviceCommandData ui32DevIndex
        ui32CmdCount run).system where
  array := ⟨_, update_self _ _ _, rfl, fun _ => (if_neg not_mem_nil).symm⟩
  allocated := fun _ member => absurd member not_mem_nil
  completes := fun _ member => absurd member not_mem_nil

/-- The array holds every entry when its size has not wrapped. -/
theorem arrayAllocSize_holds_iff (ui32CmdCount : BitVec 32) :
    (∀ position ∈ tablePositions ui32CmdCount,
        sizeofDeviceCommandData * (position.1 + 1) ≤
          (arrayAllocSize ui32CmdCount).toNat) ↔
      ui32CmdCount.toNat * sizeofDeviceCommandData < 2 ^ 32 := by
  rw [arrayAllocSize, BitVec.toNat_ofNat]
  constructor
  · intro holds
    rcases Nat.eq_zero_or_pos ui32CmdCount.toNat with none | some
    · rw [none, Nat.zero_mul]
      exact Nat.two_pow_pos 32
    · have last := holds (ui32CmdCount.toNat - 1, 0)
        (mem_tablePositions.mpr ⟨Nat.sub_lt some Nat.one_pos, Nat.one_pos⟩)
      simp only [Nat.sub_add_cancel some] at last
      rw [Nat.mul_comm] at last
      exact Nat.lt_of_le_of_lt last (Nat.mod_lt _ (Nat.two_pow_pos 32))
  · intro fits position member
    have bound := (mem_tablePositions.mp member).1
    rw [Nat.mod_eq_of_lt fits, Nat.mul_comm]
    exact Nat.mul_le_mul_right _ bound

/-- A registration that could not allocate its array is clean exactly when the
device had no table. -/
theorem registersAtomically_of_no_array
    (device : ui32DevIndex.toNat < sysDeviceCount)
    (noArray : allocator.array = none) :
    RegistersAtomically types allocator ui32DevIndex ui32CmdCount system ↔
      system.apsDeviceCommandData ui32DevIndex.toNat = 0 := by
  have register : pvrsrvRegisterCmdProcListKM types allocator ui32DevIndex
        ui32CmdCount (start system) =
      registerErrorExit pvrsrvErrorOutOfMemory ui32DevIndex ui32CmdCount
        (start system) := by
    rw [pvrsrvRegisterCmdProcListKM, if_neg (Nat.not_le.mpr device), noArray]
  rw [RegistersAtomically, register]
  constructor
  · rintro ⟨eError, run, exitEq, undone, -⟩
    by_contra registered
    obtain ⟨after, loopEq, _, allocated, freed⟩ :=
      registerErrorExit_cases device registered exitEq
    have failed : eError ≠ pvrsrvOk := by
      rw [registerErrorExit_error exitEq]
      decide
    have balanced := (undone failed).freed
    rw [allocated, (removeCommands_frame loopEq).2] at balanced
    exact freed balanced.eq_nil
  · intro unregistered
    refine ⟨pvrsrvErrorOutOfMemory, start system, ?_, ?_, ?_⟩
    · rw [registerErrorExit, pvrsrvRemoveCmdProcListKM,
        if_neg (Nat.not_le.mpr device)]
      simp only [start, unregistered, ne_eq, not_true_eq_false,
        if_false, map_some]
    · intro _
      exact ⟨List.Perm.refl _, rfl, fun _ => unregistered⟩
    · intro ok
      exact absurd ok (by decide)

/-- A registration is atomic exactly when it is refused for its device, fails
at the array of a device without a table, or does not fail at all. -/
theorem registersAtomically_iff
    (types : CmdTypes)
    (allocator : CmdAllocator)
    (ui32DevIndex ui32CmdCount : BitVec 32)
    (system : CmdSystem) :
    RegistersAtomically types allocator ui32DevIndex ui32CmdCount system ↔
      FailsEarlyOrNotAtAll types allocator ui32DevIndex ui32CmdCount
        system := by
  rw [FailsEarlyOrNotAtAll]
  rcases Nat.lt_or_ge ui32DevIndex.toNat sysDeviceCount with device | refused
  · cases arrayEq : allocator.array with
    | none =>
      rw [registersAtomically_of_no_array device arrayEq]
      simp [Nat.not_le.mpr device]
    | some psDeviceCommandData =>
      have notNull : psDeviceCommandData ≠ 0 := fun null =>
        allocator.array_ne_null (null ▸ arrayEq)
      have loops := registerTypes_result
        (List.range ui32CmdCount.toNat)
        (filled_installArray types allocator psDeviceCommandData
          ui32DevIndex ui32CmdCount (start system))
      change LoopResult types allocator psDeviceCommandData _ []
        (tablePositions ui32CmdCount) _ _ at loops
      have right : (sysDeviceCount ≤ ui32DevIndex.toNat ∨
            (some psDeviceCommandData = none ∧
              system.apsDeviceCommandData ui32DevIndex.toNat = 0) ∨
            ((some psDeviceCommandData).isSome ∧
              AllAllocated types allocator ui32CmdCount)) ↔
          AllAllocated types allocator ui32CmdCount := by
        simp [Nat.not_le.mpr device]
      rw [right, RegistersAtomically, pvrsrvRegisterCmdProcListKM,
        if_neg (Nat.not_le.mpr device), arrayEq]
      simp only
      generalize registerTypes types allocator psDeviceCommandData
        (List.range ui32CmdCount.toNat) _ = result at loops ⊢
      cases loops with
      | filled extended table holds =>
        rename_i after
        have tableEq : after.system.apsDeviceCommandData
            ui32DevIndex.toNat = psDeviceCommandData := by
          rw [extended.tables]
          exact Function.update_self _ _ _
        refine iff_of_true ?_ ?_
        · refine ⟨pvrsrvOk, after, rfl, fun bad => absurd rfl bad, ?_⟩
          intro _
          exact ⟨extended.freed, removable_of_filled device tableEq
            notNull extended.allocated table holds⟩
        · exact ⟨(arrayAllocSize_holds_iff _).mp holds, table.allocated⟩
      | overrun outside =>
        refine iff_of_false ?_ ?_
        · rintro ⟨eError, run, impossible, -⟩
          exact absurd impossible (some_ne_none _).symm
        · intro all
          rcases outside with ⟨position, member, bad⟩ |
            ⟨position, member, bad⟩
          · exact bad (all.commands position member)
          · exact bad
              ((arrayAllocSize_holds_iff _).mpr all.array position member)
      | failed member unallocated tables table =>
        rename_i after filledPositions position
        refine iff_of_false ?_ ?_
        · rintro ⟨eError, run, exitEq, undone, -⟩
          have exitEq : registerErrorExit pvrsrvErrorOutOfMemory
              ui32DevIndex ui32CmdCount after = some (eError, run) :=
            exitEq
          have tableEq : after.system.apsDeviceCommandData
              ui32DevIndex.toNat = psDeviceCommandData := by
            rw [tables]
            exact Function.update_self _ _ _
          obtain ⟨array, live, _, pointers⟩ := table.array
          have bare : Unwritten psDeviceCommandData position
              after.system := by
            refine ⟨array, live, ?_⟩
            rw [pointers, unallocated, ite_self]
          have failed : eError ≠ pvrsrvOk := by
            rw [registerErrorExit_error exitEq]
            decide
          exact registerErrorExit_unwritten device tableEq notNull member
            bare exitEq (undone failed).initialised
        · intro all
          have there := (all.commands position member).1
          rw [unallocated] at there
          exact absurd there (by decide)
  · refine iff_of_true ?_ (.inl refused)
    refine ⟨pvrsrvErrorInvalidParams, start system, ?_, ?_, ?_⟩
    · rw [pvrsrvRegisterCmdProcListKM, if_pos refused]
    · intro _
      exact ⟨List.Perm.refl _, rfl, fun device =>
        absurd refused (Nat.not_le.mpr device)⟩
    · intro ok
      exact absurd ok (by decide)

/-- A system in which nothing is registered. -/
def noCommands : CmdSystem where
  apsDeviceCommandData := fun _ => 0
  arrays := fun _ => none
  completes := fun _ => none

/-- One command without syncs. -/
def oneType : CmdTypes where
  ppfnCmdProcList := fun _ => 0x100
  ui32MaxSyncsPerCmd := fun _ => (0, 0)

/-- The array is allocated in memory of zeros, and nothing else is. -/
def arrayOnly : CmdAllocator where
  array := some 0x1000
  garbage := fun _ => 0
  complete := fun _ => none
  array_ne_null := by decide
  complete_ne_null := fun _ => by decide
  complete_once := fun found => absurd found (some_ne_none _).symm

/-- When the block of the only command cannot be allocated, the pointer to it
is read before it was written. -/
theorem registersAtomically_wrong :
    (pvrsrvRegisterCmdProcListKM oneType arrayOnly 0 1
        (start noCommands)).map (fun result =>
          (result.1, result.2.uninitialisedReads)) =
      some (pvrsrvErrorOutOfMemory, [(0, 0)]) ∧
      ¬ RegistersAtomically oneType arrayOnly 0 1 noCommands := by
  have result : (pvrsrvRegisterCmdProcListKM oneType arrayOnly 0 1
        (start noCommands)).map (fun result =>
          (result.1, result.2.uninitialisedReads)) =
      some (pvrsrvErrorOutOfMemory, [(0, 0)]) := by
    decide
  refine ⟨result, ?_⟩
  rintro ⟨eError, run, registerEq, undone, -⟩
  rw [registerEq, map_some, Option.some.injEq, Prod.mk.injEq] at result
  have failed : eError ≠ pvrsrvOk := by
    rw [show eError = pvrsrvErrorOutOfMemory from result.1]
    decide
  have clean : run.uninitialisedReads = [] := (undone failed).initialised
  rw [show run.uninitialisedReads = [(0, 0)] from result.2] at clean
  exact List.cons_ne_nil _ _ clean

end

end PvrServices.CmdProcList
