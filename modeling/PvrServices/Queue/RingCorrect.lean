import PvrServices.Queue.Ring

/-!
# Safety of the command queue buffer

The commands between the two offsets are the submitted ones that have not been
accepted, in submission order and byte for byte.  Every call on the queue
keeps this invariant; the space test is exact, so the offsets coincide only
when nothing is outstanding.
-/

namespace PvrServices.Queue

open Nat (add_zero mod_eq_of_lt mod_lt)
open ByteMemory RecordRing

/-! ## Wrapping arithmetic -/

/-- Masking a 32-bit sum is reduction modulo a power-of-two size. -/
theorem mask_eq_mod
    {exponent : Nat}
    (bounded : exponent ≤ 31)
    (value : Nat) :
    value % 2 ^ 32 &&& (2 ^ exponent - 1) = value % 2 ^ exponent := by
  rw [Nat.and_two_pow_sub_one_eq_mod]
  exact Nat.mod_mod_of_dvd value (Nat.pow_dvd_pow 2 (by omega))

theorem nearestPower2Loop_eq
    (ui32Temp : Nat)
    {exponent : Nat}
    (bounded : ui32Temp * 2 ^ exponent < 2 ^ 31)
    (exponentBound : exponent ≤ 31) :
    ∃ result ≤ 31, nearestPower2Loop ui32Temp (2 ^ exponent) = 2 ^ result := by
  induction ui32Temp using Nat.strongRecOn generalizing exponent with
  | ind ui32Temp ih =>
    rw [nearestPower2Loop]
    split_ifs with finished
    · exact ⟨exponent, exponentBound, rfl⟩
    · have positive : 1 ≤ ui32Temp := by omega
      have small : 2 ^ exponent < 2 ^ 31 := by
        calc
          2 ^ exponent = 1 * 2 ^ exponent := by ring
          _ ≤ ui32Temp * 2 ^ exponent := Nat.mul_le_mul_right _ positive
          _ < 2 ^ 31 := bounded
      have exponentSmall : exponent < 31 :=
        (Nat.pow_lt_pow_iff_right (by omega)).mp small
      have shifted : 2 ^ exponent * 2 % 2 ^ 32 = 2 ^ (exponent + 1) := by
        rw [← pow_succ]
        exact mod_eq_of_lt (Nat.pow_lt_pow_right (by omega) (by omega))
      rw [shifted]
      apply ih (ui32Temp / 2) (by omega) ?_ exponentSmall
      calc
        ui32Temp / 2 * 2 ^ (exponent + 1) =
            ui32Temp / 2 * 2 * 2 ^ exponent := by ring
        _ ≤ ui32Temp * 2 ^ exponent :=
          Nat.mul_le_mul_right _ (Nat.div_mul_le_self ui32Temp 2)
        _ < 2 ^ 31 := bounded

/-- The queue size is a power of two below the range of its type. -/
theorem nearestPower2_eq
    {ui32Value : Nat}
    (positive : 0 < ui32Value)
    (bounded : ui32Value ≤ 2 ^ 31) :
    ∃ exponent ≤ 31, nearestPower2 ui32Value = 2 ^ exponent := by
  rw [nearestPower2, if_neg (by omega)]
  exact @nearestPower2Loop_eq (ui32Value - 1) 0 (by omega) (by omega)

/-! ## The invariant -/

/-- A command that is inserted and not yet submitted: it lies at the write
offset, fits into the free space, and its data area lies behind its header. -/
structure Pending
    (queue : CommandQueue) (filled psCommand : Nat) : Prop where
  place : psCommand = queue.pvLinQueueKM + queue.ui32WriteOffset
  header : sizeofCommand ≤ readLE queue.memory 4 psCommand
  bounded : readLE queue.memory 4 psCommand ≤ pvrsrvMaxCmdSize
  room : filled + readLE queue.memory 4 psCommand < queue.ui32QueueSize
  dataStart : psCommand + sizeofCommand ≤
    readLE queue.memory 8 (psCommand + 48)
  dataEnd : readLE queue.memory 8 (psCommand + 48) +
      readLE queue.memory 4 (psCommand + 40) ≤
    psCommand + readLE queue.memory 4 psCommand

/-- A command as it is submitted: it starts with its own length. -/
structure WellSized (command : List UInt8) : Prop where
  header : sizeofCommand ≤ command.length
  bounded : command.length ≤ pvrsrvMaxCmdSize
  uCmdSize : headWord command 4 = command.length

/-- The commands `outstanding` lie between the offsets of the queue. -/
structure QueueHolds
    (queue : CommandQueue) (outstanding : List (List UInt8)) : Prop where
  power : ∃ exponent ≤ 31, queue.ui32QueueSize = 2 ^ exponent
  addressable : queue.pvLinQueueKM + queue.ui32QueueSize +
    pvrsrvMaxCmdSize ≤ 2 ^ 64
  readBound : queue.ui32ReadOffset < queue.ui32QueueSize
  writeOffset : queue.ui32WriteOffset =
    (queue.ui32ReadOffset + total outstanding) % queue.ui32QueueSize
  filled : total outstanding < queue.ui32QueueSize
  sized : ∀ command ∈ outstanding, WellSized command
  stored : Stored queue.memory queue.pvLinQueueKM queue.ui32QueueSize
    queue.ui32ReadOffset outstanding

namespace QueueHolds

variable {queue : CommandQueue} {outstanding : List (List UInt8)}

theorem sizePositive (holds : QueueHolds queue outstanding) :
    0 < queue.ui32QueueSize :=
  lt_of_le_of_lt (Nat.zero_le _) holds.filled

theorem writeBound (holds : QueueHolds queue outstanding) :
    queue.ui32WriteOffset < queue.ui32QueueSize := by
  rw [holds.writeOffset]
  exact mod_lt _ holds.sizePositive

/-- The write offset with its wrap made explicit. -/
theorem writeOffset_cases (holds : QueueHolds queue outstanding) :
    queue.ui32WriteOffset = queue.ui32ReadOffset + total outstanding ∨
      queue.ui32WriteOffset + queue.ui32QueueSize =
        queue.ui32ReadOffset + total outstanding := by
  have readBound := holds.readBound
  have filled := holds.filled
  have writeOffset := holds.writeOffset
  by_cases wraps :
      queue.ui32QueueSize ≤ queue.ui32ReadOffset + total outstanding
  · right
    rw [Nat.mod_eq_sub_mod wraps, mod_eq_of_lt (by omega)] at writeOffset
    omega
  · left
    rwa [mod_eq_of_lt (by omega)] at writeOffset

/-- The space computed from the two offsets is exact. -/
theorem getSpaceInCmdq_eq (holds : QueueHolds queue outstanding) :
    getSpaceInCmdq queue + total outstanding + 1 = queue.ui32QueueSize := by
  obtain ⟨exponent, exponentBound, size⟩ := holds.power
  have readBound := holds.readBound
  have writeBound := holds.writeBound
  have filled := holds.filled
  obtain ⟨turns, range⟩ : queue.ui32QueueSize ∣ 2 ^ 32 := by
    rw [size]
    exact Nat.pow_dvd_pow 2 (by omega)
  have sizeRange : queue.ui32QueueSize ≤ 2 ^ 32 := by
    rw [size]
    exact Nat.pow_le_pow_right (by omega) (by omega)
  have space : getSpaceInCmdq queue =
      queue.ui32QueueSize - 1 - total outstanding := by
    unfold getSpaceInCmdq
    rw [size, mask_eq_mod exponentBound, ← size]
    rcases holds.writeOffset_cases with same | wrapped
    · rw [show queue.ui32ReadOffset + 2 ^ 32 - queue.ui32WriteOffset +
          (queue.ui32QueueSize - 1) =
          queue.ui32QueueSize - 1 - total outstanding +
            queue.ui32QueueSize * turns by omega]
      rw [Nat.add_mul_mod_self_left, mod_eq_of_lt (by omega)]
    · rw [show queue.ui32ReadOffset + 2 ^ 32 - queue.ui32WriteOffset +
          (queue.ui32QueueSize - 1) =
          queue.ui32QueueSize - 1 - total outstanding +
            queue.ui32QueueSize + queue.ui32QueueSize * turns by omega]
      rw [Nat.add_mul_mod_self_left, Nat.add_mod_right,
        mod_eq_of_lt (by omega)]
  omega

theorem total_pos_of_ne_nil
    (holds : QueueHolds queue outstanding)
    (nonempty : outstanding ≠ []) :
    0 < total outstanding := by
  cases outstanding with
  | nil => exact absurd rfl nonempty
  | cons command rest =>
    have header := (holds.sized command List.mem_cons_self).header
    simp only [total_cons, sizeofCommand] at header ⊢
    omega

/-- Equal offsets mean an empty queue, never a full one. -/
theorem offsets_eq_iff (holds : QueueHolds queue outstanding) :
    queue.ui32ReadOffset = queue.ui32WriteOffset ↔ outstanding = [] := by
  have filled := holds.filled
  constructor
  · intro same
    by_contra nonempty
    have positive := holds.total_pos_of_ne_nil nonempty
    rcases holds.writeOffset_cases with straight | wrapped <;> omega
  · rintro rfl
    rcases holds.writeOffset_cases with straight | wrapped
    · simpa using straight.symm
    · simp only [total_nil] at wrapped
      have readBound := holds.readBound
      omega

/-- Writes into the free part at the write offset keep the outstanding
commands. -/
theorem of_frame
    (holds : QueueHolds queue outstanding)
    {memory : Memory}
    {count : Nat}
    (room : total outstanding + count < queue.ui32QueueSize)
    (frame : ∀ location,
      location < queue.pvLinQueueKM + queue.ui32WriteOffset ∨
        queue.pvLinQueueKM + queue.ui32WriteOffset + count ≤ location →
      memory location = queue.memory location) :
    QueueHolds { queue with memory } outstanding where
  power := holds.power
  addressable := holds.addressable
  readBound := holds.readBound
  writeOffset := holds.writeOffset
  filled := holds.filled
  sized := holds.sized
  stored := by
    rw [holds.writeOffset] at frame
    exact stored_of_frame holds.readBound le_rfl le_rfl room frame holds.stored

end QueueHolds

/-! ## Inserting -/

variable {memory : Memory} {psCommand location : Nat} {args : InsertArgs}
  {after queue : CommandQueue} {outstanding : List (List UInt8)}

theorem writeSyncObjects_outside
    {address : Nat}
    {objects : List SyncObject}
    (outside : location < address ∨
      address + objects.length * 16 ≤ location) :
    writeSyncObjects memory address objects location = memory location := by
  induction objects generalizing memory address with
  | nil => rfl
  | cons object rest ih =>
    simp only [List.length_cons] at outside
    rw [writeSyncObjects, sizeofSyncObject, ih (by omega),
      writeLE_outside (by omega), writeLE_outside (by omega),
      writeLE_outside (by omega)]

theorem writeHeader_outside
    (outside : location < psCommand ∨
      psCommand + 56 ≤ location) :
    writeHeader memory psCommand args location = memory location := by
  unfold writeHeader
  rw [writeLE_outside (by omega), writeLE_outside (by omega),
    writeLE_outside (by omega), writeLE_outside (by omega),
    writeLE_outside (by omega), writeLE_outside (by omega),
    writeLE_outside (by omega), writeLE_outside (by omega),
    writeLE_outside (by omega), writeLE_outside (by omega)]

section

variable (memory : Memory) (psCommand : Nat)

theorem readLE_writeHeader_size
    (args : InsertArgs) :
    readLE (writeHeader memory psCommand args) 4 psCommand =
      args.commandSize % 2 ^ 32 := by
  unfold writeHeader
  iterate 8 rw [readLE_writeLE_of_apart (Or.inr (by omega))]
  exact readLE_writeLE _ 4 psCommand args.commandSize

theorem readLE_writeHeader_data
    (args : InsertArgs) :
    readLE (writeHeader memory psCommand args) 8 (psCommand + 48) =
      args.dataAddress psCommand % 2 ^ 64 := by
  unfold writeHeader
  rw [readLE_writeLE_of_apart (Or.inl (by omega))]
  exact readLE_writeLE _ 8 (psCommand + 48) (args.dataAddress psCommand)

theorem readLE_writeHeader_dataSize
    (args : InsertArgs) :
    readLE (writeHeader memory psCommand args) 4 (psCommand + 40) =
      args.dataSize % 2 ^ 32 := by
  unfold writeHeader
  exact readLE_writeLE _ 4 (psCommand + 40) args.dataSize

end

namespace InsertArgs

theorem dataSize_eq (args : InsertArgs) :
    args.dataSize = (args.ui32DataByteSize + 3) / 4 * 4 := by
  have bound := args.sizeBound
  exact mod_eq_of_lt (by omega)

/-- Within the callers' bound the 32-bit size does not wrap. -/
theorem commandSize_eq (args : InsertArgs) :
    args.commandSize =
      sizeofCommand +
        (args.dstSync.length + args.srcSync.length) * sizeofSyncObject +
        args.dataSize := by
  have bound := args.sizeBound
  have data := args.dataSize_eq
  simp only [sizeofCommand, sizeofSyncObject] at bound ⊢
  have counts : (args.dstSync.length + args.srcSync.length) % 2 ^ 32 =
      args.dstSync.length + args.srcSync.length :=
    mod_eq_of_lt (by omega)
  unfold commandSize
  rw [counts]
  simp only [sizeofCommand, sizeofSyncObject]
  exact mod_eq_of_lt (by omega)

/-- The size is a whole number of words, so the space test does not round it
further. -/
theorem commandSize_rounded (args : InsertArgs) :
    (args.commandSize + 3) % 2 ^ 32 / 4 * 4 = args.commandSize := by
  have bound := args.sizeBound
  have size := args.commandSize_eq
  have data := args.dataSize_eq
  simp only [sizeofCommand, sizeofSyncObject] at bound size
  rw [mod_eq_of_lt (by omega)]
  omega

theorem dataAddress_eq (args : InsertArgs) (psCommand : Nat) :
    args.dataAddress psCommand + args.dataSize =
      psCommand + args.commandSize := by
  rw [args.commandSize_eq, dataAddress, srcSyncAddress]
  ring

end InsertArgs

/-- What a successful insertion has checked and done. -/
structure Inserted
    (queue after : CommandQueue) (args : InsertArgs) (psCommand : Nat) :
    Prop where
  place : psCommand = queue.pvLinQueueKM + queue.ui32WriteOffset
  bounded : args.commandSize ≤ pvrsrvMaxCmdSize
  space : args.commandSize < getSpaceInCmdq queue
  after_eq : after = { queue with memory := after.memory }
  frame : ∀ location,
    location < psCommand ∨ psCommand + args.commandSize ≤ location →
    after.memory location = queue.memory location
  header : ∀ location, psCommand ≤ location →
    location < psCommand + sizeofCommand →
    after.memory location = writeHeader queue.memory psCommand args location

theorem inserted_of_insertCommand
    (result : insertCommand queue args = .ok (after, psCommand)) :
    Inserted queue after args psCommand := by
  have size := args.commandSize_eq
  have objects : (args.dstSync.length + args.srcSync.length) * 16 =
      args.dstSync.length * 16 + args.srcSync.length * 16 := by ring
  unfold insertCommand getQueueSpace at result
  rw [args.commandSize_rounded] at result
  simp only at result
  split_ifs at result with tooBig space
  cases result
  simp only [sizeofCommand, sizeofSyncObject] at size
  refine ⟨rfl, Nat.le_of_not_lt tooBig, space, rfl, ?_, ?_⟩
  · intro location outside
    simp only [InsertArgs.srcSyncAddress, sizeofCommand, sizeofSyncObject]
    rw [writeSyncObjects_outside (by omega),
      writeSyncObjects_outside (by omega),
      writeHeader_outside (by omega)]
  · intro location lower upper
    simp only [InsertArgs.srcSyncAddress, sizeofCommand, sizeofSyncObject]
      at upper ⊢
    rw [writeSyncObjects_outside (by omega),
      writeSyncObjects_outside (by omega)]

/-- Reads of the header of an inserted command see the header stores. -/
theorem Inserted.readLE_header
    {queue after : CommandQueue}
    {args : InsertArgs}
    {psCommand : Nat}
    (inserted : Inserted queue after args psCommand)
    {offset width : Nat}
    (inside : offset + width ≤ sizeofCommand) :
    readLE after.memory width (psCommand + offset) =
      readLE (writeHeader queue.memory psCommand args) width
        (psCommand + offset) := by
  apply readLE_congr
  intro index indexBound
  exact inserted.header _ (by omega) (by omega)

/-- An insertion leaves the outstanding commands alone and its own command
pending. -/
theorem Inserted.holds
    (inserted : Inserted queue after args psCommand)
    (holds : QueueHolds queue outstanding) :
    QueueHolds after outstanding ∧
      Pending after (total outstanding) psCommand := by
  have space := holds.getSpaceInCmdq_eq
  have fits := inserted.space
  have bounded := inserted.bounded
  have size := args.commandSize_eq
  have addressable := holds.addressable
  have writeBound := holds.writeBound
  have place := inserted.place
  have same := inserted.after_eq
  have dataEnd := args.dataAddress_eq psCommand
  have dataStart : psCommand + sizeofCommand ≤ args.dataAddress psCommand := by
    unfold InsertArgs.dataAddress InsertArgs.srcSyncAddress
    omega
  have maximal : pvrsrvMaxCmdSize = 1024 := rfl
  have sizeField : readLE after.memory 4 psCommand = args.commandSize := by
    have field := @Inserted.readLE_header _ _ _ _ inserted 0 4 (by decide)
    rw [add_zero, readLE_writeHeader_size] at field
    rw [field]
    exact mod_eq_of_lt (by omega)
  have dataField : readLE after.memory 8 (psCommand + 48) =
      args.dataAddress psCommand := by
    rw [inserted.readLE_header (by decide), readLE_writeHeader_data]
    exact mod_eq_of_lt (by omega)
  have dataSizeField : readLE after.memory 4 (psCommand + 40) =
      args.dataSize := by
    rw [inserted.readLE_header (by decide), readLE_writeHeader_dataSize]
    exact mod_eq_of_lt (by omega)
  have frame := inserted.frame
  rw [place] at frame
  have kept : QueueHolds { queue with memory := after.memory } outstanding :=
    holds.of_frame (by omega) frame
  refine ⟨same ▸ kept, ?_, ?_, ?_, ?_, ?_, ?_⟩
  · rw [same]
    exact place
  · rw [sizeField]
    omega
  · rw [sizeField]
    exact bounded
  · rw [sizeField, same]
    show total outstanding + args.commandSize < queue.ui32QueueSize
    omega
  · rw [dataField]
    exact dataStart
  · rw [dataField, dataSizeField, sizeField]
    omega

/-! ## Filling -/

/-- Stores into the pending command behind its header keep it pending. -/
theorem Pending.of_frame
    {filled : Nat}
    (pending : Pending queue filled psCommand)
    (frame : ∀ location < psCommand + sizeofCommand,
      memory location = queue.memory location) :
    Pending { queue with memory } filled psCommand := by
  have field : ∀ offset width, offset + width ≤ sizeofCommand →
      readLE memory width (psCommand + offset) =
        readLE queue.memory width (psCommand + offset) := by
    intro offset width inside
    apply readLE_congr
    intro index indexBound
    exact frame _ (by omega)
  have size := field 0 4 (by decide)
  have data := field 48 8 (by decide)
  have dataSize := field 40 4 (by decide)
  rw [add_zero] at size
  refine ⟨pending.place, ?_, ?_, ?_, ?_, ?_⟩ <;>
    simp only [size, data, dataSize]
  · exact pending.header
  · exact pending.bounded
  · exact pending.room
  · exact pending.dataStart
  · exact pending.dataEnd

theorem fill_holds
    (holds : QueueHolds queue outstanding)
    (pending : Pending queue (total outstanding) psCommand)
    {index : Nat}
    (inside : index < readLE queue.memory 4 (psCommand + 40))
    (byte : Nat) :
    let memory := writeLE queue.memory 1
      (readLE queue.memory 8 (psCommand + 48) + index) byte
    QueueHolds { queue with memory } outstanding ∧
      Pending { queue with memory } (total outstanding) psCommand := by
  have dataStart := pending.dataStart
  have dataEnd := pending.dataEnd
  have place := pending.place
  constructor
  · apply holds.of_frame pending.room
    intro location outside
    exact writeLE_outside (by omega)
  · apply pending.of_frame
    intro location before
    exact writeLE_outside (by omega)

/-! ## Submitting -/

/-- A submission rewrites only the three pointers in the header, and moves
the write offset over the command. -/
theorem submitCommand_eq (queue : CommandQueue) (psCommand : Nat) :
    ∃ memory,
      submitCommand queue psCommand =
          updateQueueWoff { queue with memory }
            (readLE queue.memory 4 psCommand) ∧
        ∀ location,
          location < psCommand + 24 ∨ psCommand + sizeofCommand ≤ location →
          memory location = queue.memory location := by
  refine ⟨(submitCommand queue psCommand).memory, ?_, ?_⟩
  · unfold submitCommand
    simp only [updateQueueWoff]
    rw [readLE_writeLE_of_apart (Or.inr (by omega))]
    split_ifs <;>
      simp only [readLE_writeLE_of_apart
        (show Apart (psCommand + 32) 8 psCommand 4 from Or.inr (by omega)),
        readLE_writeLE_of_apart
        (show Apart (psCommand + 24) 8 psCommand 4 from Or.inr (by omega))]
  · intro location outside
    simp only [sizeofCommand] at outside
    unfold submitCommand
    simp only [updateQueueWoff]
    rw [writeLE_outside (by omega)]
    split_ifs
    · rw [writeLE_outside (by omega), writeLE_outside (by omega)]
    · rw [writeLE_outside (by omega)]
    · rw [writeLE_outside (by omega)]
    · rfl

theorem submit_holds
    (holds : QueueHolds queue outstanding)
    (pending : Pending queue (total outstanding) psCommand) :
    let after := submitCommand queue psCommand
    QueueHolds after
      (outstanding ++
        [bytesAt after.memory psCommand
          (readLE after.memory 4 psCommand)]) := by
  obtain ⟨memory, result, frame⟩ := submitCommand_eq queue psCommand
  have header := pending.header
  have room := pending.room
  have place := pending.place
  have sizeField : readLE memory 4 psCommand =
      readLE queue.memory 4 psCommand := by
    apply readLE_congr
    intro index indexBound
    exact frame _ (by omega)
  rw [result]
  simp only [updateQueueWoff, sizeField]
  have kept : QueueHolds { queue with memory } outstanding := by
    apply holds.of_frame room
    intro location outside
    exact frame location (by omega)
  obtain ⟨exponent, exponentBound, size⟩ := holds.power
  have stored := kept.stored
  simp only at stored
  refine ⟨holds.power, holds.addressable, holds.readBound, ?_, ?_, ?_, ?_⟩
  · simp only [total_append, total_cons, total_nil, length_bytesAt,
      add_zero]
    rw [size, mask_eq_mod exponentBound, ← size, holds.writeOffset,
      Nat.mod_add_mod, Nat.add_assoc]
  · simpa using room
  · intro command member
    rcases List.mem_append.mp member with older | newest
    · exact holds.sized command older
    · rw [List.mem_singleton] at newest
      subst newest
      refine ⟨?_, ?_, ?_⟩
      · rwa [length_bytesAt]
      · rw [length_bytesAt]
        exact pending.bounded
      · simp only [sizeofCommand] at header
        rw [headWord_bytesAt memory (by omega), length_bytesAt]
        exact sizeField
  · rw [stored_append]
    refine ⟨stored, ?_, trivial⟩
    rw [length_bytesAt, ← holds.writeOffset, ← place]

/-! ## Processing -/

/-- Accepting the head command moves the read offset over it. -/
theorem QueueHolds.accept
    {command : List UInt8}
    {rest : List (List UInt8)}
    (holds : QueueHolds queue (command :: rest)) :
    readLE queue.memory 4 (queue.pvLinQueueKM + queue.ui32ReadOffset) =
        command.length ∧
      bytesAt queue.memory (queue.pvLinQueueKM + queue.ui32ReadOffset)
        command.length = command ∧
      QueueHolds (updateQueueRoff queue command.length) rest := by
  have sized := holds.sized command List.mem_cons_self
  have stored := holds.stored
  have readBound := holds.readBound
  have filled := holds.filled
  have writeOffset := holds.writeOffset
  obtain ⟨exponent, exponentBound, size⟩ := holds.power
  simp only [Stored, mod_eq_of_lt readBound] at stored
  obtain ⟨bytes, restStored⟩ := stored
  have long : 4 ≤ command.length := le_trans (by decide) sized.header
  have head : readLE queue.memory 4
      (queue.pvLinQueueKM + queue.ui32ReadOffset) = command.length := by
    rw [← headWord_bytesAt queue.memory long, bytes]
    exact sized.uCmdSize
  have moved : (updateQueueRoff queue command.length).ui32ReadOffset =
      (queue.ui32ReadOffset + command.length) % queue.ui32QueueSize := by
    simp only [updateQueueRoff, size]
    exact mask_eq_mod exponentBound _
  rw [total_cons] at filled writeOffset
  refine ⟨head, bytes, holds.power, holds.addressable, ?_, ?_, ?_, ?_, ?_⟩
  · rw [moved]
    exact mod_lt _ holds.sizePositive
  · rw [moved]
    simp only [updateQueueRoff]
    rw [Nat.mod_add_mod, writeOffset, Nat.add_assoc]
  · simp only [updateQueueRoff]
    omega
  · intro other member
    exact holds.sized other (List.mem_cons_of_mem _ member)
  · rw [moved]
    exact stored_mod (Nat.mod_mod _ _).symm restStored

/-- A pass accepts a prefix of the outstanding commands and leaves the rest;
it accepts all of them when no verdict stops it. -/
theorem processQueue_holds
    (holds : QueueHolds queue outstanding)
    (verdicts : List Bool) :
    ∃ rest,
      outstanding = (processQueue queue verdicts).2 ++ rest ∧
        QueueHolds (processQueue queue verdicts).1 rest ∧
        (∃ ui32ReadOffset, (processQueue queue verdicts).1 =
          { queue with ui32ReadOffset }) ∧
        (outstanding.length ≤ verdicts.length → false ∉ verdicts →
          rest = []) := by
  induction verdicts generalizing queue outstanding with
  | nil =>
    refine ⟨outstanding, rfl, holds, ⟨_, rfl⟩, ?_⟩
    intro short _
    exact List.eq_nil_of_length_eq_zero (Nat.le_zero.mp short)
  | cons accepted verdicts ih =>
    cases outstanding with
    | nil =>
      rw [processQueue, if_pos (holds.offsets_eq_iff.mpr rfl)]
      exact ⟨[], rfl, holds, ⟨_, rfl⟩, fun _ _ => rfl⟩
    | cons command rest =>
      have different : queue.ui32ReadOffset ≠ queue.ui32WriteOffset :=
        fun same => by simpa using holds.offsets_eq_iff.mp same
      rw [processQueue, if_neg different]
      cases accepted with
      | false =>
        refine ⟨command :: rest, rfl, holds, ⟨_, rfl⟩, ?_⟩
        intro _ noStop
        simp at noStop
      | true =>
        obtain ⟨size, bytes, kept⟩ := holds.accept
        obtain ⟨last, split, after, ⟨offset, fields⟩, drained⟩ := ih kept
        simp only [if_true, size, bytes]
        refine ⟨last, congrArg (command :: ·) split, after,
          ⟨offset, fields⟩, ?_⟩
        intro short noStop
        apply drained
        · simpa using short
        · exact fun stop => noStop (List.mem_cons_of_mem _ stop)

/-! ## Runs -/

/-- What every run of calls on a queue keeps. -/
structure RingInvariant
    (base size : Nat)
    (initial : Memory)
    (system : RingSystem)
    (outstanding : List (List UInt8)) : Prop where
  base_eq : system.queue.pvLinQueueKM = base
  size_eq : system.queue.ui32QueueSize = size
  holds : QueueHolds system.queue outstanding
  once : system.submitted = system.accepted ++ outstanding
  pending : ∀ psCommand, system.inserted = some psCommand →
    Pending system.queue (total outstanding) psCommand
  frame : ∀ location,
    location < base ∨ base + size + pvrsrvMaxCmdSize ≤ location →
    system.queue.memory location = initial location

namespace RingInvariant

variable {base size : Nat} {initial : Memory} {system : RingSystem}
  {outstanding : List (List UInt8)}

/-- Writes into the pending range lie inside the allocation. -/
theorem frame_of_pendingRange
    (invariant : RingInvariant base size initial system outstanding)
    {count : Nat}
    (bounded : count ≤ pvrsrvMaxCmdSize)
    (unchanged : ∀ location,
      location < base + system.queue.ui32WriteOffset ∨
        base + system.queue.ui32WriteOffset + count ≤ location →
      memory location = system.queue.memory location)
    (location : Nat)
    (outside : location < base ∨
      base + size + pvrsrvMaxCmdSize ≤ location) :
    memory location = initial location := by
  have writeBound := invariant.holds.writeBound
  rw [invariant.size_eq] at writeBound
  rw [unchanged location (by omega)]
  exact invariant.frame location outside

theorem insert
    (invariant : RingInvariant base size initial system outstanding)
    (args : InsertArgs) :
    RingInvariant base size initial (system.step (.insert args))
      outstanding := by
  rw [RingSystem.step]
  split
  · exact invariant
  · rename_i queue psCommand result
    have inserted := inserted_of_insertCommand result
    obtain ⟨holds, pending⟩ := inserted.holds invariant.holds
    have same := inserted.after_eq
    have frame := inserted.frame
    rw [inserted.place, invariant.base_eq] at frame
    refine ⟨?_, ?_, holds, invariant.once, ?_, ?_⟩
    · rw [same]
      exact invariant.base_eq
    · rw [same]
      exact invariant.size_eq
    · intro other found
      cases found
      exact pending
    · exact invariant.frame_of_pendingRange inserted.bounded frame

section

variable (invariant : RingInvariant base size initial system outstanding)
include invariant

theorem fill
    (index : Nat)
    (byte : UInt8) :
    RingInvariant base size initial (system.step (.fill index byte))
      outstanding := by
  rw [RingSystem.step]
  split
  · exact invariant
  · rename_i psCommand found
    split_ifs with inside
    · have pending := invariant.pending psCommand found
      obtain ⟨holds, kept⟩ :=
        fill_holds invariant.holds pending inside byte.toNat
      refine ⟨invariant.base_eq, invariant.size_eq, holds, invariant.once,
        ?_, ?_⟩
      · intro other foundOther
        obtain rfl : psCommand = other :=
          Option.some.inj (found.symm.trans foundOther)
        exact kept
      · apply invariant.frame_of_pendingRange pending.bounded
        have place := pending.place
        have dataStart := pending.dataStart
        have dataEnd := pending.dataEnd
        rw [invariant.base_eq] at place
        intro location outside
        exact writeLE_outside (by omega)
    · exact invariant

theorem submit :
    ∃ added,
      added.length = system.inserted.toList.length ∧
        RingInvariant base size initial (system.step .submit)
          (outstanding ++ added) := by
  rw [RingSystem.step]
  split
  · rename_i none
    exact ⟨[], by rw [none]; rfl, by rwa [List.append_nil]⟩
  · rename_i psCommand found
    have pending := invariant.pending psCommand found
    have holds := submit_holds invariant.holds pending
    obtain ⟨memory, result, frame⟩ := submitCommand_eq system.queue psCommand
    have place := pending.place
    have header := pending.header
    rw [invariant.base_eq] at place
    refine ⟨_, by rw [found]; rfl, ?_, ?_, holds, ?_, ?_, ?_⟩
    · rw [result]
      exact invariant.base_eq
    · rw [result]
      exact invariant.size_eq
    · simp only [invariant.once, List.append_assoc]
    · intro other foundOther
      cases foundOther
    · simp only [result, updateQueueWoff]
      apply invariant.frame_of_pendingRange pending.bounded
      intro location outside
      exact frame location (by omega)

theorem process
    (verdicts : List Bool) :
    ∃ rest,
      outstanding = (processQueue system.queue verdicts).2 ++ rest ∧
        RingInvariant base size initial (system.step (.process verdicts))
          rest := by
  obtain ⟨rest, split, holds, ⟨offset, fields⟩, _⟩ :=
    processQueue_holds invariant.holds verdicts
  have shorter : total rest ≤ total outstanding := by
    rw [split, total_append]
    omega
  refine ⟨rest, split, ?_, ?_, holds, ?_, ?_, ?_⟩
  · simp only [RingSystem.step, fields]
    exact invariant.base_eq
  · simp only [RingSystem.step, fields]
    exact invariant.size_eq
  · simp only [RingSystem.step]
    rw [invariant.once, List.append_assoc, ← split]
  · intro psCommand found
    have pending := invariant.pending psCommand found
    have room := pending.room
    simp only [RingSystem.step, fields]
    refine ⟨pending.place, pending.header, pending.bounded, ?_,
      pending.dataStart, pending.dataEnd⟩
    simp only
    omega
  · simp only [RingSystem.step, fields]
    exact invariant.frame

end

/-- One call keeps the invariant. -/
theorem step
    (invariant : RingInvariant base size initial system outstanding)
    (op : RingOp) :
    ∃ after, RingInvariant base size initial (system.step op) after := by
  cases op with
  | insert args => exact ⟨outstanding, invariant.insert args⟩
  | fill index byte => exact ⟨outstanding, invariant.fill index byte⟩
  | submit =>
    obtain ⟨added, _, kept⟩ := invariant.submit
    exact ⟨_, kept⟩
  | process verdicts =>
    obtain ⟨rest, _, kept⟩ := invariant.process verdicts
    exact ⟨rest, kept⟩

/-- A sequence of calls keeps the invariant. -/
theorem run
    (invariant : RingInvariant base size initial system outstanding)
    (ops : List RingOp) :
    ∃ after, RingInvariant base size initial (system.run ops) after := by
  induction ops generalizing system outstanding with
  | nil => exact ⟨outstanding, invariant⟩
  | cons op ops ih =>
    obtain ⟨after, kept⟩ := invariant.step op
    exact ih kept

end RingInvariant

theorem ringInvariant_create
    {ui32QueueSize pvLinQueueKM : Nat}
    (positive : 0 < ui32QueueSize)
    (bounded : ui32QueueSize ≤ 2 ^ 31)
    (addressable : pvLinQueueKM + nearestPower2 ui32QueueSize +
      pvrsrvMaxCmdSize ≤ 2 ^ 64)
    (memory : Memory) :
    RingInvariant pvLinQueueKM (nearestPower2 ui32QueueSize) memory
      (RingSystem.create ui32QueueSize pvLinQueueKM memory) [] := by
  have power := nearestPower2_eq positive bounded
  have sizePositive : 0 < nearestPower2 ui32QueueSize := by
    obtain ⟨exponent, _, size⟩ := power
    rw [size]
    exact Nat.two_pow_pos exponent
  refine ⟨rfl, rfl, ?_, rfl, ?_, fun _ _ => rfl⟩
  · refine ⟨power, addressable, sizePositive, ?_, sizePositive, ?_, trivial⟩
    · exact (Nat.zero_mod _).symm
    · intro command member
      cases member
  · intro psCommand found
    cases found

/-- The state of a queue with the commands that are submitted and not yet
accepted: they are the remaining submissions in order and lie in the buffer
byte for byte, the offsets and the computed space describe exactly them, and
nothing outside the allocation has changed. -/
structure RingSafe
    (base size : Nat)
    (initial : Memory)
    (system : RingSystem)
    (outstanding : List (List UInt8)) : Prop where
  once : system.submitted = system.accepted ++ outstanding
  intact : Stored system.queue.memory base size
    system.queue.ui32ReadOffset outstanding
  readBound : system.queue.ui32ReadOffset < size
  writeBound : system.queue.ui32WriteOffset < size
  empty : system.queue.ui32ReadOffset = system.queue.ui32WriteOffset ↔
    outstanding = []
  space : getSpaceInCmdq system.queue + total outstanding + 1 = size
  inside : ∀ location,
    location < base ∨ base + size + pvrsrvMaxCmdSize ≤ location →
    system.queue.memory location = initial location
  drains : ∀ verdicts, outstanding.length ≤ verdicts.length →
    false ∉ verdicts → (processQueue system.queue verdicts).2 = outstanding

theorem RingInvariant.ringSafe
    {base size : Nat}
    {initial : Memory}
    {system : RingSystem}
    (invariant : RingInvariant base size initial system outstanding) :
    RingSafe base size initial system outstanding where
  once := invariant.once
  intact := by
    rw [← invariant.base_eq, ← invariant.size_eq]
    exact invariant.holds.stored
  readBound := invariant.size_eq ▸ invariant.holds.readBound
  writeBound := invariant.size_eq ▸ invariant.holds.writeBound
  empty := invariant.holds.offsets_eq_iff
  space := invariant.size_eq ▸ invariant.holds.getSpaceInCmdq_eq
  inside := invariant.frame
  drains := by
    intro verdicts enough noStop
    obtain ⟨rest, split, _, _, drained⟩ :=
      processQueue_holds invariant.holds verdicts
    rw [drained enough noStop, List.append_nil] at split
    exact split.symm

/-- Any sequence of calls on a created queue leaves it safe. -/
theorem commandQueue_ringSafe
    {ui32QueueSize pvLinQueueKM : Nat}
    (positive : 0 < ui32QueueSize)
    (bounded : ui32QueueSize ≤ 2 ^ 31)
    (addressable : pvLinQueueKM + nearestPower2 ui32QueueSize +
      pvrsrvMaxCmdSize ≤ 2 ^ 64)
    (memory : Memory)
    (ops : List RingOp) :
    ∃ outstanding,
      RingSafe pvLinQueueKM (nearestPower2 ui32QueueSize) memory
        ((RingSystem.create ui32QueueSize pvLinQueueKM memory).run ops)
        outstanding := by
  obtain ⟨outstanding, kept⟩ :=
    (ringInvariant_create positive bounded addressable memory).run ops
  exact ⟨outstanding, kept.ringSafe⟩

/-- A flip command without sync objects, with 64 bytes of private data. -/
def flipArgs : InsertArgs where
  ui32ProcessID := 7
  ui32DevIndex := 1
  commandType := 1
  dstSync := []
  srcSync := []
  ui32DataByteSize := 62
  sizeBound := by decide

/-- The display class queue after one command is submitted, a second one
inserted and the first one processed. -/
theorem commandQueue_ringSafe_flip :
    ∃ outstanding,
      RingSafe 4096 (nearestPower2 1024) (fun _ => 0)
        ((RingSystem.create 1024 4096 fun _ => 0).run
          [.insert flipArgs, .fill 3 9, .submit, .insert flipArgs,
            .process [true]])
        outstanding :=
  commandQueue_ringSafe (by decide) (by decide)
    (by simp [nearestPower2, nearestPower2Loop, pvrsrvMaxCmdSize]) _ _

end PvrServices.Queue
