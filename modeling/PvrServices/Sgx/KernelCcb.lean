import PvrServices.Lib.GapRing
import PvrServices.Resman.Base
import Mathlib.Data.BitVec

/-!
# The kernel CCB

The driver hands commands to the microkernel through a ring of 256 slots.
Before a command goes there it takes with it the cache invalidations that have
been asked for.  The microkernel reads the ring on its own, also while the
driver waits for a slot or fills it.  The invalidations are taken and cleared
in one step here, so that nothing is asked for between the two.
-/

namespace PvrServices.SgxKernelCcb

open Function (update update_of_ne update_self)
open Resman GapRing

/-! ## Data -/

/-- `PVRSRV_ERROR_TIMEOUT`. -/
abbrev pvrsrvErrorTimeout : PvrsrvError := 9

/-- `PVRSRV_ERROR_INVALID_CCB_COMMAND`. -/
abbrev pvrsrvErrorInvalidCcbCommand : PvrsrvError := 105

/-- `SGXMKIF_CMD_TA` of `SGXMKIF_CMD_TYPE`. -/
abbrev sgxmkifCmdTa : Int := 0

/-- `SGXMKIF_CMD_MAX`. -/
abbrev sgxmkifCmdMax : Int := 11

/-- `SGXMKIF_COMMAND`. -/
structure SgxmkifCommand where
  ui32ServiceAddress : BitVec 32
  ui32CacheControl : BitVec 32
  ui32Data : Fin 6 → BitVec 32
deriving DecidableEq

/-- `PVRSRV_MISC_INFO_CPUCACHEOP_TYPE`. -/
inductive CpuCacheOpType where
  | none
  | clean
  | flush
deriving DecidableEq, Repr

/-- What `SGXScheduleCCBCommand` reads and writes: the ring with its offsets,
the counter of the kicks, the pending invalidations, the addresses to kick, the
pending CPU cache operation and those that were carried out.  The last two
fields are not the driver's: what it put into the ring, and what the
microkernel has read. -/
structure KernelCcb where
  psCommands : Nat → SgxmkifCommand
  ui32WriteOffset : BitVec 32
  ui32ReadOffset : BitVec 32
  ui32KernelCCBEventKicker : BitVec 32
  ui32CacheControl : BitVec 32
  aui32HostKickAddr : Int → BitVec 32
  ePendingCacheOpType : CpuCacheOpType
  cpuCacheOps : List CpuCacheOpType
  scheduled : List SgxmkifCommand
  seen : List SgxmkifCommand

/-- The ring after its initialisation. -/
def initialCcb
    (psCommands : Nat → SgxmkifCommand)
    (ui32CacheControl : BitVec 32)
    (aui32HostKickAddr : Int → BitVec 32) :
    KernelCcb where
  psCommands := psCommands
  ui32WriteOffset := 0
  ui32ReadOffset := 0
  ui32KernelCCBEventKicker := 0
  ui32CacheControl := ui32CacheControl
  aui32HostKickAddr := aui32HostKickAddr
  ePendingCacheOpType := .none
  cpuCacheOps := []
  scheduled := []
  seen := []

namespace KernelCcb

/-! ## The microkernel -/

/-- The microkernel reads a command when there is one. -/
def consume (ccb : KernelCcb) : KernelCcb :=
  if ccb.ui32ReadOffset = ccb.ui32WriteOffset then ccb
  else
    { ccb with
      seen := ccb.seen ++ [ccb.psCommands ccb.ui32ReadOffset.toNat]
      ui32ReadOffset := (ccb.ui32ReadOffset + 1) &&& 255 }

/-- The microkernel reads a number of commands. -/
def progress (ccb : KernelCcb) (count : Nat) : KernelCcb :=
  consume^[count] ccb

/-! ## The driver -/

/-- The test of `SGXAcquireKernelCCBSlot`. -/
def SlotFree (ccb : KernelCcb) : Prop :=
  (ccb.ui32WriteOffset + 1) &&& 255 ≠ ccb.ui32ReadOffset

instance (ccb : KernelCcb) : Decidable ccb.SlotFree :=
  inferInstanceAs (Decidable (_ ≠ _))

/-- `SGXAcquireKernelCCBSlot`: the loop looks at the ring until it times out;
`looks` says how many commands the microkernel reads before each look. -/
def sgxAcquireKernelCCBSlot (ccb : KernelCcb) :
    List Nat → KernelCcb × Option Nat
  | [] => (ccb, none)
  | count :: looks =>
    let ccb := ccb.progress count
    if ccb.SlotFree then (ccb, some ccb.ui32WriteOffset.toNat)
    else ccb.sgxAcquireKernelCCBSlot looks

/-- The cache operation that the last TA command of a scene waits for. -/
def cpuCacheOp (ccb : KernelCcb) : KernelCcb :=
  { ccb with
    cpuCacheOps :=
      match ccb.ePendingCacheOpType with
      | .none => ccb.cpuCacheOps
      | op => ccb.cpuCacheOps ++ [op]
    ePendingCacheOpType := .none }

end KernelCcb

/-- The arguments of `SGXScheduleCCBCommand`, with the commands that the
microkernel reads before each look at the ring and after the slot is
filled. -/
structure ScheduleCall where
  eCmdType : Int
  sCommandData : SgxmkifCommand
  bLastInScene : Bool
  looks : List Nat
  late : Nat

namespace KernelCcb

/-- A slot is filled with the caller's command and the pending
invalidations. -/
def fillSlot
    (ccb : KernelCcb)
    (slot : Nat)
    (psCommandData : SgxmkifCommand) :
    KernelCcb :=
  { ccb with
    psCommands := Function.update ccb.psCommands slot
      { psCommandData with ui32CacheControl := ccb.ui32CacheControl }
    ui32CacheControl := 0 }

/-- The slot gets its service address. -/
def setServiceAddress
    (ccb : KernelCcb)
    (slot : Nat)
    (eCmdType : Int) :
    KernelCcb :=
  { ccb with
    psCommands := Function.update ccb.psCommands slot
      { ccb.psCommands slot with
        ui32ServiceAddress := ccb.aui32HostKickAddr eCmdType } }

/-- The write offset moves on, and the microkernel is kicked. -/
def kick (ccb : KernelCcb) : KernelCcb :=
  { ccb with
    scheduled := ccb.scheduled ++ [ccb.psCommands ccb.ui32WriteOffset.toNat]
    ui32WriteOffset := (ccb.ui32WriteOffset + 1) &&& 255
    ui32KernelCCBEventKicker := (ccb.ui32KernelCCBEventKicker + 1) &&& 0xFF }

/-- `SGXScheduleCCBCommand`. -/
def sgxScheduleCCBCommand
    (ccb : KernelCcb)
    (call : ScheduleCall) :
    KernelCcb × PvrsrvError :=
  match ccb.sgxAcquireKernelCCBSlot call.looks with
  | (ccb, none) => (ccb, pvrsrvErrorTimeout)
  | (ccb, some slot) =>
    let ccb := ccb.fillSlot slot call.sCommandData
    if sgxmkifCmdMax ≤ call.eCmdType then
      (ccb, pvrsrvErrorInvalidCcbCommand)
    else
      let ccb :=
        if call.eCmdType = sgxmkifCmdTa ∧ call.bLastInScene then
          ccb.cpuCacheOp
        else ccb
      let ccb := ccb.setServiceAddress slot call.eCmdType
      ((ccb.progress call.late).kick, pvrsrvOk)

end KernelCcb

/-! ## Runs -/

/-- What happens to the ring: the microkernel reads a command, the driver asks
for cache invalidations, or it schedules a command. -/
inductive CcbEvent where
  | consume
  | invalidate (ui32CacheControl : BitVec 32)
  | schedule (call : ScheduleCall)

/-- One step. -/
def KernelCcb.step (ccb : KernelCcb) : CcbEvent → KernelCcb
  | .consume => ccb.consume
  | .invalidate ui32CacheControl =>
    { ccb with
      ui32CacheControl := ccb.ui32CacheControl ||| ui32CacheControl }
  | .schedule call => (ccb.sgxScheduleCCBCommand call).1

/-- A run. -/
def KernelCcb.run (ccb : KernelCcb) (events : List CcbEvent) : KernelCcb :=
  events.foldl KernelCcb.step ccb

/-- The slots that the microkernel has still to read. -/
def KernelCcb.pending (ccb : KernelCcb) : List Nat :=
  occupied 256 ccb.ui32ReadOffset.toNat ccb.ui32WriteOffset.toNat

/-- From one state to a later one an invalidation that is pending stays so until
the next command is scheduled, which carries it. -/
def Delivers (ccb next : KernelCcb) : Prop :=
  ∃ later, next.scheduled = ccb.scheduled ++ later ∧
    ∀ bit, ccb.ui32CacheControl.getLsbD bit = true →
      match later with
      | [] => next.ui32CacheControl.getLsbD bit = true
      | command :: _ => command.ui32CacheControl.getLsbD bit = true

/-- What the ring is for, in every run: the microkernel reads the commands in
the order in which they were scheduled; a slot that it has still to read is not
written; and no invalidation that was asked for is lost. -/
structure Accounted (start : KernelCcb) (events : List CcbEvent) : Prop where
  order : ∀ before after, events = before ++ after →
    (start.run before).scheduled =
      (start.run before).seen ++
        (start.run before).pending.map (start.run before).psCommands
  slots : ∀ before call after,
    events = before ++ CcbEvent.schedule call :: after →
    let waited := ((start.run before).sgxAcquireKernelCCBSlot call.looks).1
    ∀ slot ∈ waited.pending,
      ((start.run before).sgxScheduleCCBCommand call).1.psCommands slot =
        waited.psCommands slot
  delivered : ∀ before during after, events = before ++ during ++ after →
    Delivers (start.run before) (start.run (before ++ during))

/-- The wait for a slot ends before it times out. -/
def KernelCcb.FindsSlot (ccb : KernelCcb) (looks : List Nat) : Prop :=
  ∃ look < looks.length, (ccb.progress (looks.take (look + 1)).sum).SlotFree

/-- A command of unknown type is scheduled only when no invalidation is
pending, or when the ring stays full. -/
def UnknownHarmless (start : KernelCcb) (events : List CcbEvent) : Prop :=
  ∀ before call after, events = before ++ CcbEvent.schedule call :: after →
    sgxmkifCmdMax ≤ call.eCmdType →
    (start.run before).ui32CacheControl = 0 ∨
      ¬ (start.run before).FindsSlot call.looks

/-! ## Offsets -/

/-- The next offset. -/
theorem toNat_add_one_and (offset : BitVec 32) :
    ((offset + 1) &&& 255).toNat = (offset.toNat + 1) % 256 := by
  rw [BitVec.toNat_and, BitVec.toNat_add,
    show (255 : BitVec 32).toNat = 2 ^ 8 - 1 from rfl,
    Nat.and_two_pow_sub_one_eq_mod]
  exact Nat.mod_mod_of_dvd _ (by decide)

/-- The offsets are in the ring, and what was scheduled has been read or is in
the slots that are still to be read. -/
structure Sound (ccb : KernelCcb) : Prop where
  writeBound : ccb.ui32WriteOffset.toNat < 256
  readBound : ccb.ui32ReadOffset.toNat < 256
  order : ccb.scheduled = ccb.seen ++ ccb.pending.map ccb.psCommands

namespace KernelCcb

variable {ccb : KernelCcb}

theorem slotFree_iff :
    ccb.SlotFree ↔
      HasRoom 256 ccb.ui32ReadOffset.toNat ccb.ui32WriteOffset.toNat := by
  rw [SlotFree, HasRoom, ← toNat_add_one_and, ne_eq, ne_eq, BitVec.toNat_inj]

/-- The microkernel changes its offset only. -/
theorem consume_eq (ccb : KernelCcb) :
    ∃ ui32ReadOffset seen,
      ccb.consume = { ccb with ui32ReadOffset, seen } := by
  unfold consume
  split_ifs
  · exact ⟨_, _, rfl⟩
  · exact ⟨_, _, rfl⟩

theorem progress_eq (ccb : KernelCcb) (count : Nat) :
    ∃ ui32ReadOffset seen,
      ccb.progress count = { ccb with ui32ReadOffset, seen } := by
  induction count with
  | zero => exact ⟨_, _, rfl⟩
  | succ count ih =>
    obtain ⟨_, _, progressed⟩ := ih
    obtain ⟨ui32ReadOffset, seen, consumed⟩ := (ccb.progress count).consume_eq
    refine ⟨ui32ReadOffset, seen, ?_⟩
    rw [progress, Function.iterate_succ_apply']
    exact consumed.trans (by rw [progressed])

theorem progress_add (ccb : KernelCcb) (first second : Nat) :
    (ccb.progress first).progress second = ccb.progress (first + second) := by
  rw [progress, progress, progress, Nat.add_comm, Function.iterate_add_apply]

end KernelCcb

namespace Sound

variable {ccb : KernelCcb}

/-- Reading a command keeps the ring sound. -/
theorem consume (sound : Sound ccb) : Sound ccb.consume := by
  unfold KernelCcb.consume
  split_ifs with isEmpty
  · exact sound
  · have nonempty : ccb.ui32ReadOffset.toNat ≠ ccb.ui32WriteOffset.toNat :=
      fun same => isEmpty (BitVec.toNat_inj.mp same)
    refine ⟨sound.writeBound, ?_, ?_⟩
    · rw [toNat_add_one_and]
      exact Nat.mod_lt _ (by decide)
    · have order := sound.order
      rw [KernelCcb.pending, occupied_pop sound.readBound sound.writeBound
        nonempty, List.map_cons, ← toNat_add_one_and] at order
      rw [List.append_assoc]
      exact order

theorem progress (sound : Sound ccb) (count : Nat) :
    Sound (ccb.progress count) := by
  induction count with
  | zero => exact sound
  | succ count ih =>
    rw [KernelCcb.progress, Function.iterate_succ_apply']
    exact ih.consume

/-- A free slot stays free when commands are read. -/
theorem consume_slotFree
    (sound : Sound ccb)
    (slotFree : ccb.SlotFree) :
    ccb.consume.SlotFree := by
  unfold KernelCcb.consume
  split_ifs with isEmpty
  · exact slotFree
  · rw [KernelCcb.slotFree_iff]
    show HasRoom 256 ((ccb.ui32ReadOffset + 1) &&& 255).toNat _
    rw [toNat_add_one_and]
    exact hasRoom_pop sound.readBound sound.writeBound
      fun same => isEmpty (BitVec.toNat_inj.mp same)

theorem progress_slotFree
    (sound : Sound ccb)
    (slotFree : ccb.SlotFree)
    (count : Nat) :
    (ccb.progress count).SlotFree := by
  induction count with
  | zero => exact slotFree
  | succ count ih =>
    rw [KernelCcb.progress, Function.iterate_succ_apply']
    exact (sound.progress count).consume_slotFree ih

/-- The slot at the write offset is not one that is still to be read. -/
theorem write_notMem (sound : Sound ccb) :
    ccb.ui32WriteOffset.toNat ∉ ccb.pending :=
  GapRing.write_notMem sound.readBound sound.writeBound

/-- Filling the slot at the write offset leaves those to be read alone. -/
theorem map_update
    (sound : Sound ccb)
    (command : SgxmkifCommand) :
    ccb.pending.map (update ccb.psCommands
        ccb.ui32WriteOffset.toNat command) =
      ccb.pending.map ccb.psCommands := by
  apply List.map_congr_left
  intro slot member
  apply update_of_ne
  rintro rfl
  exact sound.write_notMem member

/-- Moving the write offset on puts the command last. -/
theorem kick
    (sound : Sound ccb)
    (slotFree : ccb.SlotFree) :
    Sound ccb.kick := by
  refine ⟨?_, sound.readBound, ?_⟩
  · show ((ccb.ui32WriteOffset + 1) &&& 255).toNat < 256
    rw [toNat_add_one_and]
    exact Nat.mod_lt _ (by decide)
  · show ccb.scheduled ++ [_] = ccb.seen ++
      (occupied 256 ccb.ui32ReadOffset.toNat
        ((ccb.ui32WriteOffset + 1) &&& 255).toNat).map ccb.psCommands
    rw [toNat_add_one_and, occupied_push sound.readBound sound.writeBound
      (KernelCcb.slotFree_iff.mp slotFree), List.map_append, sound.order,
      List.append_assoc]
    rfl

end Sound

/-! ## Scheduling -/

namespace KernelCcb

/-- The wait for a slot. -/
theorem sgxAcquireKernelCCBSlot_cases
    (ccb : KernelCcb)
    (looks : List Nat) :
    ∃ count,
      ccb.sgxAcquireKernelCCBSlot looks = (ccb.progress count, none) ∧
          ¬ ccb.FindsSlot looks ∨
        ccb.sgxAcquireKernelCCBSlot looks =
            (ccb.progress count, some ccb.ui32WriteOffset.toNat) ∧
          (ccb.progress count).SlotFree ∧ ccb.FindsSlot looks := by
  induction looks generalizing ccb with
  | nil =>
    refine ⟨0, .inl ⟨rfl, ?_⟩⟩
    rintro ⟨look, below, _⟩
    exact Nat.not_lt_zero look below
  | cons count looks ih =>
    rw [sgxAcquireKernelCCBSlot]
    obtain ⟨_, _, progressed⟩ := ccb.progress_eq count
    have sameOffset : (ccb.progress count).ui32WriteOffset =
        ccb.ui32WriteOffset := by
      rw [progressed]
    by_cases slotFree : (ccb.progress count).SlotFree
    · refine ⟨count, .inr ⟨?_, slotFree, 0, Nat.zero_lt_succ _, ?_⟩⟩
      · rw [if_pos slotFree, sameOffset]
      · simpa using slotFree
    · obtain ⟨more, waited⟩ := ih (ccb.progress count)
      have found_iff : ccb.FindsSlot (count :: looks) ↔
          (ccb.progress count).FindsSlot looks := by
        constructor
        · rintro ⟨look, below, found⟩
          cases look with
          | zero =>
            refine absurd ?_ slotFree
            simpa using found
          | succ look =>
            refine ⟨look, Nat.lt_of_succ_lt_succ below, ?_⟩
            rw [progress_add]
            simpa using found
        · rintro ⟨look, below, found⟩
          refine ⟨look + 1, Nat.succ_lt_succ below, ?_⟩
          rw [progress_add] at found
          simpa using found
      rw [progress_add, sameOffset] at waited
      simp only [if_neg slotFree, found_iff]
      exact ⟨count + more, waited⟩

/-- The command that a call puts into the ring. -/
def commandOf (ccb : KernelCcb) (call : ScheduleCall) : SgxmkifCommand :=
  { call.sCommandData with
    ui32CacheControl := ccb.ui32CacheControl
    ui32ServiceAddress := ccb.aui32HostKickAddr call.eCmdType }

/-- A call waits in vain, has an unknown type, or schedules a command that
carries the pending invalidations. -/
theorem sgxScheduleCCBCommand_cases
    (ccb : KernelCcb)
    (call : ScheduleCall) :
    ∃ count, (ccb.sgxAcquireKernelCCBSlot call.looks).1 = ccb.progress count ∧
      (¬ ccb.FindsSlot call.looks ∧
          ccb.sgxScheduleCCBCommand call =
            (ccb.progress count, pvrsrvErrorTimeout) ∨
        (ccb.progress count).SlotFree ∧ ccb.FindsSlot call.looks ∧
          (sgxmkifCmdMax ≤ call.eCmdType ∧
              ccb.sgxScheduleCCBCommand call =
                ((ccb.progress count).fillSlot ccb.ui32WriteOffset.toNat
                  call.sCommandData, pvrsrvErrorInvalidCcbCommand) ∨
            ¬ sgxmkifCmdMax ≤ call.eCmdType ∧
              ∃ ePendingCacheOpType cpuCacheOps,
                ccb.sgxScheduleCCBCommand call =
                  (({ ccb.progress count with
                      psCommands := update ccb.psCommands
                        ccb.ui32WriteOffset.toNat (ccb.commandOf call)
                      ui32CacheControl := 0
                      ePendingCacheOpType, cpuCacheOps
                    } : KernelCcb).progress call.late |>.kick, pvrsrvOk))) := by
  obtain ⟨count, ⟨acquired, full⟩ | ⟨acquired, slotFree, found⟩⟩ :=
    ccb.sgxAcquireKernelCCBSlot_cases call.looks
  · refine ⟨count, by rw [acquired], .inl ⟨full, ?_⟩⟩
    rw [sgxScheduleCCBCommand, acquired]
  · refine ⟨count, by rw [acquired], .inr ⟨slotFree, found, ?_⟩⟩
    rw [sgxScheduleCCBCommand, acquired]
    by_cases unknown : sgxmkifCmdMax ≤ call.eCmdType
    · exact .inl ⟨unknown, if_pos unknown⟩
    · obtain ⟨_, _, progressed⟩ := ccb.progress_eq count
      refine .inr ⟨unknown, ?_⟩
      simp only [if_neg unknown]
      rw [progressed]
      split_ifs
      · refine ⟨.none, (ccb.cpuCacheOp).cpuCacheOps, ?_⟩
        simp only [cpuCacheOp, fillSlot, setServiceAddress,
          Function.update_idem, update_self]
        rfl
      · refine ⟨ccb.ePendingCacheOpType, ccb.cpuCacheOps, ?_⟩
        simp only [fillSlot, setServiceAddress, Function.update_idem,
          update_self]
        rfl

end KernelCcb

/-! ## Steps -/

theorem Delivers.refl (ccb : KernelCcb) : Delivers ccb ccb :=
  ⟨[], (List.append_nil _).symm, fun _ pending => pending⟩

theorem Delivers.trans
    {first second third : KernelCcb}
    (before : Delivers first second)
    (after : Delivers second third) :
    Delivers first third := by
  obtain ⟨later, scheduled, carried⟩ := before
  obtain ⟨more, scheduledMore, carriedMore⟩ := after
  refine ⟨later ++ more, by rw [scheduledMore, scheduled, List.append_assoc],
    fun bit pending => ?_⟩
  have atSecond := carried bit pending
  cases later with
  | nil => exact carriedMore bit atSecond
  | cons command rest => exact atSecond

/-- The microkernel takes no invalidation away. -/
theorem delivers_progress (ccb : KernelCcb) (count : Nat) :
    Delivers ccb (ccb.progress count) := by
  obtain ⟨_, _, progressed⟩ := ccb.progress_eq count
  rw [progressed]
  exact ⟨[], (List.append_nil _).symm, fun _ pending => pending⟩

/-- What a call leaves in the ring and of the invalidations, when its type is
known. -/
theorem delivers_schedule
    (ccb : KernelCcb)
    (call : ScheduleCall)
    (harmless : sgxmkifCmdMax ≤ call.eCmdType →
      ccb.ui32CacheControl = 0 ∨ ¬ ccb.FindsSlot call.looks) :
    Delivers ccb (ccb.sgxScheduleCCBCommand call).1 := by
  obtain ⟨count, _, ⟨_, timedOut⟩ | ⟨_, found, ⟨unknown, refused⟩ |
    ⟨_, _, _, accepted⟩⟩⟩ := ccb.sgxScheduleCCBCommand_cases call
  · rw [timedOut]
    exact delivers_progress ccb count
  · rw [refused]
    obtain ⟨_, _, progressed⟩ := ccb.progress_eq count
    have nothing := (harmless unknown).resolve_right (not_not_intro found)
    refine ⟨[], ?_, fun bit pending => ?_⟩
    · rw [progressed]
      exact (List.append_nil _).symm
    · rw [nothing] at pending
      simp at pending
  · rw [accepted]
    obtain ⟨_, _, progressed⟩ := ccb.progress_eq count
    rw [progressed]
    obtain ⟨_, _, late⟩ := KernelCcb.progress_eq _ call.late
    rw [late]
    refine ⟨[ccb.commandOf call], ?_, fun bit pending => pending⟩
    show ccb.scheduled ++ [update ccb.psCommands _ _ _] = _
    rw [update_self]

variable {ccb : KernelCcb}

/-- A call leaves the ring sound, and the slots that are to be read as they
were when it got its slot. -/
theorem Sound.schedule
    (sound : Sound ccb)
    (call : ScheduleCall) :
    Sound (ccb.sgxScheduleCCBCommand call).1 ∧
      ∀ slot ∈ (ccb.sgxAcquireKernelCCBSlot call.looks).1.pending,
        (ccb.sgxScheduleCCBCommand call).1.psCommands slot =
          (ccb.sgxAcquireKernelCCBSlot call.looks).1.psCommands slot := by
  obtain ⟨count, acquired, ⟨_, timedOut⟩ | ⟨slotFree, _, ⟨_, refused⟩ |
    ⟨_, ePendingCacheOpType, cpuCacheOps, accepted⟩⟩⟩ :=
      ccb.sgxScheduleCCBCommand_cases call
  · rw [acquired, timedOut]
    exact ⟨sound.progress count, fun _ _ => rfl⟩
  all_goals
    have waitedSound := sound.progress count
    obtain ⟨_, _, progressed⟩ := ccb.progress_eq count
    have sameOffset : (ccb.progress count).ui32WriteOffset =
        ccb.ui32WriteOffset := by
      rw [progressed]
    have sameCommands : (ccb.progress count).psCommands =
        ccb.psCommands := by
      rw [progressed]
    have kept : ∀ command, ∀ slot ∈ (ccb.progress count).pending,
        update (ccb.progress count).psCommands
            ccb.ui32WriteOffset.toNat command slot =
          (ccb.progress count).psCommands slot := by
      intro command slot member
      apply update_of_ne
      rintro rfl
      rw [← sameOffset] at member
      exact waitedSound.write_notMem member
  · rw [acquired, refused]
    refine ⟨⟨waitedSound.writeBound, waitedSound.readBound, ?_⟩, ?_⟩
    · show (ccb.progress count).scheduled = (ccb.progress count).seen ++
        (ccb.progress count).pending.map (update _ _ _)
      rw [← sameOffset, waitedSound.map_update]
      exact waitedSound.order
    · exact kept _
  · rw [acquired, accepted]
    have filledSound : Sound ({ ccb.progress count with
        psCommands := update ccb.psCommands
          ccb.ui32WriteOffset.toNat (ccb.commandOf call)
        ui32CacheControl := 0, ePendingCacheOpType, cpuCacheOps
      } : KernelCcb) := by
      refine ⟨waitedSound.writeBound, waitedSound.readBound, ?_⟩
      show (ccb.progress count).scheduled = (ccb.progress count).seen ++
        (ccb.progress count).pending.map (update _ _ _)
      rw [← sameOffset, ← sameCommands, waitedSound.map_update]
      exact waitedSound.order
    refine ⟨(filledSound.progress call.late).kick
      (filledSound.progress_slotFree slotFree call.late), ?_⟩
    intro slot member
    obtain ⟨_, _, late⟩ := KernelCcb.progress_eq _ call.late
    rw [late, ← kept (ccb.commandOf call) slot member, sameCommands]
    rfl

theorem Sound.step
    {ccb : KernelCcb}
    (sound : Sound ccb)
    (event : CcbEvent) :
    Sound (ccb.step event) := by
  cases event with
  | consume => exact sound.consume
  | invalidate _ => exact ⟨sound.writeBound, sound.readBound, sound.order⟩
  | schedule call => exact (sound.schedule call).1

/-! ## Every run -/

@[simp] theorem KernelCcb.run_append
    (ccb : KernelCcb)
    (first second : List CcbEvent) :
    ccb.run (first ++ second) = (ccb.run first).run second :=
  List.foldl_append

theorem Sound.run
    (sound : Sound ccb)
    (events : List CcbEvent) :
    Sound (ccb.run events) := by
  induction events generalizing ccb with
  | nil => exact sound
  | cons event events ih => exact ih (sound.step event)

theorem sound_initialCcb
    (psCommands : Nat → SgxmkifCommand)
    (ui32CacheControl : BitVec 32)
    (aui32HostKickAddr : Int → BitVec 32) :
    Sound (initialCcb psCommands ui32CacheControl aui32HostKickAddr) := by
  have empty : (0 : BitVec 32).toNat < 256 := by decide
  refine ⟨empty, empty, ?_⟩
  rw [KernelCcb.pending, initialCcb, occupied_empty]
  rfl

/-- No invalidation is lost in a run whose commands of unknown type are
harmless. -/
theorem delivers_run
    {start : KernelCcb}
    {events : List CcbEvent}
    (harmless : UnknownHarmless start events)
    {before during after : List CcbEvent}
    (split : events = before ++ during ++ after) :
    Delivers (start.run before) (start.run (before ++ during)) := by
  induction during using List.reverseRecOn generalizing after with
  | nil =>
    rw [List.append_nil]
    exact .refl _
  | append_singleton during event ih =>
    have shorter : events = before ++ during ++ event :: after := by
      rw [split]
      simp
    have earlier := ih shorter
    refine earlier.trans ?_
    rw [← List.append_assoc, KernelCcb.run_append _ (before ++ during)]
    show Delivers _ ((start.run (before ++ during)).step event)
    cases event with
    | consume => exact delivers_progress _ 1
    | invalidate ui32CacheControl =>
      refine ⟨[], (List.append_nil _).symm, fun bit pending => ?_⟩
      show (_ ||| ui32CacheControl).getLsbD bit = true
      rw [BitVec.getLsbD_or, pending, Bool.true_or]
    | schedule call =>
      exact delivers_schedule _ call
        (harmless (before ++ during) call after (by rw [split]; simp))

/-- The ring does what it is for in a run if and only if the commands of unknown
type are harmless. -/
theorem run_accounted_iff
    (psCommands : Nat → SgxmkifCommand)
    (ui32CacheControl : BitVec 32)
    (aui32HostKickAddr : Int → BitVec 32)
    (events : List CcbEvent) :
    Accounted (initialCcb psCommands ui32CacheControl aui32HostKickAddr)
        events ↔
      UnknownHarmless
        (initialCcb psCommands ui32CacheControl aui32HostKickAddr) events := by
  have sound := sound_initialCcb psCommands ui32CacheControl aui32HostKickAddr
  generalize initialCcb psCommands ui32CacheControl aui32HostKickAddr = start
    at sound
  constructor
  · intro accounted before call after split unknown
    by_contra harmful
    rw [not_or, not_not] at harmful
    obtain ⟨pending, found⟩ := harmful
    obtain ⟨later, scheduled, carried⟩ := accounted.delivered before
      [.schedule call] after (by rw [split]; simp)
    rw [KernelCcb.run_append] at scheduled carried
    obtain ⟨count, _, ⟨full, _⟩ | ⟨_, _, ⟨_, refused⟩ | ⟨known, _⟩⟩⟩ :=
      (start.run before).sgxScheduleCCBCommand_cases call
    · exact full found
    · -- the command is refused after the pending bits were cleared
      obtain ⟨_, _, progressed⟩ := (start.run before).progress_eq count
      have next : (start.run before).run [.schedule call] =
          ((start.run before).progress count).fillSlot
            (start.run before).ui32WriteOffset.toNat call.sCommandData :=
        congrArg Prod.fst refused
      rw [next, progressed] at scheduled carried
      obtain rfl : later = [] := List.self_eq_append_right.mp scheduled
      apply pending
      apply BitVec.eq_of_getLsbD_eq
      intro bit _
      cases isSet : (start.run before).ui32CacheControl.getLsbD bit with
      | true => exact absurd (carried bit isSet) (by simp [KernelCcb.fillSlot])
      | false => simp
    · exact known unknown
  · intro harmless
    refine ⟨fun before _ _ => (sound.run before).order, ?_, ?_⟩
    · intro before call _ _
      exact ((sound.run before).schedule call).2
    · intro before during after split
      exact delivers_run harmless split

/-- A command of unknown type takes a pending invalidation with it. -/
theorem run_accounted_unknown :
    ¬ Accounted (initialCcb (fun _ => ⟨0, 0, fun _ => 0⟩) 0 fun _ => 0)
      [.invalidate 1, .schedule ⟨11, ⟨0, 0, fun _ => 0⟩, false, [0], 0⟩] := by
  intro accounted
  obtain ⟨later, scheduled, carried⟩ := accounted.delivered [.invalidate 1]
    [.schedule ⟨11, ⟨0, 0, fun _ => 0⟩, false, [0], 0⟩] [] rfl
  obtain rfl : later = [] := List.self_eq_append_right.mp scheduled
  exact absurd (carried 0 (by decide)) (by decide)

end PvrServices.SgxKernelCcb
