import PvrServices.UserPages.Acquire
import Mathlib.Algebra.Group.Int.Defs
import Mathlib.Algebra.Group.Basic

/-!
# The pages of a user range are given back

A call that fails drops the references it took, and so does the release of
what a successful call hands out.  The addresses stored are those of the pages
at the low half of the user address, so that they are right only where these
are the pages of the range, and where the walk gets to the last of them.
-/

namespace PvrServices.UserPages

open Function (update update_self update_of_ne)

variable {memory : UserMemory} {refs : Nat → Int} {work : Work}
  {ppsPages : Nat → Option Nat} {i n first : Nat}

/-! ## References -/

/-- References on a page that are held by an array. -/
def held (ppsPages : Nat → Option Nat) : Nat → Nat → Int
  | 0, _ => 0
  | i + 1, page =>
    held ppsPages i page + if ppsPages i = some page then 1 else 0

section

variable (ppsPages : Nat → Option Nat) (n : Nat) (refs : Nat → Int)

theorem getPages_apply
    (page : Nat) :
    getPages ppsPages n refs page = refs page + held ppsPages n page := by
  induction n with
  | zero => simp [getPages, held]
  | succ i ih =>
    simp only [getPages, held]
    cases ppsPages i with
    | none => simpa using ih
    | some taken =>
      by_cases same : page = taken
      · subst same
        simp [getPage, ih, add_assoc]
      · simp [getPage, ih, same, Ne.symm same]

theorem putPages_apply
    (page : Nat) :
    putPages ppsPages n refs page = refs page - held ppsPages n page := by
  induction n with
  | zero => simp [putPages, held]
  | succ i ih =>
    simp only [putPages, held]
    cases ppsPages i with
    | none => simpa using ih
    | some dropped =>
      by_cases same : page = dropped
      · subst same
        simp [putPage, ih, sub_sub]
      · simp [putPage, ih, same, Ne.symm same]

end

theorem held_of_none
    (none : ∀ j, ppsPages j = Option.none)
    (n page : Nat) :
    held ppsPages n page = 0 := by
  induction n with
  | zero => rfl
  | succ i ih => simp [held, ih, none]

theorem held_update
    (none : ppsPages i = Option.none)
    (taken n page : Nat) :
    held (update ppsPages i (some taken)) n page =
      held ppsPages n page + if i < n ∧ page = taken then 1 else 0 := by
  induction n with
  | zero => simp [held]
  | succ j ih =>
    simp only [held, ih]
    rcases Nat.lt_trichotomy i j with less | rfl | more
    · rw [update_of_ne (Nat.ne_of_gt less)]
      simp only [less, Nat.lt_succ_of_lt less, true_and]
      omega
    · simp only [update_self, none, Option.some.injEq, Nat.lt_irrefl,
        false_and, if_false, reduceCtorEq, Nat.lt_succ_self, true_and,
        add_zero, eq_comm]
    · rw [update_of_ne (Nat.ne_of_lt more)]
      simp only [Nat.not_lt_of_lt more, Nat.not_lt_of_le more, false_and,
        if_false, add_zero]

/-- The references a call has taken are those that a release drops. -/
def Work.Balanced (work : Work) (refs : Nat → Int) : Prop :=
  osReleasePhysPageAddr work.info work.refs = refs

/-- A walk holds one reference on each page structure in its array. -/
structure Held (n : Nat) (refs : Nat → Int) (work : Work) : Prop where
  eType : work.info.eType = .findVma
  iNumPages : work.info.iNumPages = n
  refs : ∀ page, work.refs page = refs page + held work.info.ppsPages n page

theorem Held.balanced
    (held : Held n refs work) :
    work.Balanced refs := by
  funext page
  simp only [osReleasePhysPageAddr, held.eType]
  rw [putPages_apply, held.refs, held.iNumPages, add_sub_cancel_right]

/-! ## Storing addresses -/

theorem store_cases
    (work : Work)
    (i ulPFN : Nat) :
    work.store i ulPFN = (work, false) ∨
      ∃ psPhysAddr, work.store i ulPFN = ({ work with
        info := { work.info with psPhysAddr }
        psSysPAddr := update work.psSysPAddr i (some (ulPFN * 4096)) },
        true) := by
  unfold Work.store Work.storeAddr
  simp only
  split_ifs with outside
  · exact Or.inl rfl
  · have whole : ulPFN * 4096 % 2 ^ 32 = ulPFN * 4096 := by omega
    rw [whole]
    exact Or.inr ⟨_, rfl⟩

/-- The loop over the pages of `get_user_pages` stores their addresses. -/
theorem storePages_spec
    {page : Nat → Nat}
    (filled : ∀ j < n, work.info.ppsPages j = some (page j)) :
    ∃ psPhysAddr psSysPAddr through,
      storePages n work = some ({ work with
        info := { work.info with psPhysAddr }, psSysPAddr }, through) ∧
      (through = true → ∀ j, psSysPAddr j =
        if j < n then some (page j % 2 ^ 32 * 4096)
        else work.psSysPAddr j) := by
  induction n with
  | zero => exact ⟨_, _, true, rfl, fun _ j => by simp⟩
  | succ i ih =>
    obtain ⟨psPhysAddr, psSysPAddr, through, stores, stored⟩ :=
      ih fun j less => filled j (Nat.lt_succ_of_lt less)
    rw [storePages, stores]
    cases through with
    | false => exact ⟨_, _, false, rfl, nofun⟩
    | true =>
      simp only [filled i (Nat.lt_succ_self i), Option.map_some]
      rcases store_cases { work with
          info := { work.info with psPhysAddr }, psSysPAddr } i
          (page i % 2 ^ 32) with fails | ⟨_, succeeds⟩
      · rw [fails]
        exact ⟨_, _, false, rfl, nofun⟩
      · rw [succeeds]
        refine ⟨_, _, true, rfl, fun _ j => ?_⟩
        simp only
        rcases Nat.lt_trichotomy j i with less | rfl | more
        · rw [update_of_ne (Nat.ne_of_lt less), stored rfl, if_pos less,
            if_pos (Nat.lt_succ_of_lt less)]
        · rw [update_self, if_pos (Nat.lt_succ_self j)]
        · rw [update_of_ne (Nat.ne_of_gt more), stored rfl,
            if_neg (Nat.not_lt_of_lt more), if_neg (Nat.not_lt_of_le more)]

/-! ## The walk -/

/-- The walk has stored the addresses of so many pages. -/
structure Walked (memory : UserMemory) (n first : Nat) (refs : Nat → Int)
    (i : Nat) (work : Work) : Prop where
  held : Held n refs work
  clear : ∀ j, i ≤ j → work.info.ppsPages j = none
  stored : ∀ j, work.psSysPAddr j =
    if j < i then some (memory.frame (first + j) % 2 ^ 32 * 4096) else none

/-- One turn keeps the references, and stores one address more. -/
theorem Walked.step
    (walked : Walked memory n first refs i work)
    (inside : i < n)
    {ulAddr : Nat}
    (isPage : ulAddr / 4096 = first + i) :
    ∃ after through, work.step memory ulAddr i = (after, through) ∧
      Held n refs after ∧
      (through = true → Walked memory n first refs (i + 1) after) := by
  obtain ⟨⟨eType, iNumPages, counted⟩, clear, stored⟩ := walked
  have next : ∀ {after : Work} (_ : Held n refs after)
      (_ : ∀ j, i < j → after.info.ppsPages j = none)
      (_ : after.psSysPAddr = work.psSysPAddr),
      ∃ last through,
        after.store i (memory.frame (first + i) % 2 ^ 32) = (last, through) ∧
        Held n refs last ∧
        (through = true → Walked memory n first refs (i + 1) last) := by
    intro after kept later same
    rcases store_cases after i (memory.frame (first + i) % 2 ^ 32) with
      fails | ⟨psPhysAddr, succeeds⟩
    · rw [fails]
      exact ⟨after, false, rfl, kept, by simp⟩
    · rw [succeeds]
      refine ⟨_, true, rfl, ⟨kept.eType, kept.iNumPages, kept.refs⟩,
        fun _ => ⟨⟨kept.eType, kept.iNumPages, kept.refs⟩, later, ?_⟩⟩
      intro j
      simp only [same]
      rcases Nat.lt_trichotomy j i with less | rfl | more
      · rw [update_of_ne (Nat.ne_of_lt less), stored, if_pos less,
          if_pos (Nat.lt_succ_of_lt less)]
      · rw [update_self, if_pos (Nat.lt_succ_self j)]
      · rw [update_of_ne (Nat.ne_of_gt more), stored,
          if_neg (Nat.not_lt_of_lt more), if_neg (Nat.not_lt_of_le more)]
  unfold Work.step Work.cpuVAddrToPFN
  rw [isPage]
  rcases memory.followPfnmap (first + i) with _ | _ | _
  · exact ⟨work, false, rfl, ⟨eType, iNumPages, counted⟩, by simp⟩
  · exact ⟨work, false, rfl, ⟨eType, iNumPages, counted⟩, by simp⟩
  · cases valid : memory.pfnValid (memory.frame (first + i) % 2 ^ 32) with
    | false =>
      simp only [valid, Bool.false_eq_true, if_false, clear i (Nat.le_refl i)]
      exact next ⟨eType, iNumPages, counted⟩
        (fun j later => clear j (Nat.le_of_lt later)) rfl
    | true =>
      simp only [valid, if_true, update_self]
      refine next ⟨eType, iNumPages, fun page => ?_⟩ (fun j later => ?_) rfl
      · simp only [held_update (clear i (Nat.le_refl i)), inside, true_and]
        by_cases same : page = memory.frame (first + i) % 2 ^ 32
        · subst same
          simp [getPage, counted, add_assoc]
        · rw [getPage, update_of_ne same, counted, if_neg same, add_zero]
      · simp only [update_of_ne (Nat.ne_of_gt later)]
        exact clear j (Nat.le_of_lt later)

/-- The walk ends, by the turns that are left. -/
theorem Walked.walk
    {ulStartAddrOrig ulBeyondEndAddrOrig fuel : Nat}
    (walked : Walked memory n (ulStartAddrOrig / 4096) refs i work)
    (below : ulBeyondEndAddrOrig ≤ 2 ^ 32 - 4096)
    (few : (ulBeyondEndAddrOrig - ulStartAddrOrig + 4095) / 4096 ≤ n)
    (notPast : i ≤ (ulBeyondEndAddrOrig - ulStartAddrOrig + 4095) / 4096)
    (enough :
      (ulBeyondEndAddrOrig - ulStartAddrOrig + 4095) / 4096 < i + fuel) :
    ∃ after through,
      walk memory ulBeyondEndAddrOrig fuel (ulStartAddrOrig + i * 4096) i
          work = some (after, through) ∧
        Held n refs after ∧
        (through = true → Walked memory n (ulStartAddrOrig / 4096) refs
          ((ulBeyondEndAddrOrig - ulStartAddrOrig + 4095) / 4096) after) := by
  induction fuel generalizing i work with
  | zero => omega
  | succ fuel ih =>
    rw [UserPages.walk]
    split_ifs with more
    · obtain ⟨after, through, steps, kept, onward⟩ := walked.step
        (show i < n by omega)
        (show (ulStartAddrOrig + i * 4096) / 4096 =
          ulStartAddrOrig / 4096 + i by omega)
      rw [steps]
      cases through with
      | false => exact ⟨after, false, rfl, kept, nofun⟩
      | true =>
        have address : (ulStartAddrOrig + i * 4096 + 4096) % 2 ^ 32 =
            ulStartAddrOrig + (i + 1) * 4096 := by omega
        simp only [address]
        exact ih (onward rfl) (by omega) (by omega)
    · have last :
          i = (ulBeyondEndAddrOrig - ulStartAddrOrig + 4095) / 4096 := by
        omega
      subst last
      exact ⟨work, true, rfl, walked.held, fun _ => walked⟩

/-! ## The call -/

namespace AcquireCall

variable (call : AcquireCall)

/-- Number of pages that have a byte of the range. -/
def pages : Nat :=
  if call.ui32Bytes.toNat = 0 then 0
  else
    (call.pvCPUVAddr.toNat + call.ui32Bytes.toNat - 1) / 4096 -
      call.pvCPUVAddr.toNat / 4096 + 1

/-- The full physical address of a page of the range. -/
def physAddr (memory : UserMemory) (i : Nat) : Nat :=
  memory.frame (call.pvCPUVAddr.toNat / 4096 + i) * 4096

/-- What the call is for: it stores the physical address of each page, and
drops its references when it fails or is undone. -/
def Sound (memory : UserMemory) (refs : Nat → Int) : Prop :=
  ∃ work result, call.osAcquirePhysPageAddr memory refs =
      some (work, result) ∧
    match result with
    | .error _ => work.refs = refs
    | .ok psInfo => osReleasePhysPageAddr psInfo work.refs = refs ∧
        ∀ i < call.pages, work.psSysPAddr i = some (call.physAddr memory i)

/-- Number of pages that are looked at: of `get_user_pages`, or by the walk,
which counts from the start of the range. -/
def looked (memory : UserMemory) : Nat :=
  if memory.getUserPages.isSome then
    (call.ulBeyondEndAddr - call.ulStartAddr) / 4096
  else (call.ulBeyondEndAddrOrig - call.ulStartAddrOrig + 4095) / 4096

/-- Each page of the range is looked at, and the page at the low half of its
address has the low half of its frame number. -/
def Covered (memory : UserMemory) : Prop :=
  ∀ i < call.pages, i < call.looked memory ∧
    memory.frame (call.ulStartAddrOrig / 4096 + i) % 2 ^ 32 =
      memory.frame (call.pvCPUVAddr.toNat / 4096 + i)

variable {call}

/-- A range of pages that is not empty in 32 bits has room for the turns. -/
theorem turns_le
    (inRange : call.ulStartAddr < call.ulBeyondEndAddr) :
    call.ulBeyondEndAddrOrig ≤ 2 ^ 32 - 4096 ∧
      (call.ulBeyondEndAddrOrig - call.ulStartAddrOrig + 4095) / 4096 ≤
        (call.ulBeyondEndAddr - call.ulStartAddr) / 4096 := by
  unfold ulStartAddr ulBeyondEndAddr at *
  have bounded : call.ulBeyondEndAddrOrig < 2 ^ 32 := Nat.mod_lt _ (by decide)
  have below : call.ulBeyondEndAddrOrig ≤ 2 ^ 32 - 4096 := by omega
  rw [Nat.mod_eq_of_lt (by omega)]
  exact ⟨below, by omega⟩

theorem getUserPages_balanced
    (work : Work)
    (memory : UserMemory)
    (ulStartAddrOrig got : Nat) :
    (work.getUserPages memory ulStartAddrOrig got).Balanced work.refs := by
  funext page
  simp only [osReleasePhysPageAddr, Work.getUserPages]
  rw [putPages_apply, getPages_apply, add_sub_cancel_right]

theorem walked_findVma
    (call : AcquireCall)
    (memory : UserMemory)
    (refs : Nat → Int)
    (n first : Nat)
    (size : (call.work refs).info.iNumPages = n) :
    Walked memory n first refs 0 (call.work refs).findVma where
  held :=
    { eType := rfl
      iNumPages := size
      refs := fun page => by
        change refs page = refs page + held (fun _ => none) n page
        rw [held_of_none fun _ => rfl, add_zero] }
  clear := fun _ _ => rfl
  stored := fun _ => rfl

theorem acquire_spec
    (inRange : call.ulStartAddr < call.ulBeyondEndAddr)
    (memory : UserMemory)
    (refs : Nat → Int) :
    ∃ work succeeds,
      (call.work refs).acquire memory call.ulStartAddrOrig
          call.ulBeyondEndAddrOrig = some (work, succeeds) ∧
        work.Balanced refs ∧
        (succeeds = true → ∀ i, work.psSysPAddr i =
          if i < call.looked memory then
            some (memory.frame (call.ulStartAddrOrig / 4096 + i) %
              2 ^ 32 * 4096)
          else none) := by
  unfold Work.acquire looked
  cases memory.getUserPages with
  | some got =>
    have balanced := getUserPages_balanced (call.work refs) memory
      call.ulStartAddrOrig got
    simp only [Option.isSome_some, if_true]
    split_ifs with short
    · exact ⟨_, false, rfl, balanced, nofun⟩
    · rw [not_not] at short
      have filled : ∀ j < (call.work refs).info.iNumPages,
          ((call.work refs).getUserPages memory call.ulStartAddrOrig
            got).info.ppsPages j =
              some (memory.frame (call.ulStartAddrOrig / 4096 + j)) :=
        fun j less => if_pos (Nat.lt_of_lt_of_eq less short.symm)
      obtain ⟨_, _, through, stores, stored⟩ := storePages_spec filled
      exact ⟨_, through, stores, balanced, stored⟩
  | none =>
    simp only [Option.isSome_none, Bool.false_eq_true, if_false]
    have start := walked_findVma call memory refs _
      (call.ulStartAddrOrig / 4096) rfl
    cases memory.findVma with
    | none => exact ⟨_, false, rfl, start.held.balanced, nofun⟩
    | some psVMArea =>
      simp only
      split_ifs with walkable
      · obtain ⟨below, few⟩ := turns_le inRange
        obtain ⟨after, through, walks, kept, onward⟩ :=
          start.walk below few (Nat.zero_le _)
            (Nat.lt_of_lt_of_eq (Nat.lt_succ_of_le few)
              (Nat.zero_add _).symm)
        rw [Nat.zero_mul, Nat.add_zero] at walks
        change ∃ acquired succeeds, Option.map _
          (walk _ _ ((call.ulBeyondEndAddr - call.ulStartAddr) / 4096 + 1)
            _ 0 _) = some (acquired, succeeds) ∧ _
        rw [walks]
        refine ⟨after, _, rfl, kept.balanced, fun succeeds => ?_⟩
        exact (onward (Bool.and_eq_true_iff.mp succeeds).1).stored
      · exact ⟨_, false, rfl, start.held.balanced, nofun⟩

/-- Every call and every release drops the references taken, and a successful
call stores the addresses of the pages of the range exactly if these are the
pages it has looked at. -/
theorem osAcquirePhysPageAddr_sound_iff
    (call : AcquireCall)
    (memory : UserMemory)
    (refs : Nat → Int) :
    ∃ work result, call.osAcquirePhysPageAddr memory refs =
        some (work, result) ∧
      match result with
      | .error _ => work.refs = refs
      | .ok psInfo => osReleasePhysPageAddr psInfo work.refs = refs ∧
          ((∀ i < call.pages,
              work.psSysPAddr i = some (call.physAddr memory i)) ↔
            call.Covered memory) := by
  unfold osAcquirePhysPageAddr
  simp only
  split_ifs with empty missing
  · exact ⟨_, _, rfl, rfl⟩
  · exact ⟨_, _, rfl, rfl⟩
  · obtain ⟨work, succeeds, acquires, balanced, stored⟩ :=
      acquire_spec (Nat.lt_of_not_le empty) memory refs
    rw [acquires]
    cases succeeds with
    | false => exact ⟨_, _, rfl, balanced⟩
    | true =>
      refine ⟨_, _, rfl, balanced, forall₂_congr fun i _ => ?_⟩
      rw [stored rfl]
      split_ifs with looks
      · rw [Option.some.injEq, physAddr, Nat.mul_left_inj (by decide)]
        exact (and_iff_right looks).symm
      · simp [looks]

end AcquireCall

/-- A process that has a page at 4 KiB and another one at 4 GiB + 4 KiB. -/
def twoPages : UserMemory where
  frame := fun page => if page = 1 then 7 else 8
  getUserPages := some 1
  findVma := none
  followPfnmap := fun _ => none
  pfnValid := fun _ => true

/-- The call for the upper page stores the address of the lower one. -/
theorem osAcquirePhysPageAddr_wrongPage :
    ¬ ∀ (call : AcquireCall) (memory : UserMemory) (refs : Nat → Int),
      call.Sound memory refs := by
  intro sound
  have stores :
      (AcquireCall.osAcquirePhysPageAddr
        ⟨0x100001000, 4096, true, true, true⟩ twoPages fun _ => 0).map
          (fun made => (made.1.psSysPAddr 0, made.2.isOk)) =
        some (some (7 * 4096), true) := by
    decide +kernel
  obtain ⟨work, result, acquires, holds⟩ :=
    sound ⟨0x100001000, 4096, true, true, true⟩ twoPages fun _ => 0
  rw [acquires, Option.map_some, Option.some.injEq, Prod.mk.injEq] at stores
  cases result with
  | error => cases stores.2
  | ok psInfo =>
    have stored := holds.2 0 (by decide)
    rw [stores.1] at stored
    exact absurd stored (by decide)

end PvrServices.UserPages
