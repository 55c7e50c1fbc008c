import PvrServices.Arena.Serving
import PvrServices.Lib.Padding

/-!
# The size of an import

When no free segment fits, the arena asks for a span that it pads if the
alignment is larger than the quantum.  The callback hands over a span whose
base is a multiple of the quantum.  The span serves the request if no sum
wraps and, for an alignment up to the quantum, the padding of the worst base
leaves room.
-/

namespace PvrServices.Arena

open RaArena
open Padding

variable {arena after : RaArena} {request : Request} {answers : Answers}
  {span : Import} {uQuantum alignment : Nat}

/-- The import callback hands over a span of the wanted size, base and flags,
and no allocation fails. -/
structure Supplied (arena : RaArena) (request : Request) (answers : Answers)
    (span : Import) : Prop where
  handed : arena.importAlloc request answers = some span
  offered : Offered arena.tags span
  enough : importSize arena.uQuantum request ≤ span.uSize.toNat
  multiple : arena.uQuantum ∣ span.base.toNat
  flags : FlagsMatch request span.psMapping
  first : answers.first = .granted
  tags : answers.tags = ⟨true, true, true⟩
  second : answers.second = .granted

/-- Whatever span is supplied, `RA_Alloc` can use it. -/
def ImportSuffices (uQuantum : BitVec 32) (request : Request) : Prop :=
  ∀ arena answers span, Invariant arena → arena.uQuantum = uQuantum.toNat →
    Supplied arena request answers span →
      ∃ after allocation,
        arena.raAlloc request answers = some (after, some allocation)

/-- The padding that a request needs in the worst span. -/
def requestPad (uQuantum : Nat) (request : Request) : Nat :=
  if 1 < request.uAlignment.toNat then
    worstPad uQuantum request.uAlignment.toNat
      (request.uAlignmentOffset.toNat % request.uAlignment.toNat)
  else 0

section

variable (supplied : Supplied arena request answers span)
  (invariant : Invariant arena)
include supplied invariant

/-- An arena without a segment that fits imports the span, and the second
attempt decides. -/
theorem Supplied.second_attempt
    (unfit : ∀ tag ∈ arena.tags, tag.type = .free → ¬Fits request tag) :
    ∃ linked, Invariant linked ∧ Linked arena linked span ∧
      arena.raAlloc request answers =
        linked.attemptAllocAligned request .granted := by
  have refused := invariant.refused unfit answers.first
  obtain ⟨spans, sound⟩ := invariant
  rcases allocImported_spec sound (importAlloc_importing supplied.handed).1
      supplied.offered request answers with
    ⟨failed, _⟩ | ⟨_, linked, all, spansLinked, _, linkedSound, isLinked,
      stepEq⟩
  · exact absurd supplied.tags failed
  · refine ⟨linked, linkedSound.invariant, isLinked, ?_⟩
    rw [raAlloc, refused]
    simp only [supplied.handed]
    rw [stepEq, supplied.second]

/-- A span that fits serves the request. -/
theorem Supplied.succeeds
    (fits : Fits request span.segment) :
    ∃ after allocation,
      arena.raAlloc request answers = some (after, some allocation) := by
  obtain ⟨middle, first, _, refused, complete⟩ :=
    attempt_complete invariant request
  by_cases served : ∃ tag ∈ arena.tags, tag.type = .free ∧ Fits request tag
  · obtain ⟨isServed, _, _, direct⟩ := complete served
    obtain ⟨allocation, rfl⟩ := Option.ne_none_iff_exists'.mp isServed
    exact ⟨middle, allocation, direct answers supplied.first⟩
  · have unfit : ∀ tag ∈ arena.tags, tag.type = .free → ¬Fits request tag :=
      fun tag member free tagFits => served ⟨tag, member, free, tagFits⟩
    obtain ⟨linked, linkedInvariant, isLinked, stepEq⟩ :=
      supplied.second_attempt invariant unfit
    obtain ⟨last, second, attempted, _, secondComplete⟩ :=
      attempt_complete linkedInvariant request
    have member : span.segment ∈ linked.tags :=
      (isLinked.mem span.segment).mpr (Or.inr span.segment_mem)
    obtain ⟨isServed, _⟩ := secondComplete ⟨span.segment, member, rfl, fits⟩
    obtain ⟨allocation, rfl⟩ := Option.ne_none_iff_exists'.mp isServed
    exact ⟨last, allocation, stepEq.trans attempted⟩

/-- A span that does not fit is imported in vain. -/
theorem Supplied.fails
    (unfitBefore : ∀ tag ∈ arena.tags, tag.type = .free → ¬Fits request tag)
    (unfit : ¬Fits request span.segment) :
    ∃ after, arena.raAlloc request answers = some (after, none) := by
  obtain ⟨linked, linkedInvariant, isLinked, stepEq⟩ :=
    supplied.second_attempt invariant unfitBefore
  refine ⟨linked, ?_⟩
  rw [stepEq]
  apply linkedInvariant.refused
  intro tag member free
  rcases (isLinked.mem tag).mp member with old | new
  · exact unfitBefore tag old free
  · rw [span.free_of_fresh new free]
    exact unfit

end

/-! ## The padding of a request -/

/-- With the padding of the worst base the request fits. -/
theorem fits_of_pad
    (multiple : uQuantum ∣ span.base.toNat)
    (flags : FlagsMatch request span.psMapping)
    (room : request.uSize.toNat + requestPad uQuantum request ≤
      span.uSize.toNat) :
    Fits request span.segment := by
  refine ⟨?_, flags⟩
  change ∃ base, span.base.toNat ≤ base ∧
    base + request.uSize.toNat ≤ span.base.toNat + span.uSize.toNat ∧
      Aligned request base
  unfold requestPad at room
  by_cases large : 1 < request.uAlignment.toNat
  · rw [if_pos large] at room
    have small := Nat.mod_lt request.uAlignmentOffset.toNat
      (Nat.zero_lt_of_lt large)
    obtain ⟨pad, below, aligned⟩ := exists_pad (Nat.zero_lt_of_lt large)
      (Nat.le_of_lt small) multiple
    refine ⟨span.base.toNat + pad, by omega, by omega, fun _ => ?_⟩
    rw [Nat.add_right_comm]
    exact Nat.mod_eq_zero_of_dvd aligned
  · rw [if_neg large] at room
    exact ⟨span.base.toNat, Nat.le_refl _, by omega,
      fun aligned => absurd aligned large⟩

/-- The multiples of the quantum within one cycle of the alignment lie below
the address limit. -/
private theorem cycle_bound
    {quantum factor : Nat}
    (positive : 0 < quantum)
    (quantumBound : quantum < 2 ^ 32)
    (alignmentBound : alignment < 2 ^ 32)
    (below : factor < alignment / Nat.gcd quantum alignment) :
    quantum * factor + 2 ^ 32 ≤ addressLimit := by
  have divisorPositive : 0 < Nat.gcd quantum alignment :=
    Nat.gcd_pos_of_pos_left alignment positive
  unfold addressLimit
  rcases Nat.eq_or_lt_of_le (Nat.succ_le_of_lt divisorPositive) with
    coprime | shared
  · rw [← coprime, Nat.div_one] at below
    by_cases top : quantum = 2 ^ 32 - 1
    · have different : alignment ≠ 2 ^ 32 - 1 := by
        rintro same
        rw [top, same, Nat.gcd_self] at coprime
        exact absurd coprime (by decide)
      have scaled : quantum * factor ≤ (2 ^ 32 - 1) * (2 ^ 32 - 3) :=
        Nat.mul_le_mul (by omega) (by omega)
      omega
    · have scaled : quantum * factor ≤ (2 ^ 32 - 2) * (2 ^ 32 - 2) :=
        Nat.mul_le_mul (by omega) (by omega)
      omega
  · have halved : alignment / Nat.gcd quantum alignment ≤ alignment / 2 :=
      Nat.div_le_div_left shared (by decide)
    have scaled : quantum * factor ≤ 2 ^ 32 * 2 ^ 31 :=
      Nat.mul_le_mul (by omega) (by omega)
    omega

/-- A span at the worst base needs the padding. -/
theorem exists_worst_base
    (positive : 0 < uQuantum)
    (bound : uQuantum < 2 ^ 32)
    (request : Request) :
    ∃ base, uQuantum ∣ base ∧ base + 2 ^ 32 ≤ addressLimit ∧
      ∀ span : Import, span.base.toNat = base → Fits request span.segment →
        request.uSize.toNat + requestPad uQuantum request ≤
          span.uSize.toNat := by
  unfold requestPad
  by_cases large : 1 < request.uAlignment.toNat
  · rw [if_pos large]
    have small := Nat.mod_lt request.uAlignmentOffset.toNat
      (Nat.zero_lt_of_lt large)
    obtain ⟨factor, below, worst⟩ := exists_worst positive
      (Nat.zero_lt_of_lt large) (Nat.le_of_lt small)
    refine ⟨uQuantum * factor, Nat.dvd_mul_right .., ?_, ?_⟩
    · exact cycle_bound positive bound request.uAlignment.isLt below
    · rintro span atBase ⟨⟨base, above, room, aligned⟩, _⟩
      simp only [Import.segment] at above room
      have divides := Nat.dvd_of_mod_eq_zero (aligned large)
      have padded := worst (base - span.base.toNat) (by
        rw [Nat.add_right_comm, ← atBase, Nat.add_sub_cancel' above]
        exact divides)
      omega
  · rw [if_neg large]
    refine ⟨0, Nat.dvd_zero _, by decide, ?_⟩
    rintro span _ ⟨⟨base, above, room, _⟩, _⟩
    simp only [Import.segment] at above room
    omega

/-- The imported span is large enough: no sum wraps, and for an alignment up
to the quantum the worst padding fits into the rounded size.  A span is never
empty. -/
def Sufficient (uQuantum : Nat) (request : Request) : Prop :=
  if request.uAlignment.toNat ≤ uQuantum then
    request.uSize.toNat + uQuantum - 1 < 2 ^ 32 ∧
      request.uSize.toNat + requestPad uQuantum request ≤
        max 1 ((request.uSize.toNat + uQuantum - 1) / uQuantum * uQuantum)
  else
    request.uSize.toNat + (request.uAlignment.toNat - 1) + uQuantum - 1 <
      2 ^ 32

instance (uQuantum : Nat) (request : Request) :
    Decidable (Sufficient uQuantum request) :=
  inferInstanceAs (Decidable (ite _ _ _))

private theorem wrap32_rounded_le
    (size uQuantum : Nat) :
    wrap32 (size / uQuantum * uQuantum) ≤ size :=
  Nat.le_trans (Nat.mod_le _ _) (Nat.div_mul_le_self _ _)

/-- A larger alignment is larger by at least the common divisor. -/
private theorem gcd_add_le
    (larger : uQuantum < alignment) :
    uQuantum + Nat.gcd uQuantum alignment ≤ alignment := by
  have difference := Nat.dvd_sub (Nat.gcd_dvd_right uQuantum alignment)
    (Nat.gcd_dvd_left uQuantum alignment)
  have gap := Nat.le_of_dvd (by omega) difference
  omega

/-- The condition says that the request fits into a span of the size that the
arena asks for, whatever its base. -/
theorem sufficient_iff
    (positive : 0 < uQuantum)
    (bound : uQuantum < 2 ^ 32)
    (request : Request) :
    Sufficient uQuantum request ↔
      request.uSize.toNat + requestPad uQuantum request ≤
        max 1 (importSize uQuantum request) := by
  unfold Sufficient
  by_cases within : request.uAlignment.toNat ≤ uQuantum
  · have asked : importSize uQuantum request =
        wrap32 (wrap32 (request.uSize.toNat + uQuantum - 1) / uQuantum *
          uQuantum) := by
      simp only [importSize, if_neg (Nat.not_lt.mpr within)]
    rw [if_pos within, asked]
    by_cases noWrap : request.uSize.toNat + uQuantum - 1 < 2 ^ 32
    · rw [(rounded_size positive noWrap).1]
      exact and_iff_right noWrap
    · have small := wrap32_rounded_le
        (wrap32 (request.uSize.toNat + uQuantum - 1)) uQuantum
      have folded : wrap32 (request.uSize.toNat + uQuantum - 1) ≤
          request.uSize.toNat + uQuantum - 1 - 2 ^ 32 := by
        unfold wrap32
        omega
      constructor
      · exact fun sufficient => absurd sufficient.1 noWrap
      · intro room
        omega
  · have asked : importSize uQuantum request =
        wrap32 (wrap32 (wrap32 (request.uSize.toNat +
          (request.uAlignment.toNat - 1)) + uQuantum - 1) / uQuantum *
            uQuantum) := by
      simp only [importSize, if_pos (Nat.lt_of_not_le within)]
    rw [if_neg within, asked]
    have large : 1 < request.uAlignment.toNat := by omega
    unfold requestPad
    rw [if_pos large]
    have bounds := worstPad_bounds (Nat.zero_lt_of_lt large) uQuantum
      (request.uAlignmentOffset.toNat % request.uAlignment.toNat)
    by_cases noWrap : request.uSize.toNat + (request.uAlignment.toNat - 1) +
        uQuantum - 1 < 2 ^ 32
    · have sum : wrap32 (request.uSize.toNat +
          (request.uAlignment.toNat - 1)) =
            request.uSize.toNat + (request.uAlignment.toNat - 1) :=
        Nat.mod_eq_of_lt (by omega)
      obtain ⟨roundedEq, above, _⟩ := rounded_size positive noWrap
      rw [sum, roundedEq]
      exact iff_of_true noWrap (by omega)
    · have small := wrap32_rounded_le (wrap32 (wrap32 (request.uSize.toNat +
        (request.uAlignment.toNat - 1)) + uQuantum - 1)) uQuantum
      have folded : wrap32 (wrap32 (request.uSize.toNat +
          (request.uAlignment.toNat - 1)) + uQuantum - 1) ≤
            request.uSize.toNat + (request.uAlignment.toNat - 1) +
              uQuantum - 1 - 2 ^ 32 := by
        unfold wrap32
        omega
      have apart := gcd_add_le (Nat.lt_of_not_le within)
      have alignmentBound := request.uAlignment.isLt
      refine iff_of_false noWrap ?_
      omega

/-! ## Sufficiency -/

/-- An import callback that answers with one span. -/
def supplying (span : Import) : Answers where
  first := .granted
  imports := fun _ _ => some span
  tags := ⟨true, true, true⟩
  second := .granted

/-- `RA_Alloc` can use every span that is supplied just when the imported size
is sufficient. -/
theorem importSuffices_iff
    {uQuantum : BitVec 32}
    (positive : 0 < uQuantum.toNat)
    (request : Request) :
    ImportSuffices uQuantum request ↔
      Sufficient uQuantum.toNat request := by
  rw [sufficient_iff positive uQuantum.isLt]
  constructor
  · intro suffices'
    by_contra less
    obtain ⟨base, multiple, below, worst⟩ :=
      exists_worst_base positive uQuantum.isLt request
    have sizeBound : max 1 (importSize uQuantum.toNat request) < 2 ^ 32 :=
      Nat.max_lt.mpr ⟨by decide, Nat.mod_lt _ (by decide)⟩
    unfold addressLimit at below
    let span : Import :=
      { base := BitVec.ofNat 64 base
        uSize := BitVec.ofNat 32 (max 1 (importSize uQuantum.toNat request))
        psMapping := some ⟨0, request.uFlags⟩ }
    have baseEq : span.base.toNat = base := by
      rw [BitVec.toNat_ofNat]
      exact Nat.mod_eq_of_lt (by omega)
    have sizeEq : span.uSize.toNat =
        max 1 (importSize uQuantum.toNat request) := by
      rw [BitVec.toNat_ofNat]
      exact Nat.mod_eq_of_lt sizeBound
    have invariant := (newArena_sound positive true false).invariant
    have supplied : Supplied (newArena uQuantum true false) request
        (supplying span) span := by
      refine ⟨rfl, ⟨?_, ?_, ?_⟩, ?_, ?_, ?_, rfl, rfl, rfl⟩
      · rw [sizeEq]
        exact Nat.lt_of_lt_of_le Nat.zero_lt_one (Nat.le_max_left _ _)
      · rw [baseEq, sizeEq]
        unfold addressLimit
        omega
      · exact fun _ impossible => absurd impossible List.not_mem_nil
      · rw [sizeEq]
        exact Nat.le_max_right _ _
      · rw [baseEq]
        exact multiple
      · intro mapping isMapping
        cases isMapping
        rfl
    obtain ⟨after, allocation, succeeded⟩ :=
      suffices' _ _ _ invariant rfl supplied
    obtain ⟨failed, failedEq⟩ := supplied.fails invariant
      (fun _ impossible => absurd impossible List.not_mem_nil) (by
        intro fits
        have room := worst span baseEq fits
        rw [sizeEq] at room
        exact less room)
    rw [succeeded] at failedEq
    cases failedEq
  · intro room arena answers span invariant quantum supplied
    have enough := supplied.enough
    have notEmpty := supplied.offered.positive
    have multiple := supplied.multiple
    rw [quantum] at enough multiple
    exact supplied.succeeds invariant
      (fits_of_pad multiple supplied.flags (by omega))

/-- A request for a page at an alignment that does not divide the quantum. -/
def unevenRequest : Request where
  uSize := 4096
  uFlags := 0
  uAlignment := 3000
  uAlignmentOffset := 0

/-- A page at a multiple of the quantum. -/
def importedPage : Import where
  base := 4096
  uSize := 4096
  psMapping := some ⟨1, 0⟩

theorem importedPage_supplied :
    Supplied importingArena unevenRequest (supplying importedPage)
      importedPage := by
  refine ⟨rfl, ⟨by decide, by decide, ?_⟩, by decide, by decide, ?_, rfl, rfl,
    rfl⟩
  · exact fun _ impossible => absurd impossible List.not_mem_nil
  · intro mapping isMapping
    cases isMapping
    rfl

theorem importedPage_offers :
    OffersDisjoint importingArena unevenRequest (supplying importedPage) := by
  intro middle attempt span handed
  have unfit : importingArena.attemptAllocAligned unevenRequest
      (supplying importedPage).first = some (importingArena, none) := rfl
  rw [unfit] at attempt
  cases attempt
  cases handed
  exact importedPage_supplied.offered

/-- The page that `RA_Alloc` asks for does not serve the request. -/
theorem importSuffices_uneven :
    ¬ImportSuffices 4096 unevenRequest := by
  intro suffices'
  obtain ⟨after, allocation, succeeded⟩ := suffices' importingArena
    (supplying importedPage) importedPage importingArena_invariant rfl
      importedPage_supplied
  have failed : (importingArena.raAlloc unevenRequest
      (supplying importedPage)).map Prod.snd = some none := rfl
  rw [succeeded] at failed
  cases failed

/-- A page without alignment always fits the page that is imported for it. -/
theorem importSuffices_page :
    ImportSuffices 4096 pageRequest :=
  (importSuffices_iff (by decide) pageRequest).mpr (by decide)

end PvrServices.Arena
