import Mathlib.Data.Int.GCD
import Mathlib.Tactic.Ring

/-!
# Padding to an alignment

Bases that are multiples of a quantum are padded until the base and a phase
together are a multiple of an alignment.  How much padding the worst of them
needs depends on the greatest common divisor of the quantum and the alignment.
-/

namespace PvrServices.Padding

/-- The padding that the worst multiple of the quantum needs. -/
def worstPad (quantum alignment phase : Nat) : Nat :=
  alignment - Nat.gcd quantum alignment +
    (alignment - phase) % Nat.gcd quantum alignment

variable {quantum alignment phase base : Nat}

theorem worstPad_bounds
    (positive : 0 < alignment)
    (quantum phase : Nat) :
    alignment - Nat.gcd quantum alignment ≤
        worstPad quantum alignment phase ∧
      worstPad quantum alignment phase < alignment := by
  have divisorPositive : 0 < Nat.gcd quantum alignment :=
    Nat.gcd_pos_of_pos_right quantum positive
  have below := Nat.gcd_le_right quantum positive
  have remainder := Nat.mod_lt (alignment - phase) divisorPositive
  unfold worstPad
  omega

/-- The worst padding and the phase make up a multiple of the divisor. -/
theorem dvd_phase_add_worstPad
    (small : phase ≤ alignment) :
    Nat.gcd quantum alignment ∣ phase + worstPad quantum alignment phase := by
  have divides := Nat.gcd_dvd_right quantum alignment
  have split := Nat.div_add_mod (alignment - phase) (Nat.gcd quantum alignment)
  have rest : phase + (alignment - phase) % Nat.gcd quantum alignment =
      alignment - Nat.gcd quantum alignment *
        ((alignment - phase) / Nat.gcd quantum alignment) := by
    omega
  have front : Nat.gcd quantum alignment ∣
      alignment - Nat.gcd quantum alignment :=
    Nat.dvd_sub divides (dvd_refl _)
  have back : Nat.gcd quantum alignment ∣
      phase + (alignment - phase) % Nat.gcd quantum alignment := by
    rw [rest]
    exact Nat.dvd_sub divides (Nat.dvd_mul_right _ _)
  rw [worstPad, Nat.add_left_comm]
  exact Nat.dvd_add front back

/-- No multiple of the quantum needs more padding. -/
theorem exists_pad
    (positive : 0 < alignment)
    (small : phase ≤ alignment)
    (multiple : quantum ∣ base) :
    ∃ pad ≤ worstPad quantum alignment phase,
      alignment ∣ base + phase + pad := by
  have remainder := Nat.mod_lt (base + phase) positive
  have split := Nat.div_add_mod (base + phase) alignment
  by_cases exact' : (base + phase) % alignment = 0
  · exact ⟨0, Nat.zero_le _, Nat.dvd_of_mod_eq_zero exact'⟩
  · have aligned : alignment ∣
        base + phase + (alignment - (base + phase) % alignment) := by
      refine ⟨(base + phase) / alignment + 1, ?_⟩
      rw [Nat.mul_add, Nat.mul_one]
      omega
    refine ⟨_, ?_, aligned⟩
    -- A larger padding would be larger by a multiple of the divisor.
    by_contra larger
    have ofBase : Nat.gcd quantum alignment ∣ base :=
      (Nat.gcd_dvd_left quantum alignment).trans multiple
    have padded := (Nat.gcd_dvd_right quantum alignment).trans aligned
    rw [Nat.add_assoc, Nat.dvd_add_right ofBase] at padded
    have difference := Nat.dvd_sub padded (dvd_phase_add_worstPad small)
    have gap := Nat.le_of_dvd (by omega) difference
    have bounds := worstPad_bounds positive quantum phase
    omega

/-- The greatest common divisor is a multiple of the quantum up to multiples
of the alignment. -/
private theorem exists_factor_gcd
    (quantumPositive : 0 < quantum)
    (positive : 0 < alignment) :
    ∃ factor turns,
      quantum * factor = alignment * turns + Nat.gcd quantum alignment := by
  rcases Nat.eq_or_lt_of_le (Nat.gcd_le_right quantum positive) with
    whole | smaller
  · obtain ⟨turns, turnsEq⟩ := Nat.gcd_eq_right_iff_dvd.mp whole
    refine ⟨1, turns - 1, ?_⟩
    have turnsPositive : 0 < turns := by
      rcases Nat.eq_zero_or_pos turns with rfl | turnsPositive
      · omega
      · exact turnsPositive
    rw [whole, Nat.mul_one, turnsEq, Nat.mul_sub, Nat.mul_one]
    have large := Nat.le_mul_of_pos_right alignment turnsPositive
    omega
  · obtain ⟨factor, _, factorEq⟩ := Nat.exists_mul_mod_eq_gcd smaller
    refine ⟨factor, quantum * factor / alignment, ?_⟩
    rw [← factorEq]
    exact (Nat.div_add_mod _ _).symm

/-- Some multiple of the quantum needs the worst padding. -/
theorem exists_worst
    (quantumPositive : 0 < quantum)
    (positive : 0 < alignment)
    (small : phase ≤ alignment) :
    ∃ factor < alignment / Nat.gcd quantum alignment, ∀ pad,
      alignment ∣ quantum * factor + phase + pad →
        worstPad quantum alignment phase ≤ pad := by
  obtain ⟨factor, turns, factorEq⟩ :=
    exists_factor_gcd quantumPositive positive
  obtain ⟨multiple, multipleEq⟩ := dvd_phase_add_worstPad small
  have divisorPositive : 0 < Nat.gcd quantum alignment :=
    Nat.gcd_pos_of_pos_right quantum positive
  obtain ⟨share, shareEq⟩ := Nat.gcd_dvd_left quantum alignment
  have cycle : Nat.gcd quantum alignment *
      (alignment / Nat.gcd quantum alignment) = alignment :=
    Nat.mul_div_cancel' (Nat.gcd_dvd_right quantum alignment)
  have cyclePositive : 0 < alignment / Nat.gcd quantum alignment := by
    rcases Nat.eq_zero_or_pos (alignment / Nat.gcd quantum alignment) with
      none | some
    · rw [none] at cycle
      omega
    · exact some
  -- The factor is the negative of the multiple, taken modulo the cycle.
  refine ⟨factor * multiple * (alignment - 1) %
    (alignment / Nat.gcd quantum alignment), Nat.mod_lt _ cyclePositive, ?_⟩
  obtain ⟨before, alignmentEq⟩ : ∃ before, alignment = before + 1 :=
    ⟨alignment - 1, by omega⟩
  have whole : alignment ∣
      quantum * (factor * multiple * (alignment - 1)) +
        (phase + worstPad quantum alignment phase) := by
    refine ⟨turns * multiple * before +
      Nat.gcd quantum alignment * multiple, ?_⟩
    calc
      quantum * (factor * multiple * (alignment - 1)) +
          (phase + worstPad quantum alignment phase) =
          quantum * factor * (multiple * before) +
            Nat.gcd quantum alignment * multiple := by
        rw [multipleEq, show alignment - 1 = before by omega]
        ring
      _ = alignment * (turns * multiple * before) +
            Nat.gcd quantum alignment * multiple * (before + 1) := by
        rw [factorEq]
        ring
      _ = _ := by
        rw [← alignmentEq]
        ring
  generalize factor * multiple * (alignment - 1) = large at whole ⊢
  have reduced : alignment ∣
      quantum * (large % (alignment / Nat.gcd quantum alignment)) +
        (phase + worstPad quantum alignment phase) := by
    have split := Nat.div_add_mod large (alignment / Nat.gcd quantum alignment)
    generalize large % (alignment / Nat.gcd quantum alignment) = rest at *
    generalize large / (alignment / Nat.gcd quantum alignment) = times at *
    have quantumEq : quantum * large =
        alignment * (share * times) + quantum * rest := by
      rw [← split, Nat.mul_add]
      congr 1
      calc
        quantum * (alignment / Nat.gcd quantum alignment * times) =
            Nat.gcd quantum alignment * share *
              (alignment / Nat.gcd quantum alignment * times) := by
          rw [← shareEq]
        _ = Nat.gcd quantum alignment *
              (alignment / Nat.gcd quantum alignment) * (share * times) := by
          ring
        _ = alignment * (share * times) := by
          rw [cycle]
    rw [quantumEq, Nat.add_assoc, Nat.dvd_add_right (Nat.dvd_mul_right _ _)]
      at whole
    exact whole
  intro pad aligned
  by_contra less
  rw [Nat.add_assoc] at aligned
  have difference := Nat.dvd_sub reduced aligned
  have gap := Nat.le_of_dvd (by omega) difference
  have bounds := worstPad_bounds positive quantum phase
  omega

end PvrServices.Padding
