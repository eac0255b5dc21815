import Mathlib
import QueryFederation.Proofs.Number.Exact

/-! Rounding never passes a magnitude. What is at least, or at most, the value of a magnitude is
rounded to one that is at least, or at most, this magnitude. -/
namespace QueryFederation.Number

theorem roundDivNear (num : Nat) {den : Nat} (positive : 0 < den) :
    (roundDiv num den : ℚ) ≤ num / den + 1 / 2 ∧ (num / den : ℚ) ≤ roundDiv num den + 1 / 2 := by
  have whole : (0 : ℚ) < den := by exact_mod_cast positive
  have split := Nat.div_add_mod num den
  have rest := Nat.mod_lt num positive
  have product (extra : Nat) : (num / den + extra) * den = den * (num / den) + extra * den := by ring
  have bounds : 2 * (roundDiv num den * den) ≤ 2 * num + den ∧
      2 * num ≤ 2 * (roundDiv num den * den) + den := by
    unfold roundDiv
    have parity := Nat.mod_two_eq_zero_or_one (num / den)
    dsimp only
    split_ifs with less more
    · have none := product 0
      simp only [Nat.add_zero, Nat.zero_mul] at none
      omega
    · have one := product 1
      rw [Nat.one_mul] at one
      omega
    · have tie := product (num / den % 2)
      rcases parity with even | odd
      · simp only [even, Nat.add_zero, Nat.zero_mul] at tie ⊢
        omega
      · simp only [odd, Nat.one_mul] at tie ⊢
        omega
  have ratio : (num : ℚ) / den * den = num := div_mul_cancel₀ _ whole.ne'
  have upper : (2 : ℚ) * (roundDiv num den * den) ≤ 2 * num + den := by exact_mod_cast bounds.1
  have lower : (2 : ℚ) * num ≤ 2 * (roundDiv num den * den) + den := by exact_mod_cast bounds.2
  constructor <;> refine le_of_mul_le_mul_right ?_ whole <;> linarith

theorem powerSplit (scale : Int) :
    (2 : ℚ) ^ scale * powerOfTwo (-scale).toNat = powerOfTwo scale.toNat := by
  have exponent : scale + ((-scale).toNat : Int) = (scale.toNat : Int) := by omega
  rw [powerOfTwoEq, powerOfTwoEq]
  push_cast
  rw [← zpow_natCast, ← zpow_natCast, ← zpow_add₀ two_ne_zero, exponent]

theorem ratioScaled (num den : Nat) (scale : Int) :
    ((num * powerOfTwo (-scale).toNat : Nat) : ℚ) / (den * powerOfTwo scale.toNat : Nat) =
      num / den / 2 ^ scale := by
  have some : (powerOfTwo (-scale).toNat : ℚ) ≠ 0 := by
    rw [powerOfTwoEq]
    positivity
  push_cast
  rw [← powerSplit scale, ← mul_assoc, mul_div_mul_right _ _ some, div_div]

theorem ratioBounds {num den : Nat} (some : num ≠ 0) (positive : den ≠ 0) :
    (2 : ℚ) ^ ((num.log2 : Int) - den.log2 - 1) < num / den ∧
      (num / den : ℚ) < 2 ^ ((num.log2 : Int) - den.log2 + 1) := by
  have low : (2 : ℚ) ^ num.log2 ≤ num := by exact_mod_cast Nat.log2_self_le some
  have high : (num : ℚ) < 2 ^ (num.log2 + 1) := by exact_mod_cast Nat.lt_log2_self
  have least : (2 : ℚ) ^ den.log2 ≤ den := by exact_mod_cast Nat.log2_self_le positive
  have greatest : (den : ℚ) < 2 ^ (den.log2 + 1) := by exact_mod_cast Nat.lt_log2_self
  have whole : (0 : ℚ) < den := by exact_mod_cast Nat.pos_of_ne_zero positive
  constructor
  · rw [lt_div_iff₀ whole]
    have split : (2 : ℚ) ^ num.log2 =
        2 ^ ((num.log2 : Int) - den.log2 - 1) * 2 ^ (den.log2 + 1) := by
      rw [← zpow_natCast, ← zpow_natCast, ← zpow_add₀ two_ne_zero]
      push_cast
      ring_nf
    calc (2 : ℚ) ^ ((num.log2 : Int) - den.log2 - 1) * den
        < 2 ^ ((num.log2 : Int) - den.log2 - 1) * 2 ^ (den.log2 + 1) :=
          mul_lt_mul_of_pos_left greatest (by positivity)
      _ ≤ num := split ▸ low
  · rw [div_lt_iff₀ whole]
    have split : (2 : ℚ) ^ (num.log2 + 1) =
        2 ^ ((num.log2 : Int) - den.log2 + 1) * 2 ^ den.log2 := by
      rw [← zpow_natCast, ← zpow_natCast, ← zpow_add₀ two_ne_zero]
      push_cast
      ring_nf
    calc (num : ℚ) < 2 ^ (num.log2 + 1) := high
      _ = 2 ^ ((num.log2 : Int) - den.log2 + 1) * 2 ^ den.log2 := split
      _ ≤ 2 ^ ((num.log2 : Int) - den.log2 + 1) * den :=
          mul_le_mul_of_nonneg_left least (by positivity)

theorem floorLog2Bounds {num den : Nat} (some : num ≠ 0) (positive : den ≠ 0) :
    (2 : ℚ) ^ floorLog2 num den ≤ num / den ∧ (num / den : ℚ) < 2 ^ (floorLog2 num den + 1) := by
  have bounds := ratioBounds some positive
  have whole : (0 : ℚ) < den := by exact_mod_cast Nat.pos_of_ne_zero positive
  unfold floorLog2
  generalize (num.log2 : Int) - den.log2 = guess at bounds ⊢
  have factor : (0 : ℚ) < powerOfTwo (-guess).toNat := by
    rw [powerOfTwoEq]
    positivity
  have reached : den * powerOfTwo guess.toNat ≤ num * powerOfTwo (-guess).toNat ↔
      (2 : ℚ) ^ guess ≤ num / den := by
    have cast : ((den * powerOfTwo guess.toNat : Nat) : ℚ) ≤ (num * powerOfTwo (-guess).toNat : Nat) ↔
        den * powerOfTwo guess.toNat ≤ num * powerOfTwo (-guess).toNat := Nat.cast_le
    rw [← cast, le_div_iff₀ whole]
    push_cast
    rw [← powerSplit guess, ← mul_assoc, mul_le_mul_iff_left₀ factor, mul_comm]
  dsimp only
  split_ifs with test
  · exact ⟨reached.mp test, bounds.2⟩
  · rw [reached, not_le] at test
    exact ⟨bounds.1.le, by simpa using test⟩

namespace Format
variable {format : Format} {num den : Nat}

def roundScale (format : Format) (num den : Nat) : Int :=
  max format.leastScale (floorLog2 num den - format.fractionBits)

def roundSteps (format : Format) (num den : Nat) : Nat :=
  (format.roundScale num den - format.leastScale).toNat

def roundMantissa (format : Format) (num den : Nat) : Nat :=
  roundDiv (num * powerOfTwo (-format.roundScale num den).toNat)
    (den * powerOfTwo (format.roundScale num den).toNat)

theorem scaleOfSteps :
    format.roundScale num den = format.leastScale + format.roundSteps num den := by
  unfold roundSteps roundScale
  omega

section Parts
variable (format) (some : num ≠ 0) (positive : den ≠ 0)
include some positive

/- The ratio in terms of the scale that it is rounded at. -/
theorem scaledBelow : (num / den / 2 ^ format.roundScale num den : ℚ) < 2 * format.unit := by
  have bounds := floorLog2Bounds some positive
  have scale : floorLog2 num den + 1 ≤ format.fractionBits + 1 + format.roundScale num den := by
    unfold roundScale
    omega
  rw [div_lt_iff₀ (by positivity)]
  calc (num / den : ℚ) < 2 ^ (floorLog2 num den + 1) := bounds.2
    _ ≤ 2 ^ ((format.fractionBits : Int) + 1 + format.roundScale num den) :=
        zpow_le_zpow_right₀ one_le_two scale
    _ = 2 * format.unit * 2 ^ format.roundScale num den := by
        rw [zpow_add₀ two_ne_zero, zpow_add_one₀ two_ne_zero, zpow_natCast, unit, powerOfTwoEq]
        push_cast
        ring

theorem scaledAtLeast (above : format.roundSteps num den ≠ 0) :
    (format.unit : ℚ) ≤ num / den / 2 ^ format.roundScale num den := by
  have bounds := floorLog2Bounds some positive
  have scale : format.fractionBits + format.roundScale num den = floorLog2 num den := by
    unfold roundSteps at above
    unfold roundScale at above ⊢
    omega
  rw [le_div_iff₀ (by positivity)]
  calc (format.unit : ℚ) * 2 ^ format.roundScale num den =
        2 ^ ((format.fractionBits : Int) + format.roundScale num den) := by
        rw [zpow_add₀ two_ne_zero, zpow_natCast, unit, powerOfTwoEq]
        push_cast
        ring
    _ ≤ num / den := by rw [scale]; exact bounds.1

omit some in
variable (num) in
theorem mantissaNear :
    (format.roundMantissa num den : ℚ) ≤ num / den / 2 ^ format.roundScale num den + 1 / 2 ∧
      (num / den / 2 ^ format.roundScale num den : ℚ) ≤ format.roundMantissa num den + 1 / 2 := by
  rw [← ratioScaled]
  exact roundDivNear _ (Nat.mul_pos (Nat.pos_of_ne_zero positive) (Nat.two_pow_pos _))

theorem roundPlaced :
    format.Placed (format.roundSteps num den) (format.roundMantissa num den) := by
  obtain ⟨upper, lower⟩ := mantissaNear format num positive
  have below := scaledBelow format some positive
  refine ⟨or_iff_not_imp_left.mpr fun above => ?_, ?_⟩
  · have least := scaledAtLeast format some positive above
    have close : (format.unit : ℚ) < format.roundMantissa num den + 1 := by linarith
    exact Nat.le_of_lt_succ (by exact_mod_cast close)
  · have close : (format.roundMantissa num den : ℚ) < 2 * format.unit + 1 := by linarith
    exact Nat.le_of_lt_succ (by exact_mod_cast close)

theorem exactRounded : format.exact
      (format.roundSteps num den * format.unit + format.roundMantissa num den) =
    format.roundMantissa num den * 2 ^ format.roundScale num den := by
  rw [exactPlaced (roundPlaced format some positive), ← scaleOfSteps]

omit positive in
theorem roundParts : format.round num den = min format.infinity
    (format.roundSteps num den * format.unit + format.roundMantissa num den) := if_neg some

end Parts

theorem leRound (positive : den ≠ 0) {magnitude : Nat} (ordinary : magnitude ≤ format.infinity)
    (order : format.exact magnitude ≤ num / den) : magnitude ≤ format.round num den := by
  by_cases none : num = 0
  · rw [none, Nat.cast_zero, zero_div, ← exactZero, exactStrictMono.le_iff_le] at order
    exact order.trans (Nat.zero_le _)
  rw [roundParts format none]
  refine le_min ordinary (not_lt.mp fun beyond => ?_)
  have lower := (mantissaNear format num positive).2
  have below := scaledBelow format none positive
  have placed := roundPlaced format none positive
  have value := exactRounded format none positive
  have power : (0 : ℚ) < 2 ^ format.roundScale num den := by positivity
  rcases placed.fits.lt_or_eq with less | full
  · -- The next magnitude is more than half a step away.
    have next : format.Placed (format.roundSteps num den) (format.roundMantissa num den + 1) :=
      ⟨placed.normal.imp_right (by omega), less⟩
    have reached := (exactStrictMono.monotone (Nat.succ_le_of_lt beyond)).trans order
    rw [Nat.succ_eq_add_one, Nat.add_assoc, exactPlaced next, ← scaleOfSteps,
      ← le_div_iff₀ power] at reached
    push_cast at reached
    linarith
  · have passed := (exactStrictMono beyond).trans_le order
    rw [value, ← lt_div_iff₀ power, full] at passed
    push_cast at passed
    linarith

theorem roundLe (positive : den ≠ 0) {magnitude : Nat}
    (order : num / den ≤ format.exact magnitude) : format.round num den ≤ magnitude := by
  by_cases none : num = 0
  · rw [round, if_pos none]
    exact Nat.zero_le _
  rw [roundParts format none]
  refine (min_le_right _ _).trans (not_lt.mp fun short => ?_)
  have upper := (mantissaNear format num positive).1
  have placed := roundPlaced format none positive
  have value := exactRounded format none positive
  have power : (0 : ℚ) < 2 ^ format.roundScale num den := by positivity
  by_cases least : format.roundSteps num den ≠ 0 ∧ format.roundMantissa num den ≤ format.unit
  · -- The magnitude before is of a smaller scale, and the ratio is not.
    have reached := scaledAtLeast format none positive least.1
    have passed := order.trans_lt (exactStrictMono short)
    rw [value, ← div_lt_iff₀ power] at passed
    have small : (format.roundMantissa num den : ℚ) ≤ format.unit := by exact_mod_cast least.2
    linarith
  · obtain ⟨before, known⟩ : ∃ before, format.roundMantissa num den = before + 1 := by
      refine Nat.exists_eq_succ_of_ne_zero fun zero => ?_
      have unit : 0 < format.unit := unitPositive
      rcases placed.normal with first | normal
      · rw [first, zero] at short
        omega
      · omega
    have earlier : format.Placed (format.roundSteps num den) before :=
      ⟨by omega, by have := placed.fits; omega⟩
    have reached := order.trans (exactStrictMono.monotone (show magnitude ≤
      format.roundSteps num den * format.unit + before by omega))
    rw [exactPlaced earlier, ← scaleOfSteps, ← div_le_iff₀ power] at reached
    rw [known] at upper
    push_cast at upper
    linarith

end Format

end QueryFederation.Number
