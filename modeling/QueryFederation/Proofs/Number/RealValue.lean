import Mathlib
import QueryFederation.Proofs.Number.Rounding

/-! Values of binary numbers, with an infinity at either end. Numbers that are ordered by their signed
magnitudes are ordered by their values, and both zeros have one value. -/
namespace QueryFederation.Number

section Signed
variable {format : Format}

/- The value at a place among the signed magnitudes. -/
def Format.signedExact (format : Format) (place : Int) : ℚ :=
  if place < 0 then -format.exact place.natAbs else format.exact place.natAbs

theorem exactNonneg (format : Format) (magnitude : Nat) : 0 ≤ format.exact magnitude :=
  Format.exactZero.symm.trans_le (Format.exactStrictMono.monotone (Nat.zero_le _))

theorem signedExactMono : StrictMono format.signedExact := by
  intro a b order
  unfold Format.signedExact
  split_ifs with early late late
  · exact neg_lt_neg (Format.exactStrictMono (by omega))
  · have below : format.exact 0 < format.exact a.natAbs := Format.exactStrictMono (by omega)
    rw [Format.exactZero] at below
    exact (neg_neg_of_pos below).trans_le (exactNonneg format _)
  · omega
  · exact Format.exactStrictMono (by omega)

theorem signedExactCast (magnitude : Nat) :
    format.signedExact magnitude = format.exact magnitude := by
  rw [Format.signedExact, if_neg (by omega), Int.natAbs_natCast]

theorem signedExactNeg (place : Int) : format.signedExact (-place) = -format.signedExact place := by
  unfold Format.signedExact
  rw [Int.natAbs_neg]
  split_ifs with first second second
  · omega
  · rfl
  · rw [neg_neg]
  · have zero : place = 0 := by omega
    rw [zero, Int.natAbs_zero, Format.exactZero, neg_zero]

/- From the infinities on there are no finite values. -/
def Format.extended (format : Format) (place : Int) : WithBot (WithTop ℚ) :=
  if place ≤ -format.infinity then ⊥
  else if format.infinity ≤ place then ⊤
  else ((format.signedExact place : WithTop ℚ) : WithBot (WithTop ℚ))

theorem extendedMono :
    StrictMonoOn format.extended (Set.Icc (-format.infinity : Int) format.infinity) := by
  intro a left b right order
  have least := left.1
  have greatest := right.2
  unfold Format.extended
  rw [if_neg (by omega : ¬ b ≤ -(format.infinity : Int))]
  split_ifs with bottom top last top
  · exact WithBot.bot_lt_coe _
  · exact WithBot.bot_lt_coe _
  · omega
  · omega
  · exact WithBot.coe_lt_coe.mpr (WithTop.coe_lt_top _)
  · exact WithBot.coe_lt_coe.mpr (WithTop.coe_lt_coe.mpr (signedExactMono order))

end Signed

namespace Binary64

/- The value that the bits of a number stand for. -/
def value (x : Binary64) : WithBot (WithTop ℚ) :=
  if x.isFinite then
    (((if x.isNegative then -1 else 1) * Format.double.exact x.magnitude : ℚ) : WithTop ℚ)
  else if x.isNegative then ⊥ else ⊤

def signed (x : Binary64) : Int := if x.isNegative then -x.magnitude else x.magnitude

variable {x y : Binary64}

theorem notNaN : x.isNaN = false ↔ x.magnitude ≤ Format.double.infinity := by
  rw [isNaN, decide_eq_false_iff_not, not_lt]

theorem infinityPositive : 0 < Format.double.infinity := by decide

theorem valueExtended (number : x.isNaN = false) : x.value = Format.double.extended x.signed := by
  have range := notNaN.mp number
  have positive := infinityPositive
  rw [value, isFinite, Format.extended, signed]
  cases x.isNegative with
  | false =>
    simp only [Bool.false_eq_true, if_false, decide_eq_true_eq]
    rw [if_neg (by omega : ¬ (x.magnitude : Int) ≤ -Format.double.infinity)]
    split_ifs with finite last last
    · omega
    · rw [signedExactCast, one_mul]
    · rfl
    · omega
  | true =>
    simp only [if_true, decide_eq_true_eq]
    rw [if_neg (by omega : ¬ (Format.double.infinity : Int) ≤ -x.magnitude)]
    split_ifs with finite first first
    · omega
    · rw [signedExactNeg, signedExactCast, neg_one_mul]
    · rfl
    · omega

theorem signedRange (number : x.isNaN = false) :
    x.signed ∈ Set.Icc (-Format.double.infinity : Int) Format.double.infinity := by
  have range := notNaN.mp number
  unfold signed
  constructor <;> split_ifs <;> omega

section Ordered
variable (left : x.isNaN = false) (right : y.isNaN = false)
include left right

theorem valueLt : x.value < y.value ↔ x.signed < y.signed := by
  rw [valueExtended left, valueExtended right]
  exact extendedMono.lt_iff_lt (signedRange left) (signedRange right)

theorem valueLe : x.value ≤ y.value ↔ x.signed ≤ y.signed := by
  rw [← not_lt, valueLt right left, not_lt]

theorem valueInj : x.value = y.value ↔ x.signed = y.signed := by
  rw [valueExtended left, valueExtended right]
  exact extendedMono.injOn.eq_iff (signedRange left) (signedRange right)

end Ordered

theorem zeroValue (number : x.isNaN = false) : x.value = 0 ↔ x.signed = 0 := by
  have positive := infinityPositive
  have zero : Format.double.extended 0 = 0 := by
    rw [Format.extended, if_neg (by omega), if_neg (by omega), Format.signedExact, if_neg (by omega),
      Int.natAbs_zero, Format.exactZero]
    rfl
  rw [valueExtended number, ← zero]
  exact extendedMono.injOn.eq_iff (signedRange number) ⟨by omega, by omega⟩

section Parts
variable {negative : Bool} {magnitude : Nat} (fits : magnitude ≤ Format.double.infinity)
include fits

theorem partsBits : (ofParts negative magnitude).bits.toNat =
    (if negative then Format.double.signUnit else 0) + magnitude := by
  have infinity : Format.double.infinity < 2 ^ 63 := by decide
  have sign : Format.double.signUnit = 2 ^ 63 := by decide
  rw [ofParts]
  refine UInt64.toNat_ofNat_of_lt' ?_
  rw [sign, UInt64.size]
  split_ifs <;> omega

theorem partsNegative : (ofParts negative magnitude).isNegative = negative := by
  have infinity : Format.double.infinity < Format.double.signUnit := by decide
  rw [isNegative, partsBits fits]
  cases negative with
  | false => simpa using by omega
  | true => simp

theorem partsMagnitude : (ofParts negative magnitude).magnitude = magnitude := by
  have infinity : Format.double.infinity < Format.double.signUnit := by decide
  rw [Binary64.magnitude, partsBits fits]
  cases negative <;> simp [Nat.mod_eq_of_lt (fits.trans_lt infinity)]

end Parts

theorem roundOrdinary (format : Format) (num den : Nat) : format.round num den ≤ format.infinity := by
  unfold Format.round
  split_ifs
  · exact Nat.zero_le _
  · exact min_le_left _ _

/- An integer among the signed magnitudes. -/
def roundSigned (z : Int) : Int :=
  if z < 0 then -Format.double.round z.natAbs 1 else Format.double.round z.natAbs 1

theorem ofIntSigned (z : Int) : (ofInt z).signed = roundSigned z := by
  have ordinary := roundOrdinary .double z.natAbs 1
  rw [ofInt, signed, partsNegative ordinary, partsMagnitude ordinary, roundSigned]
  simp only [decide_eq_true_eq]

theorem ofIntNumber (z : Int) : (ofInt z).isNaN = false := by
  have ordinary := roundOrdinary .double z.natAbs 1
  rw [notNaN, ofInt, partsMagnitude ordinary]
  exact ordinary

section Integers
variable {z place : Int}

theorem wholeRatio (z : Int) : ((z.natAbs : ℚ) / (1 : Nat)) = |(z : ℚ)| := by
  rw [Nat.cast_one, div_one, Nat.cast_natAbs, Int.cast_abs]

theorem leRoundSigned (range : place ≤ Format.double.infinity)
    (order : Format.double.signedExact place ≤ z) : place ≤ roundSigned z := by
  unfold Format.signedExact at order
  unfold roundSigned
  have magnitude := exactNonneg .double place.natAbs
  split_ifs at order ⊢ with negative early early
  · have within : ((z.natAbs : ℚ) / (1 : Nat)) ≤ Format.double.exact place.natAbs := by
      rw [wholeRatio, abs_of_neg (by exact_mod_cast negative)]
      linarith
    have rounded := Format.roundLe (by decide) within
    omega
  · have below : (z : ℚ) < 0 := by exact_mod_cast negative
    linarith
  · omega
  · have within : Format.double.exact place.natAbs ≤ (z.natAbs : ℚ) / (1 : Nat) := by
      rw [wholeRatio, abs_of_nonneg (by exact_mod_cast not_lt.mp negative)]
      exact order
    have rounded := Format.leRound (by decide) (by omega) within
    omega

theorem roundSignedNeg (z : Int) : roundSigned (-z) = -roundSigned z := by
  have zero : Format.double.round 0 1 = 0 := rfl
  unfold roundSigned
  rw [Int.natAbs_neg]
  split_ifs with first second second
  · omega
  · rfl
  · rw [neg_neg]
  · have none : z = 0 := by omega
    rw [none, Int.natAbs_zero, zero]
    rfl

theorem roundSignedLe (range : -(Format.double.infinity : Int) ≤ place)
    (order : z ≤ Format.double.signedExact place) : roundSigned z ≤ place := by
  have mirrored : Format.double.signedExact (-place) ≤ ((-z : Int) : ℚ) := by
    rw [signedExactNeg, Int.cast_neg]
    exact neg_le_neg order
  have rounded := leRoundSigned (by omega) mirrored
  rw [roundSignedNeg] at rounded
  omega

theorem roundSignedZero (zero : roundSigned z = 0) : z = 0 := by
  by_contra some
  have placed : Format.double.Placed 0 1 := ⟨.inl rfl, by decide⟩
  have least := Format.exactPlaced placed
  have small : Format.double.exact 1 ≤ 1 := by
    rw [Nat.zero_mul, Nat.zero_add] at least
    rw [least, Nat.cast_one, one_mul]
    exact zpow_le_one_of_nonpos₀ one_le_two (by decide)
  have whole : (1 : ℚ) ≤ z.natAbs / (1 : Nat) := by
    rw [Nat.cast_one, div_one]
    exact_mod_cast Int.natAbs_pos.mpr some
  have rounded := Format.leRound (by decide) (show 1 ≤ Format.double.infinity by decide)
    (small.trans whole)
  unfold roundSigned at zero
  split_ifs at zero <;> omega

end Integers

/- A number that is as near to a value as other numbers let it be. -/
structure Nearest (x : Binary64) (n : WithBot (WithTop ℚ)) : Prop where
  number : x.isNaN = false
  upper : ∀ d : Binary64, d.isNaN = false → d.value ≤ n → d.value ≤ x.value
  lower : ∀ d : Binary64, d.isNaN = false → n ≤ d.value → x.value ≤ d.value
  zero : x.value = 0 → n = 0

theorem selfNearest (number : x.isNaN = false) : x.Nearest x.value :=
  ⟨number, fun _ _ order => order, fun _ _ order => order, fun zero => zero⟩

theorem ofIntNearest (z : Int) : (ofInt z).Nearest ((z : ℚ) : WithTop ℚ) where
  number := ofIntNumber z
  upper d number order := by
    have range := signedRange number
    have place := signedRange (ofIntNumber z)
    rw [valueLe number (ofIntNumber z), ofIntSigned]
    rw [ofIntSigned] at place
    rw [valueExtended number, Format.extended] at order
    split_ifs at order with first last
    · exact first.trans place.1
    · exact absurd order (by simp)
    · exact leRoundSigned range.2 (by simpa using order)
  lower d number order := by
    have range := signedRange number
    have place := signedRange (ofIntNumber z)
    rw [valueLe (ofIntNumber z) number, ofIntSigned]
    rw [ofIntSigned] at place
    rw [valueExtended number, Format.extended] at order
    split_ifs at order with first last
    · exact absurd order (by simp)
    · exact place.2.trans last
    · exact roundSignedLe range.1 (by simpa using order)
  zero same := by
    have signless : (ofInt z).signed = 0 := (zeroValue (ofIntNumber z)).mp same
    rw [ofIntSigned] at signless
    rw [roundSignedZero signless, Int.cast_zero]
    rfl

end Binary64

end QueryFederation.Number
