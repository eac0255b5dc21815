import Mathlib
import QueryFederation.Index.Term
import QueryFederation.Proofs.Number.FixedDigits
import QueryFederation.Proofs.Number.RealValue

/-! Terms of binary numbers have sixteen digits each and stand in the order of the values, with the
negative zero before the other one. -/
namespace QueryFederation.Index
open Number

variable {x y : Binary64}

theorem negativeEq (x : Binary64) : x.isNegative = decide (9223372036854775808 ≤ x.bits.toNat) := by
  have sign : Format.double.signUnit = 9223372036854775808 := by decide
  rw [Binary64.isNegative, sign]

theorem signedEq (x : Binary64) : x.signed = if 9223372036854775808 ≤ x.bits.toNat then
    (9223372036854775808 - x.bits.toNat : Int) else x.bits.toNat := by
  have sign : Format.double.signUnit = 9223372036854775808 := by decide
  have fits := x.bits.toNat_lt
  rw [Binary64.signed, negativeEq, Binary64.magnitude, sign]
  simp only [decide_eq_true_eq]
  split_ifs <;> omega

theorem sortKeyEq (x : Binary64) : sortKey x = if 9223372036854775808 ≤ x.bits.toNat then
    18446744073709551615 - x.bits.toNat else 9223372036854775808 + x.bits.toNat := by
  have half : powerOfTwo 63 = 9223372036854775808 := by decide
  have whole : powerOfTwo 64 = 18446744073709551616 := by decide
  rw [sortKey, half, whole, negativeEq]
  simp only [decide_eq_true_eq, Nat.add_one_sub_one]

theorem sortKeyFits (x : Binary64) : sortKey x < 16 ^ 16 := by
  have fits := x.bits.toNat_lt
  rw [sortKeyEq]
  split_ifs <;> omega

/- Of two numbers of one signed magnitude only zeros may differ. -/
theorem sortKeyLt : sortKey x < sortKey y ↔
    x.signed < y.signed ∨ x.signed = y.signed ∧ x.isNegative = true ∧ y.isNegative = false := by
  have fits := x.bits.toNat_lt
  have fitsToo := y.bits.toNat_lt
  rw [sortKeyEq, sortKeyEq, signedEq, signedEq, negativeEq, negativeEq, decide_eq_true_iff,
    decide_eq_false_iff_not]
  split_ifs <;> omega

theorem sortKeyInj : sortKey x = sortKey y ↔ x = y := by
  refine ⟨fun same => ?_, congrArg sortKey⟩
  have fits := x.bits.toNat_lt
  have fitsToo := y.bits.toNat_lt
  have bits : x.bits.toNat = y.bits.toNat := by
    rw [sortKeyEq, sortKeyEq] at same
    split_ifs at same <;> omega
  cases x
  cases y
  exact congrArg Binary64.mk (UInt64.toNat.inj bits)

theorem doubleTermList (x : Binary64) : (doubleTerm x).toList = fixedDigits 16 16 (sortKey x) :=
  String.toList_ofList

theorem doubleTermLt : doubleTerm x < doubleTerm y ↔ sortKey x < sortKey y := by
  rw [String.lt_iff_toList_lt, doubleTermList, doubleTermList,
    fixedDigitsLt (by decide) (by decide) (sortKeyFits x) (sortKeyFits y)]

theorem doubleTermInj : doubleTerm x = doubleTerm y ↔ x = y :=
  (equalOfOrder doubleTermLt doubleTermLt).trans sortKeyInj

/- The value of a number, and for zeros the sign. -/
def rank (x : Binary64) : WithBot (WithTop ℚ) ×ₗ Bool := toLex (x.value, !x.isNegative)

section Numbers
variable (left : x.isNaN = false) (right : y.isNaN = false)
include left right

theorem doubleTermRank : doubleTerm x < doubleTerm y ↔ rank x < rank y := by
  rw [doubleTermLt, sortKeyLt, rank, rank, Prod.Lex.toLex_lt_toLex, Binary64.valueLt left right,
    Binary64.valueInj left right]
  cases x.isNegative <;> cases y.isNegative <;> simp

theorem valuesApart (differ : x.value ≠ y.value) :
    doubleTerm x < doubleTerm y ↔ x.value < y.value := by
  rw [doubleTermRank left right, rank, rank, Prod.Lex.toLex_lt_toLex]
  exact or_iff_left fun same => differ same.1

/- Two numbers of one value are in no order, unless they are the two zeros. -/
theorem zerosOnly (same : x.value = y.value) (less : doubleTerm x < doubleTerm y) :
    x.value = 0 := by
  rw [Binary64.valueInj left right] at same
  rw [doubleTermLt, sortKeyLt] at less
  obtain ⟨-, negative, positive⟩ := less.resolve_left same.not_lt
  rw [negativeEq, decide_eq_true_iff] at negative
  rw [negativeEq, decide_eq_false_iff_not] at positive
  rw [signedEq, signedEq, if_pos negative, if_neg positive] at same
  rw [Binary64.zeroValue left, signedEq, if_pos negative]
  omega

end Numbers

/- The term of a number in place of a value that is near to it: only the numbers of its own value may
be taken for less or more than they are. -/
theorem nearestTerms {n : WithBot (WithTop ℚ)} (near : y.Nearest n) (number : x.isNaN = false) :
    ((doubleTerm x < doubleTerm y ↔ x.value < n) ∧ (doubleTerm y < doubleTerm x ↔ n < x.value)) ↔
      (x.value = y.value → x = y ∧ y.value = n) := by
  constructor
  · rintro ⟨below, above⟩ same
    rcases lt_trichotomy (doubleTerm x) (doubleTerm y) with less | equal | more
    · have zero := zerosOnly number near.number same less
      have order := below.mp less
      rw [zero, near.zero (same ▸ zero)] at order
      exact absurd order (lt_irrefl 0)
    · have value : x.value = n := (equalOfOrder below above).mp equal
      exact ⟨doubleTermInj.mp equal, same ▸ value⟩
    · have zero := zerosOnly near.number number same.symm more
      have order := above.mp more
      rw [same, zero, near.zero zero] at order
      exact absurd order (lt_irrefl 0)
  · intro agree
    by_cases same : x.value = y.value
    · obtain ⟨rfl, value⟩ := agree same
      rw [value]
      simp
    · rw [valuesApart number near.number same, valuesApart near.number number (Ne.symm same)]
      constructor
      · refine ⟨fun less => not_le.mp fun above => ?_, fun less => ?_⟩
        · exact absurd (near.lower x number above) (not_le.mpr less)
        · exact (near.upper x number less.le).lt_of_ne same
      · refine ⟨fun more => not_le.mp fun below => ?_, fun more => ?_⟩
        · exact absurd (near.upper x number below) (not_le.mpr more)
        · exact (near.lower x number more.le).lt_of_ne (Ne.symm same)

end QueryFederation.Index
