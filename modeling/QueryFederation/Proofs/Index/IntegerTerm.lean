import Mathlib
import QueryFederation.Index.Term
import QueryFederation.Proofs.Index.ByteOrder
import QueryFederation.Proofs.Number.ReadInteger
import QueryFederation.Proofs.Number.FixedDigits

/-! Terms of integers have twenty digits each and stand in the order of the integers, so that the
bounds of a range admit the same terms as the numbers they were written from. -/
namespace QueryFederation.Index
open Number

/- How far a number is from the least of 64 bits, counted in 128 bits. -/
def distance (n : Int64) : BitVec 128 :=
  n.toBitVec.signExtend 128 - Int64.minValue.toBitVec.signExtend 128

theorem widened (n : Int64) : (n.toBitVec.signExtend 128).toInt = n.toInt :=
  BitVec.toInt_signExtend_of_le (by decide)

theorem leastWidened :
    (Int64.minValue.toBitVec.signExtend 128).toInt = -(powerOfTwo 63 : Int) := by decide

theorem distanceFits (n : Int64) :
    (n.toBitVec.signExtend 128).ssubOverflow (Int64.minValue.toBitVec.signExtend 128) = false := by
  have least := n.le_toInt
  have greatest := n.toInt_lt
  rw [BitVec.ssubOverflow, widened, leastWidened, powerOfTwo]
  simp only [Bool.or_eq_false_iff, decide_eq_false_iff_not]
  norm_num
  omega

theorem distanceValue (n : Int64) : (distance n).toInt = n.toInt + powerOfTwo 63 := by
  rw [distance, BitVec.toInt_sub_of_not_ssubOverflow (Bool.eq_false_iff.mp (distanceFits n)),
    widened, leastWidened, sub_neg_eq_add]

/- The number that the digits of a term are the digits of. -/
def longPlace (n : Int64) : Nat := (n.toInt + powerOfTwo 63).toNat

theorem longPlaceValue (n : Int64) : (longPlace n : Int) = n.toInt + powerOfTwo 63 :=
  Int.toNat_of_nonneg (by have least := (int64Range n).1; omega)

theorem longPlaceFits (n : Int64) : longPlace n < powerOfTwo 64 := by
  have value := longPlaceValue n
  have greatest := (int64Range n).2
  have twice : powerOfTwo 64 = 2 * powerOfTwo 63 := by decide
  omega

theorem longPlaceDigits (n : Int64) : longPlace n < 10 ^ 20 :=
  (longPlaceFits n).trans (by decide)

theorem longTermList (n : Int64) : (longTerm n).toList = fixedDigits 10 20 (longPlace n) :=
  String.toList_ofList

/- No number is too far from the least one to be counted, or to be written in twenty digits. -/
structure WrittenInFull (n : Int64) : Prop where
  fits : (n.toBitVec.signExtend 128).ssubOverflow (Int64.minValue.toBitVec.signExtend 128) = false
  length : (longTerm n).length = 20
  digits : ∀ c ∈ (longTerm n).toList, c.isDigit = true
  value : (ofDigits (longTerm n).toList : Int) = (distance n).toInt

theorem longTermInFull (n : Int64) : WrittenInFull n where
  fits := distanceFits n
  length := by rw [← String.length_toList, longTermList, lengthFixedDigits]
  digits := by
    rw [longTermList]
    exact fixedDigitsAreDigits 20 (longPlace n)
  value := by
    rw [longTermList, ofDigitsFixedDigits (longPlaceDigits n), longPlaceValue, distanceValue]

theorem longTermLt {n m : Int64} : longTerm n < longTerm m ↔ n.toInt < m.toInt := by
  have left := longPlaceValue n
  have right := longPlaceValue m
  rw [String.lt_iff_toList_lt, longTermList, longTermList,
    fixedDigitsLt (by decide) (by decide) (longPlaceDigits n) (longPlaceDigits m)]
  omega

theorem longTermLe {n m : Int64} : longTerm n ≤ longTerm m ↔ n.toInt ≤ m.toInt := by
  rw [← String.not_lt, longTermLt, not_lt]

theorem longTermInj {n m : Int64} : longTerm n = longTerm m ↔ n = m := by
  have left := longPlaceValue n
  have right := longPlaceValue m
  rw [← String.toList_inj, longTermList, longTermList,
    fixedDigitsInj (by decide) (by decide) (longPlaceDigits n) (longPlaceDigits m),
    ← Int64.toInt_inj]
  omega

end QueryFederation.Index
