import Mathlib
import QueryFederation.Proofs.Index.ByteOrder
import QueryFederation.Proofs.Index.RealTerm

/-! Terms of binary numbers stand in the total order of the bit patterns, whatever the patterns stand
for. The order of the values is a part of it. -/
namespace QueryFederation.Index
open Number

/- The total order: the sign comes first, and negative patterns are read backwards. -/
inductive Precedes (x y : Binary64) : Prop
  | signs (left : x.isNegative = true) (right : y.isNegative = false)
  | negatives (left : x.isNegative = true) (right : y.isNegative = true)
      (order : y.magnitude < x.magnitude)
  | positives (left : x.isNegative = false) (right : y.isNegative = false)
      (order : x.magnitude < y.magnitude)

/- The word whose digits a term has: a negative pattern is flipped as a whole, any other in its
sign. -/
def sortableWord (bits : UInt64) : UInt64 :=
  if bits >>> 63 = 1 then ~~~bits else bits ||| (1 : UInt64) <<< 63

def hexDigits : List Char :=
  ['0', '1', '2', '3', '4', '5', '6', '7', '8', '9', 'a', 'b', 'c', 'd', 'e', 'f']

structure WrittenInHex (x : Binary64) : Prop where
  length : (doubleTerm x).length = 16
  digits : ∀ c ∈ (doubleTerm x).toList, c ∈ hexDigits
  word : (doubleTerm x).toList = fixedDigits 16 16 (sortableWord x.bits).toNat

section Keys
variable {x y : Binary64}

theorem magnitudeEq (x : Binary64) : x.magnitude = if 9223372036854775808 ≤ x.bits.toNat then
    x.bits.toNat - 9223372036854775808 else x.bits.toNat := by
  have sign : Format.double.signUnit = 9223372036854775808 := by decide
  have fits := x.bits.toNat_lt
  rw [Binary64.magnitude, sign]
  split_ifs <;> omega

theorem magnitudeFits (x : Binary64) : x.magnitude < 9223372036854775808 := by
  have fits := x.bits.toNat_lt
  rw [magnitudeEq]
  split_ifs <;> omega

/- Negative patterns count down from the middle, the others count up. -/
theorem sortKeyNegative (negative : x.isNegative = true) :
    sortKey x = 9223372036854775807 - x.magnitude := by
  rw [negativeEq, decide_eq_true_iff] at negative
  rw [sortKeyEq, magnitudeEq, if_pos negative, if_pos negative]
  omega

theorem sortKeyPositive (positive : x.isNegative = false) :
    sortKey x = 9223372036854775808 + x.magnitude := by
  rw [negativeEq, decide_eq_false_iff_not] at positive
  rw [sortKeyEq, magnitudeEq, if_neg positive, if_neg positive]

theorem sortKeyPrecedes : sortKey x < sortKey y ↔ Precedes x y := by
  have fits := magnitudeFits x
  have fitsToo := magnitudeFits y
  constructor
  · intro order
    cases left : x.isNegative with
    | true =>
      cases right : y.isNegative with
      | true =>
        rw [sortKeyNegative left, sortKeyNegative right] at order
        exact .negatives left right (by omega)
      | false => exact .signs left right
    | false =>
      cases right : y.isNegative with
      | true =>
        rw [sortKeyPositive left, sortKeyNegative right] at order
        omega
      | false =>
        rw [sortKeyPositive left, sortKeyPositive right] at order
        exact .positives left right (by omega)
  · rintro (⟨left, right⟩ | ⟨left, right, order⟩ | ⟨left, right, order⟩)
    · rw [sortKeyNegative left, sortKeyPositive right]
      omega
    · rw [sortKeyNegative left, sortKeyNegative right]
      omega
    · rw [sortKeyPositive left, sortKeyPositive right]
      omega

theorem signBit (bits : UInt64) : bits >>> 63 = 1 ↔ 9223372036854775808 ≤ bits.toNat := by
  have fits := bits.toNat_lt
  have shifted : (bits >>> 63).toNat = bits.toNat / 9223372036854775808 := by
    rw [UInt64.toNat_shiftRight]
    exact Nat.shiftRight_eq_div_pow _ 63
  rw [← UInt64.toNat_inj, shifted, UInt64.toNat_one]
  omega

theorem sortKeyWord (x : Binary64) : sortKey x = (sortableWord x.bits).toNat := by
  have top : ((1 : UInt64) <<< 63).toNat = 2 ^ 63 * 1 := by decide
  rw [sortKeyEq, sortableWord]
  split_ifs with negative flipped flipped
  · rw [UInt64.toNat_not]
    rfl
  · exact absurd ((signBit x.bits).mpr negative) flipped
  · exact absurd ((signBit x.bits).mp flipped) negative
  · -- the sign bit is free, so that setting it adds it
    have free : x.bits.toNat < 2 ^ 63 := not_le.mp negative
    rw [UInt64.toNat_or, top, Nat.or_comm, ← Nat.two_pow_add_eq_or_of_lt free]

end Keys

theorem digitCharHex {d : Nat} (small : d < 16) : digitChar d ∈ hexDigits := by
  revert d
  decide

theorem doubleTermInHex (x : Binary64) : WrittenInHex x where
  length := by rw [← String.length_toList, doubleTermList, lengthFixedDigits]
  digits c member := by
    rw [doubleTermList] at member
    obtain ⟨d, small, rfl⟩ := fixedDigitsChars (by decide) c member
    exact digitCharHex small
  word := by rw [doubleTermList, sortKeyWord]

/- The zeros are next to each other in the middle. -/
example : doubleTerm ⟨0x8000000000000000⟩ = "7fffffffffffffff" ∧
    doubleTerm ⟨0⟩ = "8000000000000000" := by decide

section Values
variable {x y : Binary64}

/- Numbers of different values are in the order of the values. -/
theorem doubleTermValueLt (left : x.isNaN = false) (right : y.isNaN = false)
    (order : x.value < y.value) : bytes (doubleTerm x) < bytes (doubleTerm y) :=
  bytesLt.mpr ((valuesApart left right order.ne).mpr order)

def infinite (negative : Bool) : Binary64 := .ofParts negative Format.double.infinity

theorem infiniteNumber (negative : Bool) : (infinite negative).isNaN = false :=
  Binary64.notNaN.mpr (Binary64.partsMagnitude le_rfl).le

theorem infiniteValue (negative : Bool) :
    (infinite negative).value = if negative then ⊥ else ⊤ := by
  rw [Binary64.value, Binary64.isFinite, infinite, Binary64.partsMagnitude le_rfl,
    Binary64.partsNegative le_rfl]
  simp

theorem finiteNumber (finite : x.isFinite = true) : x.isNaN = false := by
  rw [Binary64.isFinite, decide_eq_true_iff] at finite
  exact Binary64.notNaN.mpr finite.le

theorem finiteBetween (finite : x.isFinite = true) : ⊥ < x.value ∧ x.value < ⊤ := by
  rw [Binary64.value, if_pos finite]
  exact ⟨WithBot.bot_lt_coe _, WithBot.coe_lt_coe.mpr (WithTop.coe_lt_top _)⟩

theorem finiteTermBetween (finite : x.isFinite = true) :
    bytes (doubleTerm (infinite true)) < bytes (doubleTerm x) ∧
      bytes (doubleTerm x) < bytes (doubleTerm (infinite false)) := by
  have number := finiteNumber finite
  obtain ⟨above, below⟩ := finiteBetween finite
  constructor
  · exact doubleTermValueLt (infiniteNumber true) number (by rwa [infiniteValue])
  · exact doubleTermValueLt number (infiniteNumber false) (by rwa [infiniteValue])

end Values

theorem termsInTotalOrder (x y : Binary64) :
    WrittenInHex x ∧
      (bytes (doubleTerm x) < bytes (doubleTerm y) ↔ Precedes x y) ∧
      (doubleTerm x = doubleTerm y ↔ x.bits = y.bits) ∧
      (x.isNaN = false → y.isNaN = false → x.value < y.value →
        bytes (doubleTerm x) < bytes (doubleTerm y)) ∧
      (x.isFinite = true → bytes (doubleTerm (infinite true)) < bytes (doubleTerm x) ∧
        bytes (doubleTerm x) < bytes (doubleTerm (infinite false))) := by
  refine ⟨doubleTermInHex x, ?_, ?_, doubleTermValueLt, finiteTermBetween⟩
  · rw [bytesLt, doubleTermLt, sortKeyPrecedes]
  · rw [doubleTermInj]
    exact ⟨congrArg Binary64.bits, fun same => by cases x; cases y; exact congrArg _ same⟩

/- Two numbers on either side of zero: -2.5 and 3.75. -/
def lesser : Binary64 := ⟨0xC004000000000000⟩

def greater : Binary64 := ⟨0x400E000000000000⟩

theorem lesserInTotalOrder :
    bytes (doubleTerm lesser) < bytes (doubleTerm greater) ∧
      bytes (doubleTerm (infinite true)) < bytes (doubleTerm lesser) ∧
      bytes (doubleTerm lesser) < bytes (doubleTerm (infinite false)) := by
  have lesserNumber : lesser.isNaN = false := by decide
  have greaterNumber : greater.isNaN = false := by decide
  have order : lesser.value < greater.value :=
    (Binary64.valueLt lesserNumber greaterNumber).mpr (by decide)
  obtain ⟨-, -, -, ordered, bounded⟩ := termsInTotalOrder lesser greater
  exact ⟨ordered lesserNumber greaterNumber order, bounded (by decide)⟩

end QueryFederation.Index
