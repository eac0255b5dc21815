import Mathlib
import QueryFederation.Calendar.Written
import QueryFederation.Proofs.Number.FixedDigits

/-! Written years in the order of texts. A year of four digits stands in its own place. The sign of any
other year is a character before all digits: a plus comes first and a minus second, and after either
the digits are compared from the left, however many there are. -/
namespace QueryFederation.Calendar
open Number

def yearWidth (n : Nat) : Nat := max 4 (digits n).length

theorem yearFits (n : Nat) : n < 10 ^ yearWidth n :=
  (ltPowDigits n).trans_le (Nat.pow_le_pow_right (by decide) (le_max_right 4 _))

/- The longer number is cut to the width of the shorter one; if nothing is left to tell them apart,
the shorter one comes first. -/
def DigitsBefore (n m : Nat) : Prop :=
  if yearWidth n < yearWidth m then n ≤ m / 10 ^ (yearWidth m - yearWidth n)
  else n / 10 ^ (yearWidth n - yearWidth m) < m

theorem dashLtDigit {c : Char} (digit : c.isDigit = true) : '-' < c := by
  rw [Char.isDigit, Bool.and_eq_true] at digit
  have least := of_decide_eq_true digit.1
  exact lt_of_lt_of_le (by decide) (Char.le_def.mpr least)

theorem fixedDigitsHead (width n : Nat) :
    ∃ c rest, fixedDigits 10 (width + 1) n = c :: rest ∧ c.isDigit = true := by
  have size := lengthFixedDigits 10 (width + 1) n
  obtain ⟨c, rest, known⟩ := List.exists_cons_of_length_eq_add_one size
  exact ⟨c, rest, known, fixedDigitsAreDigits (width + 1) n c (known ▸ List.mem_cons_self)⟩

section Dashes
variable {us vs : List Char}

theorem dashLtDigits (width n : Nat) : '-' :: us < fixedDigits 10 (width + 1) n ++ vs := by
  obtain ⟨c, rest, known, digit⟩ := fixedDigitsHead width n
  rw [known, List.cons_append, List.cons_lt_cons_iff]
  exact .inl (dashLtDigit digit)

theorem digitsNotLtDash (width n : Nat) : ¬ fixedDigits 10 (width + 1) n ++ us < '-' :: vs :=
  List.lt_asymm (dashLtDigits width n)

theorem numberTextLt {n m : Nat} (differ : n ≠ m) :
    paddedDigits 4 n ++ '-' :: us < paddedDigits 4 m ++ '-' :: vs ↔ DigitsBefore n m := by
  have left := yearFits n
  have right := yearFits m
  rw [paddedDigitsFixed, paddedDigitsFixed, DigitsBefore]
  change fixedDigits 10 (yearWidth n) n ++ _ < fixedDigits 10 (yearWidth m) m ++ _ ↔ _
  generalize yearWidth n = width at left ⊢
  generalize yearWidth m = other at right ⊢
  rcases lt_trichotomy width other with less | rfl | more
  · obtain ⟨extra, rfl⟩ := Nat.exists_eq_add_of_lt less
    have front : m / 10 ^ (extra + 1) < 10 ^ width :=
      Nat.div_lt_of_lt_mul (by rwa [← Nat.pow_add, Nat.add_comm])
    have beyond : width + extra + 1 - width = extra + 1 := by omega
    rw [if_pos less, beyond, Nat.add_assoc, fixedDigitsAppend, List.append_assoc, fixedFieldLt left front,
      and_iff_left (dashLtDigits extra m), ← Nat.le_iff_lt_or_eq]
  · rw [if_neg (lt_irrefl _), Nat.sub_self, Nat.pow_zero, Nat.div_one, fixedFieldLt left right]
    exact or_iff_left fun same => differ same.1
  · obtain ⟨extra, rfl⟩ := Nat.exists_eq_add_of_lt more
    have front : n / 10 ^ (extra + 1) < 10 ^ other :=
      Nat.div_lt_of_lt_mul (by rwa [← Nat.pow_add, Nat.add_comm])
    have beyond : other + extra + 1 - other = extra + 1 := by omega
    rw [if_neg more.asymm, beyond, Nat.add_assoc, fixedDigitsAppend, List.append_assoc,
      fixedFieldLt front right]
    exact or_iff_left fun same => digitsNotLtDash extra n same.2

end Dashes

/- The year is written with four digits and no sign. -/
def Date.Plain (date : Date) : Prop := 0 ≤ date.year ∧ date.year ≤ 9999

instance (date : Date) : Decidable date.Plain := inferInstanceAs (Decidable (_ ∧ _))

def YearBefore (y z : Int) : Prop :=
  if 9999 < y then 9999 < z → DigitsBefore y.natAbs z.natAbs
  else if y < 0 then z ≤ 9999 ∧ (z < 0 → DigitsBefore y.natAbs z.natAbs)
  else 0 ≤ z ∧ z ≤ 9999 ∧ y < z

theorem digitsBeforeTotal {n m : Nat} (differ : n ≠ m) : DigitsBefore n m ∨ DigitsBefore m n := by
  unfold DigitsBefore
  rcases lt_trichotomy (yearWidth n) (yearWidth m) with less | same | more
  · rw [if_pos less, if_neg less.asymm]
    exact le_or_gt n _
  · simpa [same] using lt_or_gt_of_ne differ
  · rw [if_neg more.asymm, if_pos more]
    exact lt_or_ge _ m

theorem yearBeforeTotal {y z : Int} (differ : y ≠ z) : YearBefore y z ∨ YearBefore z y := by
  have total (apart : y.natAbs ≠ z.natAbs) := digitsBeforeTotal apart
  unfold YearBefore
  split_ifs <;> grind

theorem plainYear {y : Int} (least : 0 ≤ y) (greatest : y ≤ 9999) :
    writeYear y = fixedDigits 10 4 y.toNat := if_pos ⟨least, greatest⟩

theorem lateYear {y : Int} (late : 9999 < y) : writeYear y = '+' :: paddedDigits 4 y.natAbs := by
  rw [writeYear, if_neg (by omega), if_neg (by omega)]

theorem earlyYear {y : Int} (early : y < 0) : writeYear y = '-' :: paddedDigits 4 y.natAbs := by
  rw [writeYear, if_neg (by omega), if_pos early]

section Years
variable {y z : Int} {us vs : List Char}

theorem dashFirst (least : 0 ≤ z) (greatest : z ≤ 9999) : '-' :: us < writeYear z ++ vs := by
  rw [plainYear least greatest]
  exact dashLtDigits 3 z.toNat

theorem plusFirst (greatest : z ≤ 9999) : '+' :: us < writeYear z ++ vs := by
  have dash (ws : List Char) : '+' :: us < '-' :: ws := List.cons_lt_cons_iff.mpr (.inl (by decide))
  by_cases early : z < 0
  · rw [earlyYear early]
    exact dash _
  · exact List.lt_trans (dash us) (dashFirst (by omega) greatest)

theorem signedYearLt {sign : Char} (differ : y.natAbs ≠ z.natAbs) :
    sign :: paddedDigits 4 y.natAbs ++ '-' :: us < sign :: paddedDigits 4 z.natAbs ++ '-' :: vs ↔
      DigitsBefore y.natAbs z.natAbs := by
  rw [List.cons_append, List.cons_append, List.cons_lt_cons_self, numberTextLt differ]

theorem lateYearLt (late : 9999 < y) (differ : y ≠ z) :
    writeYear y ++ '-' :: us < writeYear z ++ '-' :: vs ↔
      (9999 < z → DigitsBefore y.natAbs z.natAbs) := by
  rw [lateYear late]
  by_cases later : 9999 < z
  · rw [lateYear later, signedYearLt (by omega), forall_prop_of_true later]
  · exact iff_of_true (plusFirst (by omega)) fun far => absurd far later

theorem earlyYearLt (early : y < 0) (ordinary : z ≤ 9999) (differ : y ≠ z) :
    writeYear y ++ '-' :: us < writeYear z ++ '-' :: vs ↔
      (z < 0 → DigitsBefore y.natAbs z.natAbs) := by
  rw [earlyYear early]
  by_cases earlier : z < 0
  · rw [earlyYear earlier, signedYearLt (by omega), forall_prop_of_true earlier]
  · exact iff_of_true (dashFirst (by omega) ordinary) fun far => absurd far earlier

theorem plainYearLt (least : 0 ≤ y) (greatest : y ≤ 9999) (ordinary : z ≤ 9999) (differ : y ≠ z) :
    writeYear y ++ '-' :: us < writeYear z ++ '-' :: vs ↔ 0 ≤ z ∧ y < z := by
  by_cases early : z < 0
  · rw [earlyYear early]
    refine iff_of_false (fun less => ?_) (by omega)
    exact List.lt_asymm less (dashFirst least greatest)
  · rw [plainYear least greatest, plainYear (by omega) ordinary, fixedFieldLt (by omega) (by omega)]
    omega

theorem yearTextLt (differ : y ≠ z) :
    writeYear y ++ '-' :: us < writeYear z ++ '-' :: vs ↔ YearBefore y z := by
  rw [YearBefore]
  by_cases late : 9999 < y
  · rw [if_pos late, lateYearLt late differ]
  rw [if_neg late]
  by_cases later : 9999 < z
  · -- The other year has the plus, and comes first.
    have after : ¬ writeYear y ++ '-' :: us < writeYear z ++ '-' :: vs := by
      rw [lateYear later]
      exact List.lt_asymm (plusFirst (by omega))
    refine iff_of_false after ?_
    split_ifs <;> omega
  · split_ifs with early
    · rw [earlyYearLt early (by omega) differ]
      exact (and_iff_right (by omega)).symm
    · rw [plainYearLt (by omega) (by omega) (by omega) differ]
      omega

end Years

/- Whether two years, once written, are told apart the way they ought to be. -/
def WrittenInOrder (y z : Int) : Prop := y = z ∨ (YearBefore y z ↔ y < z)

theorem plainYearsInOrder {y z : Int} (left : y ≤ 9999) (right : z ≤ 9999) (some : 0 ≤ y ∨ 0 ≤ z) :
    WrittenInOrder y z := by
  refine .inr ?_
  rw [YearBefore, if_neg (by omega)]
  split_ifs with early
  · exact iff_of_true ⟨right, fun far => by omega⟩ (by omega)
  · omega

end QueryFederation.Calendar
