import Mathlib
import QueryFederation.Number.Numeral

/-! Integers of 64 bits are read from just the texts that write them out. -/
namespace QueryFederation.Number

def Digits (ds : List Char) : Prop := ds ≠ [] ∧ ∀ d ∈ ds, d.isDigit = true

/- A sign may stand before the digits, either one. -/
inductive Writes : List Char → Int → Prop where
  | bare {ds} (digits : Digits ds) : Writes ds (ofDigits ds)
  | plus {ds} (digits : Digits ds) : Writes ('+' :: ds) (ofDigits ds)
  | minus {ds} (digits : Digits ds) : Writes ('-' :: ds) (-(ofDigits ds))

def signed (negative : Bool) (n : Nat) : Int := if negative then -(n : Int) else n

theorem splitSignDigits {ds : List Char} (digits : Digits ds) : splitSign ds = (false, ds) := by
  obtain ⟨filled, each⟩ := digits
  fun_cases splitSign ds with
  | case1 rest => exact absurd (each '-' List.mem_cons_self) (by decide)
  | case2 rest => exact absurd (each '+' List.mem_cons_self) (by decide)
  | case3 => rfl

theorem writesSplit {cs : List Char} {z : Int} :
    Writes cs z ↔ Digits (splitSign cs).2 ∧ z = signed (splitSign cs).1 (ofDigits (splitSign cs).2) := by
  constructor
  · intro written
    cases written with
    | bare digits =>
      rw [splitSignDigits digits]
      exact ⟨digits, rfl⟩
    | plus digits => exact ⟨digits, rfl⟩
    | minus digits => exact ⟨digits, rfl⟩
  · rintro ⟨digits, rfl⟩
    revert digits
    fun_cases splitSign cs with
    | case1 rest => exact .minus
    | case2 rest => exact .plus
    | case3 => exact .bare

theorem int64Range (n : Int64) : -(powerOfTwo 63 : Int) ≤ n.toInt ∧ n.toInt < powerOfTwo 63 :=
  ⟨n.le_toInt, n.toInt_lt⟩

theorem int64OfInt {z : Int} {n : Int64} :
    (-(powerOfTwo 63 : Int) ≤ z ∧ z < powerOfTwo 63) ∧ Int64.ofInt z = n ↔ z = n.toInt := by
  constructor
  · rintro ⟨⟨least, greatest⟩, rfl⟩
    exact (Int64.toInt_ofInt_of_le least greatest).symm
  · rintro rfl
    exact ⟨int64Range n, n.ofInt_toInt⟩

theorem readInt64Some {cs : List Char} {n : Int64} :
    readInt64? cs = some n ↔ Writes cs n.toInt := by
  have refused : ((splitSign cs).2.isEmpty || !(splitSign cs).2.all Char.isDigit) = true ↔
      ¬ Digits (splitSign cs).2 := by
    simp only [Digits, Bool.or_eq_true, List.isEmpty_iff, Bool.not_eq_true', Bool.eq_false_iff, ne_eq,
      List.all_eq_true, not_and_or, not_not]
  rw [writesSplit, eq_comm (a := n.toInt), ← int64OfInt]
  simp only [readInt64?, refused, Option.ite_none_left_eq_some, Option.ite_none_right_eq_some,
    Option.some.injEq, not_not]
  rfl

end QueryFederation.Number
