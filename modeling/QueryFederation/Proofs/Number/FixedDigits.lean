import Mathlib
import QueryFederation.Number.Digits

/-! Digits of fixed width stand in the order of the numbers they are the digits of. -/
namespace QueryFederation.Number

theorem lengthFixedDigits (base width n : Nat) : (fixedDigits base width n).length = width := by
  induction width generalizing n with
  | zero => rfl
  | succ width ih => rw [fixedDigits, List.length_append, ih, List.length_singleton]

theorem digitCharLt {d e : Nat} (left : d < 16) (right : e < 16) :
    digitChar d < digitChar e ↔ d < e := by
  have all : ∀ d < 16, ∀ e < 16, (digitChar d < digitChar e ↔ d < e) := by decide
  exact all d left e right

/- Lists of one length are compared by their last members only if they agree before. -/
theorem appendLt {xs ys us vs : List Char} (size : xs.length = ys.length) :
    xs ++ us < ys ++ vs ↔ xs < ys ∨ xs = ys ∧ us < vs := by
  induction xs generalizing ys with
  | nil =>
    cases ys with
    | nil => simp
    | cons y rest => contradiction
  | cons x rest ih =>
    cases ys with
    | nil => contradiction
    | cons y others =>
      rw [List.cons_append, List.cons_append, List.cons_lt_cons_iff, List.cons_lt_cons_iff,
        ih (Nat.succ.inj size), List.cons.injEq]
      tauto

theorem placesLt {base n m : Nat} (positive : 0 < base) :
    n < m ↔ n / base < m / base ∨ n / base = m / base ∧ n % base < m % base := by
  have left := Nat.div_add_mod n base
  have right := Nat.div_add_mod m base
  have low := Nat.mod_lt n positive
  have last := Nat.mod_lt m positive
  constructor
  · intro less
    rcases Nat.lt_or_ge (n / base) (m / base) with front | front
    · exact .inl front
    · have same : n / base = m / base :=
        Nat.le_antisymm (Nat.div_le_div_right less.le) front
      rw [same] at left
      exact .inr ⟨same, by omega⟩
  · rintro (front | ⟨same, less⟩)
    · have carried : base * (n / base + 1) ≤ base * (m / base) := Nat.mul_le_mul_left base front
      rw [Nat.mul_add] at carried
      omega
    · rw [same] at left
      omega

/- What stands in the order of other things is equal just where they are. -/
theorem equalOfOrder {α β : Type} [LinearOrder α] [LinearOrder β] {a b : α} {x y : β}
    (below : a < b ↔ x < y) (above : b < a ↔ y < x) : a = b ↔ x = y := by
  rw [le_antisymm_iff, le_antisymm_iff, ← not_lt, ← not_lt, ← not_lt, ← not_lt, below, above]

theorem fixedDigitsLt {base width n m : Nat} (positive : 0 < base) (digits : base ≤ 16)
    (left : n < base ^ width) (right : m < base ^ width) :
    fixedDigits base width n < fixedDigits base width m ↔ n < m := by
  induction width generalizing n m with
  | zero =>
    have none : n = 0 := by simpa using left
    have nothing : m = 0 := by simpa using right
    simp [none, nothing]
  | succ width ih =>
    rw [Nat.pow_succ] at left right
    have front : n / base < base ^ width := Nat.div_lt_of_lt_mul (Nat.mul_comm _ base ▸ left)
    have back : m / base < base ^ width := Nat.div_lt_of_lt_mul (Nat.mul_comm _ base ▸ right)
    have equal : fixedDigits base width (n / base) = fixedDigits base width (m / base) ↔
        n / base = m / base := equalOfOrder (ih front back) (ih back front)
    have last : [digitChar (n % base)] < [digitChar (m % base)] ↔ n % base < m % base := by
      have low := (Nat.mod_lt n positive).trans_le digits
      have high := (Nat.mod_lt m positive).trans_le digits
      rw [List.cons_lt_cons_iff, digitCharLt low high]
      simp
    have size : (fixedDigits base width (n / base)).length =
        (fixedDigits base width (m / base)).length := by rw [lengthFixedDigits, lengthFixedDigits]
    rw [fixedDigits, fixedDigits, appendLt size, ih front back, equal, last]
    exact (placesLt positive).symm

theorem fixedDigitsInj {base width n m : Nat} (positive : 0 < base) (digits : base ≤ 16)
    (left : n < base ^ width) (right : m < base ^ width) :
    fixedDigits base width n = fixedDigits base width m ↔ n = m :=
  equalOfOrder (fixedDigitsLt positive digits left right) (fixedDigitsLt positive digits right left)

/- A field of one width is compared before what comes after it. -/
theorem fixedFieldLt {width n m : Nat} (left : n < 10 ^ width) (right : m < 10 ^ width)
    {us vs : List Char} :
    fixedDigits 10 width n ++ us < fixedDigits 10 width m ++ vs ↔ n < m ∨ n = m ∧ us < vs := by
  have size : (fixedDigits 10 width n).length = (fixedDigits 10 width m).length := by
    rw [lengthFixedDigits, lengthFixedDigits]
  rw [appendLt size, fixedDigitsLt (by decide) (by decide) left right,
    fixedDigitsInj (by decide) (by decide) left right]

/- The first digits are those of the quotient. -/
theorem fixedDigitsAppend (base width extra n : Nat) :
    fixedDigits base (width + extra) n =
      fixedDigits base width (n / base ^ extra) ++ fixedDigits base extra n := by
  induction extra generalizing n with
  | zero => simp [fixedDigits]
  | succ extra ih =>
    rw [← Nat.add_assoc, fixedDigits, ih, Nat.div_div_eq_div_mul, ← Nat.pow_succ', fixedDigits,
      List.append_assoc]

theorem fixedDigitsZero (width : Nat) : fixedDigits 10 width 0 = List.replicate width '0' := by
  induction width with
  | zero => rfl
  | succ width ih =>
    rw [fixedDigits, Nat.zero_div, ih, List.replicate_succ']
    rfl

theorem digitsFixed (n : Nat) : digits n = fixedDigits 10 (digits n).length n := by
  fun_induction digits n with
  | case1 n small =>
    rw [List.length_singleton, fixedDigits, Nat.mod_eq_of_lt small]
    rfl
  | case2 n large ih =>
    rw [List.length_append, List.length_singleton, fixedDigits, ← ih]

theorem ltPowDigits (n : Nat) : n < 10 ^ (digits n).length := by
  fun_induction digits n with
  | case1 n small => simpa using small
  | case2 n large ih =>
    rw [List.length_append, List.length_singleton, Nat.pow_succ]
    omega

/- A number is padded to the greater of the width and its own length. -/
theorem paddedDigitsFixed (width n : Nat) :
    paddedDigits width n = fixedDigits 10 (max width (digits n).length) n := by
  have front : n / 10 ^ (digits n).length = 0 := Nat.div_eq_of_lt (ltPowDigits n)
  have split : max width (digits n).length =
      (width - (digits n).length) + (digits n).length := by omega
  rw [paddedDigits, split, fixedDigitsAppend, front, fixedDigitsZero, ← digitsFixed]

theorem fixedDigitsChars {base width n : Nat} (positive : 0 < base) :
    ∀ c ∈ fixedDigits base width n, ∃ d < base, digitChar d = c := by
  induction width generalizing n with
  | zero =>
    intro c member
    contradiction
  | succ width ih =>
    intro c member
    rcases List.mem_append.mp member with front | last
    · exact ih c front
    · exact ⟨n % base, Nat.mod_lt n positive, (List.mem_singleton.mp last).symm⟩

theorem fixedDigitsAreDigits (width n : Nat) : ∀ c ∈ fixedDigits 10 width n, c.isDigit = true := by
  intro c member
  obtain ⟨d, small, rfl⟩ := fixedDigitsChars (by decide) c member
  exact digitCharIsDigit small

/- A width that is great enough loses nothing. -/
theorem ofDigitsFixedDigits {width n : Nat} (fits : n < 10 ^ width) :
    ofDigits (fixedDigits 10 width n) = n := by
  induction width generalizing n with
  | zero =>
    have none : n = 0 := by simpa using fits
    rw [none]
    rfl
  | succ width ih =>
    rw [Nat.pow_succ] at fits
    rw [fixedDigits, ofDigitsAppendDigit, ih (by omega), digitCharValue (Nat.mod_lt n (by decide))]
    omega

end QueryFederation.Number
