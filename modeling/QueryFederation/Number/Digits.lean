/-! Digits of natural numbers: of fixed width, which order like the numbers they stand for, and
of any width. -/
namespace QueryFederation.Number

def digitChar (d : Nat) : Char :=
  if d < 10 then Char.ofNat ('0'.toNat + d) else Char.ofNat ('a'.toNat + (d - 10))

def fixedDigits (base : Nat) : Nat → Nat → List Char
  | 0, _ => []
  | width + 1, n => fixedDigits base width (n / base) ++ [digitChar (n % base)]

def digits (n : Nat) : List Char :=
  if n < 10 then [digitChar n] else digits (n / 10) ++ [digitChar (n % 10)]

def paddedDigits (width n : Nat) : List Char :=
  List.replicate (width - (digits n).length) '0' ++ digits n

def ofDigits (ds : List Char) : Nat := ds.foldl (fun n d => 10 * n + (d.toNat - '0'.toNat)) 0

def withSign (negative : Bool) (cs : List Char) : List Char :=
  if negative then '-' :: cs else cs

def signedDigits (z : Int) : List Char := withSign (z < 0) (digits z.natAbs)

theorem digitCharIsDigit {d : Nat} (small : d < 10) : (digitChar d).isDigit = true := by
  revert d
  decide

theorem digitCharValue {d : Nat} (small : d < 10) : (digitChar d).toNat - '0'.toNat = d := by
  revert d
  decide

theorem digitsIsDigit (n : Nat) : ∀ c ∈ digits n, c.isDigit = true := by
  fun_induction digits n with
  | case1 n small =>
    intro c mem
    rw [List.mem_singleton.mp mem]
    exact digitCharIsDigit small
  | case2 n large ih =>
    intro c mem
    rcases List.mem_append.mp mem with front | last
    · exact ih c front
    · rw [List.mem_singleton.mp last]
      exact digitCharIsDigit (Nat.mod_lt n (by omega))

theorem digitsZero : digits 0 = ['0'] := by
  rw [digits]
  rfl

theorem digitsNeNil (n : Nat) : digits n ≠ [] := by
  rw [digits]
  split <;> simp

theorem digitsHeadIsDigit (n : Nat) : ∃ d ds, digits n = d :: ds ∧ d.isDigit = true := by
  cases same : digits n with
  | nil => exact absurd same (digitsNeNil n)
  | cons d ds => exact ⟨d, ds, rfl, digitsIsDigit n d (same ▸ List.mem_cons_self)⟩

theorem ofDigitsAppendDigit (ds : List Char) (c : Char) :
    ofDigits (ds ++ [c]) = 10 * ofDigits ds + (c.toNat - '0'.toNat) := by
  simp [ofDigits]

theorem ofDigitsDigits (n : Nat) : ofDigits (digits n) = n := by
  fun_induction digits n with
  | case1 n small => simpa [ofDigits] using digitCharValue small
  | case2 n large ih =>
    rw [ofDigitsAppendDigit, ih, digitCharValue (Nat.mod_lt n (by omega))]
    omega

theorem digitsHeadNeZero {n : Nat} (positive : 0 < n) (rest : List Char) :
    digits n ≠ '0' :: rest := by
  fun_induction digits n generalizing rest with
  | case1 n small =>
    intro same
    have value := digitCharValue small
    rw [(List.cons.inj same).1] at value
    have : n = 0 := by rw [← value]; decide
    omega
  | case2 n large ih =>
    cases front : digits (n / 10) with
    | nil => exact absurd front (digitsNeNil _)
    | cons c cs =>
      intro same
      have head : c = '0' := by
        simp at same
        exact same.1
      exact ih (by omega) cs (head ▸ front)

end QueryFederation.Number
