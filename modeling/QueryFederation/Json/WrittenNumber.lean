import QueryFederation.Json.Token

/-! A number is read back from its text, whatever follows it, as long as that could not belong to
the number. -/
namespace QueryFederation.Json
open Number

def endsNumber : List Char → Bool
  | [] => true
  | c :: _ => !c.isDigit && c != '.' && c != 'e' && c != 'E'

def startsNoDigit (cs : List Char) : Bool := cs.head?.all fun c => !c.isDigit

theorem startsNoDigitOfEndsNumber {cs : List Char} (ends : endsNumber cs = true) :
    startsNoDigit cs = true := by
  cases cs with
  | nil => rfl
  | cons c rest =>
    simp only [endsNumber, Bool.and_eq_true] at ends
    exact ends.1.1.1

theorem takeWhileDigits {ds rest : List Char} (all : ∀ c ∈ ds, c.isDigit = true)
    (stop : startsNoDigit rest = true) :
    (ds ++ rest).takeWhile Char.isDigit = ds ∧ (ds ++ rest).dropWhile Char.isDigit = rest := by
  induction ds with
  | nil =>
    cases rest with
    | nil => exact ⟨rfl, rfl⟩
    | cons c rest =>
      have no : c.isDigit = false := by simpa [startsNoDigit] using stop
      simp [no]
  | cons d ds ih =>
    have first := all d List.mem_cons_self
    have others := ih fun c mem => all c (List.mem_cons_of_mem d mem)
    simp [first, others]

theorem scanDigitsAppend {ds rest : List Char} (nonempty : ds ≠ [])
    (all : ∀ c ∈ ds, c.isDigit = true) (stop : startsNoDigit rest = true) :
    scanDigits? (ds ++ rest) = some (ds, rest) := by
  obtain ⟨taken, dropped⟩ := takeWhileDigits all stop
  rw [scanDigits?, taken, dropped]
  cases ds with
  | nil => exact absurd rfl nonempty
  | cons d ds => rfl

theorem scanWholeDigits (n : Nat) {rest : List Char} (stop : startsNoDigit rest = true) :
    scanWhole? (digits n ++ rest) = some (n, rest) := by
  have scanned := scanDigitsAppend (digitsNeNil n) (digitsIsDigit n) stop
  rcases Nat.eq_zero_or_pos n with rfl | positive
  · rw [digitsZero]
    rfl
  · rw [scanWhole?.eq_def]
    split
    · next front =>
      cases same : digits n with
      | nil => exact absurd same (digitsNeNil n)
      | cons d ds =>
        rw [same] at front
        exact absurd ((List.cons.inj front).1 ▸ same) (digitsHeadNeZero positive ds)
    · simp [scanned, ofDigitsDigits]

theorem digitOfDigitChar (d : Fin 10) : digitOf (digitChar d.val) = d := by
  revert d
  decide

theorem scanFractionWrite (fraction : List (Fin 10)) {rest : List Char}
    (stop : startsNoDigit rest = true) (point : rest.head? ≠ some '.') :
    scanFraction? (writeFraction fraction ++ rest) = some (fraction, rest) := by
  cases fraction with
  | nil =>
    cases rest with
    | nil => rfl
    | cons c rest =>
      have other : c ≠ '.' := fun same => point (congrArg some same)
      simp [writeFraction, scanFraction?, other]
  | cons d ds =>
    have all : ∀ c ∈ (d :: ds).map fun d => digitChar d.val, c.isDigit = true := by
      intro c mem
      obtain ⟨d, _, rfl⟩ := List.mem_map.mp mem
      exact digitCharIsDigit d.isLt
    have scanned := scanDigitsAppend (by simp) all stop
    have same : ((d :: ds).map fun d => digitChar d.val).map digitOf = d :: ds := by
      simp [digitOfDigitChar, Function.comp_def]
    simp only [writeFraction, scanFraction?, List.cons_append, scanned, Option.map_some, same]

theorem scanSignedDigitsWrite (z : Int) {rest : List Char} (stop : startsNoDigit rest = true) :
    scanSignedDigits? (signedDigits z ++ rest) = some (z, rest) := by
  have scanned := scanDigitsAppend (digitsNeNil z.natAbs) (digitsIsDigit z.natAbs) stop
  have value := ofDigitsDigits z.natAbs
  by_cases negative : z < 0
  · have same : -(z.natAbs : Int) = z := by omega
    simp only [signedDigits, withSign, negative, decide_true, if_true, List.cons_append,
      scanSignedDigits?, scanned, Option.map_some, value, same]
  · obtain ⟨d, ds, same, digit⟩ := digitsHeadIsDigit z.natAbs
    have noMinus : d ≠ '-' := by
      rintro rfl
      exact absurd digit (by decide)
    have noPlus : d ≠ '+' := by
      rintro rfl
      exact absurd digit (by decide)
    rw [same] at scanned value
    simp only [List.cons_append] at scanned
    have sized : (z.natAbs : Int) = z := by omega
    rw [signedDigits, decide_eq_false negative, withSign, if_neg Bool.false_ne_true, same,
      List.cons_append, scanSignedDigits?.eq_def]
    split
    · next front => exact absurd (List.cons.inj front).1 noMinus
    · next front => exact absurd (List.cons.inj front).1 noPlus
    · simp only [scanned, Option.map_some, value, sized]

theorem scanExponentWrite (exponent : Option Int) {rest : List Char}
    (ends : endsNumber rest = true) :
    scanExponent? (writeExponent exponent ++ rest) = some (exponent, rest) := by
  cases exponent with
  | some z =>
    have scanned := scanSignedDigitsWrite z (startsNoDigitOfEndsNumber ends)
    simp [writeExponent, scanExponent?, scanned]
  | none =>
    cases rest with
    | nil => rfl
    | cons c rest =>
      simp only [endsNumber, Bool.and_eq_true, bne_iff_ne] at ends
      simp [writeExponent, scanExponent?, ends.1.2, ends.2]

theorem scanMagnitudeWrite (number : NumberText) {rest : List Char}
    (ends : endsNumber rest = true) :
    scanMagnitude? number.negative
      (digits number.whole ++ writeFraction number.fraction ++ writeExponent number.exponent ++
        rest) =
      some (number, rest) := by
  have noDigit := startsNoDigitOfEndsNumber ends
  have exponentStop : startsNoDigit (writeExponent number.exponent ++ rest) = true := by
    cases number.exponent with
    | some z => rfl
    | none => exact noDigit
  have exponentPoint : (writeExponent number.exponent ++ rest).head? ≠ some '.' := by
    cases number.exponent with
    | some z => simp [writeExponent]
    | none =>
      cases rest with
      | nil => simp [writeExponent]
      | cons c rest =>
        simp only [endsNumber, Bool.and_eq_true, bne_iff_ne] at ends
        simpa [writeExponent] using ends.1.1.2
  have wholeStop : startsNoDigit
      (writeFraction number.fraction ++ (writeExponent number.exponent ++ rest)) = true := by
    cases number.fraction with
    | nil => exact exponentStop
    | cons d ds => rfl
  simp only [List.append_assoc, scanMagnitude?, scanWholeDigits _ wholeStop,
    scanFractionWrite _ exponentStop exponentPoint, scanExponentWrite _ ends, bind,
    Option.bind, pure]

theorem scanNumberWrite (number : NumberText) {rest : List Char}
    (ends : endsNumber rest = true) :
    scanNumber? (number.write ++ rest) = some (number, rest) := by
  have scanned := scanMagnitudeWrite number ends
  cases negative : number.negative with
  | true =>
    rw [negative] at scanned
    simpa [NumberText.write, withSign, negative, scanNumber?] using scanned
  | false =>
    obtain ⟨d, ds, same, digit⟩ := digitsHeadIsDigit number.whole
    have noMinus : d ≠ '-' := by
      rintro rfl
      exact absurd digit (by decide)
    rw [negative, same] at scanned
    simp only [List.append_assoc, List.cons_append] at scanned
    simp [NumberText.write, withSign, negative, scanNumber?, same, noMinus, scanned]

end QueryFederation.Json
