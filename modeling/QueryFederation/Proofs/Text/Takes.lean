import Mathlib
import QueryFederation.Proofs.Number.FixedDigits
import QueryFederation.Text.Scan

/-! Scans of what was written to be read. A scan takes a text if it takes it from whatever it stands
in front of; what a scan in steps takes is put together from what the steps take. -/
namespace QueryFederation.Text
open Number

def Takes {α : Type} (scan : Scan α) (front : List Char) (value : α) : Prop :=
  ∀ rest, scan (front ++ rest) = some (value, rest)

section Sequences
variable {α β : Type} {scan : Scan α} {next : α → Scan β} {front back cs : List Char}
  {a : α} {b : β}

theorem scanThen {rest : List Char} (first : scan cs = some (a, rest)) :
    (scan >>= next) cs = next a rest := by
  change (scan cs).bind (fun (value, rest) => next value rest) = next a rest
  rw [first]
  rfl

theorem scanFails (first : scan cs = none) : (scan >>= next) cs = none := by
  change (scan cs).bind (fun (value, rest) => next value rest) = none
  rw [first]
  rfl

theorem takesPure (a : α) : Takes (pure a : Scan α) [] a := fun _ => rfl

theorem takesNothing {next : Unit → Scan β} (second : Takes (next ()) back b) :
    Takes (pure () >>= next) back b := second

theorem takesBind (first : Takes scan front a) (second : Takes (next a) back b) :
    Takes (scan >>= next) (front ++ back) b := by
  intro rest
  rw [List.append_assoc, scanThen (first _), second]

/- The step may look at the next character, as long as it leaves it alone. -/
theorem takesBefore {c : Char} (first : ∀ rest, scan (front ++ c :: rest) = some (a, c :: rest))
    (second : Takes (next a) (c :: back) b) : Takes (scan >>= next) (front ++ c :: back) b := by
  intro rest
  rw [List.append_assoc, List.cons_append, scanThen (first _), ← List.cons_append, second]

theorem failsAfter (first : Takes scan front a) (second : next a back = none) :
    (scan >>= next) (front ++ back) = none := by
  rw [scanThen (first back), second]

section Characters
variable {accepted : List Char} {c : Char} {next : Char → Scan β} (among : c ∈ accepted)
include among

theorem oneOfTakes : Takes (Scan.oneOf accepted) [c] c := by
  intro rest
  rw [Scan.oneOf, scanThen (show Scan.next ([c] ++ rest) = some (c, rest) from rfl), if_pos among]
  rfl

theorem takesChar (second : Takes (next c) back b) :
    Takes (Scan.oneOf accepted >>= next) (c :: back) b :=
  takesBind (oneOfTakes among) second

theorem failsChar (second : next c back = none) :
    (Scan.oneOf accepted >>= next) (c :: back) = none :=
  failsAfter (oneOfTakes among) second

end Characters

theorem completeTakes (takes : Takes scan cs a) : Scan.complete? scan cs = some a := by
  have whole := takes []
  rw [List.append_nil] at whole
  rw [Scan.complete?, whole]

end Sequences

/- Digits are taken up to the width that is read at most, or up to what is no digit. -/
theorem digitsTaken {least most width n : Nat} {rest : List Char} (enough : least ≤ width)
    (ends : width = most ∨ width ≤ most ∧ rest.takeWhile Char.isDigit = []) :
    Scan.digits least (some most) (fixedDigits 10 width n ++ rest) =
      some (fixedDigits 10 width n, rest) := by
  have run : (fixedDigits 10 width n ++ rest).takeWhile Char.isDigit =
      fixedDigits 10 width n ++ rest.takeWhile Char.isDigit :=
    List.takeWhile_append_of_pos (fixedDigitsAreDigits width n)
  have taken : (fixedDigits 10 width n ++ rest.takeWhile Char.isDigit).take most =
      fixedDigits 10 width n := by
    obtain rfl | ⟨fits, stops⟩ := ends
    · rw [List.take_left' (lengthFixedDigits 10 width n)]
    · rw [stops, List.append_nil, List.take_of_length_le (by rwa [lengthFixedDigits])]
  simp only [Scan.digits, run, Option.getD_some, taken, lengthFixedDigits, if_pos enough,
    List.drop_left' (lengthFixedDigits 10 width n)]

/- A number with as many digits as are read at most. -/
theorem takesNumber {least width n : Nat} (enough : least ≤ width) (fits : n < 10 ^ width) :
    Takes (Scan.number least (some width)) (fixedDigits 10 width n) n := by
  intro rest
  rw [Scan.number, scanThen (digitsTaken enough (.inl rfl)), ofDigitsFixedDigits fits]
  rfl

/- A digit is neither a blank nor a sign. -/
theorem digitHead (width n : Nat) : ∃ c rest, fixedDigits 10 (width + 1) n = c :: rest ∧
    Unicode.isBlank c = false ∧ c ∉ ['-', '+'] := by
  have tame : ∀ d < 10, Unicode.isBlank (digitChar d) = false ∧ digitChar d ∉ ['-', '+'] := by
    decide
  obtain ⟨c, rest, known⟩ :=
    List.exists_cons_of_length_eq_add_one (lengthFixedDigits 10 (width + 1) n)
  obtain ⟨d, small, rfl⟩ := fixedDigitsChars (by decide) c (known ▸ List.mem_cons_self)
  exact ⟨_, rest, known, tame d small⟩

theorem takesAfterBlanks {β : Type} {next : Scan β} {width n : Nat} {back : List Char} {b : β}
    (second : Takes next (fixedDigits 10 (width + 1) n ++ back) b) :
    Takes (do Scan.skipBlanks; next) (fixedDigits 10 (width + 1) n ++ back) b := by
  obtain ⟨c, digits, known, plain, -⟩ := digitHead width n
  intro rest
  have skipped : Scan.skipBlanks (fixedDigits 10 (width + 1) n ++ back ++ rest) =
      some ((), fixedDigits 10 (width + 1) n ++ back ++ rest) := by
    rw [known]
    simp [Scan.skipBlanks, Scan.skipWhile, plain]
  rw [scanThen skipped, second]

end QueryFederation.Text
