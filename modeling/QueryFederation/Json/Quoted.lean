import QueryFederation.Number.Digits

/-! Quoted text. Quotes, backslashes and control characters are written as escapes. A character
beyond the first plane may be read from two escapes, each of which spells half of a pair. -/
namespace QueryFederation.Json
open Number

inductive TextUnit where
  | char (c : Char)
  | half (unit : Nat)
  deriving DecidableEq, Repr

def isHalf (unit : Nat) : Bool := 0xD800 ≤ unit && unit < 0xE000

def TextUnit.ofUnit (unit : Nat) : TextUnit :=
  if isHalf unit then .half unit else .char (Char.ofNat unit)

def joinUnits? : List TextUnit → Option (List Char)
  | [] => some []
  | .char c :: rest => (joinUnits? rest).map (c :: ·)
  | .half high :: .half low :: rest =>
    if high < 0xDC00 ∧ 0xDC00 ≤ low then
      (joinUnits? rest).map (Char.ofNat (0x10000 + (high - 0xD800) * 0x400 + (low - 0xDC00)) :: ·)
    else none
  | .half _ :: _ => none

def hexValue? (c : Char) : Option Nat :=
  if c.isDigit then some (c.toNat - '0'.toNat)
  else if 'a' ≤ c ∧ c ≤ 'f' then some (c.toNat - 'a'.toNat + 10)
  else if 'A' ≤ c ∧ c ≤ 'F' then some (c.toNat - 'A'.toNat + 10)
  else none

def hexUnit? (a b c d : Char) : Option TextUnit := do
  return .ofUnit (((← hexValue? a) * 16 + (← hexValue? b)) * 256 +
    (← hexValue? c) * 16 + (← hexValue? d))

def escaped? : Char → Option Char
  | '"' => some '"'
  | '\\' => some '\\'
  | '/' => some '/'
  | 'b' => some '\x08'
  | 'f' => some '\x0c'
  | 'n' => some '\n'
  | 'r' => some '\r'
  | 't' => some '\t'
  | _ => none

def withUnit (unit : TextUnit) (scanned : List TextUnit × List Char) :
    List TextUnit × List Char :=
  (unit :: scanned.1, scanned.2)

/- Reads up to the closing quote, and leaves what follows it. -/
def scanUnits? : List Char → Option (List TextUnit × List Char)
  | [] => none
  | '"' :: rest => some ([], rest)
  | '\\' :: 'u' :: a :: b :: c :: d :: rest => do
    let unit ← hexUnit? a b c d
    (scanUnits? rest).map (withUnit unit)
  | '\\' :: e :: rest => do
    let c ← escaped? e
    (scanUnits? rest).map (withUnit (.char c))
  | c :: rest => if c < ' ' then none else (scanUnits? rest).map (withUnit (.char c))

def scanText? (cs : List Char) : Option (Option String × List Char) := do
  let (units, after) ← scanUnits? cs
  return ((joinUnits? units).map String.ofList, after)

def escape : Char → List Char
  | '"' => ['\\', '"']
  | '\\' => ['\\', '\\']
  | '\x08' => ['\\', 'b']
  | '\x0c' => ['\\', 'f']
  | '\n' => ['\\', 'n']
  | '\r' => ['\\', 'r']
  | '\t' => ['\\', 't']
  | c => if c < ' ' then '\\' :: 'u' :: fixedDigits 16 4 c.toNat else [c]

/- A text that is absent is written as half of a pair, which is read back as absent. -/
def quote : Option String → List Char
  | some s => '"' :: s.toList.flatMap escape ++ ['"']
  | none => '"' :: '\\' :: 'u' :: fixedDigits 16 4 0xD800 ++ ['"']

theorem scanUnitsPlain {c : Char} (rest : List Char) (quote : c ≠ '"') (slash : c ≠ '\\')
    (visible : ¬ c < ' ') :
    scanUnits? (c :: rest) = (scanUnits? rest).map (withUnit (.char c)) := by
  simp [scanUnits?, slash, visible]

theorem scanUnitsEscaped {e c : Char} (rest : List Char) (known : escaped? e = some c) :
    scanUnits? ('\\' :: e :: rest) = (scanUnits? rest).map (withUnit (.char c)) := by
  have noUnit : e ≠ 'u' := by
    rintro rfl
    simp [escaped?] at known
  simp [scanUnits?, noUnit, known]

theorem scanUnitsUnit {a b c d : Char} {unit : TextUnit} (rest : List Char)
    (known : hexUnit? a b c d = some unit) :
    scanUnits? ('\\' :: 'u' :: a :: b :: c :: d :: rest) =
      (scanUnits? rest).map (withUnit unit) := by
  simp [scanUnits?, known]

theorem hexValueDigitChar {d : Nat} (small : d < 16) : hexValue? (digitChar d) = some d := by
  revert d
  decide

theorem hexUnitFixedDigits {n : Nat} (small : n < 0x10000) : ∃ a b c d,
    fixedDigits 16 4 n = [a, b, c, d] ∧ hexUnit? a b c d = some (.ofUnit n) := by
  refine ⟨_, _, _, _, by simp [fixedDigits]; exact ⟨rfl, rfl, rfl, rfl⟩, ?_⟩
  simp only [hexUnit?, hexValueDigitChar (Nat.mod_lt _ (by decide : 0 < 16)), bind, Option.bind,
    pure]
  congr 2
  omega

theorem scanUnitsCode {n : Nat} (small : n < 0x10000) (rest : List Char) :
    scanUnits? ('\\' :: 'u' :: fixedDigits 16 4 n ++ rest) =
      (scanUnits? rest).map (withUnit (.ofUnit n)) := by
  obtain ⟨a, b, c, d, digits, known⟩ := hexUnitFixedDigits small
  rw [digits]
  exact scanUnitsUnit rest known

theorem ofUnitControl {c : Char} (control : c < ' ') : TextUnit.ofUnit c.toNat = .char c := by
  have small : c.toNat < 32 := control
  have whole : isHalf c.toNat = false := by
    simp [isHalf]
    omega
  simp [TextUnit.ofUnit, whole]

theorem scanUnitsEscape (c : Char) (rest : List Char) :
    scanUnits? (escape c ++ rest) = (scanUnits? rest).map (withUnit (.char c)) := by
  unfold escape
  split
  case h_8 quote slash _ _ _ _ _ =>
    split
    · next control =>
      have small : c.toNat < 32 := control
      rw [scanUnitsCode (by omega) rest, ofUnitControl control]
    · next visible => exact scanUnitsPlain rest quote slash visible
  all_goals exact scanUnitsEscaped rest rfl

theorem scanUnitsEscapes (cs rest : List Char) :
    scanUnits? (cs.flatMap escape ++ '"' :: rest) = some (cs.map .char, rest) := by
  induction cs with
  | nil => rfl
  | cons c cs ih =>
    rw [List.flatMap_cons, List.append_assoc, scanUnitsEscape, ih]
    rfl

theorem joinUnitsChars (cs : List Char) : joinUnits? (cs.map .char) = some cs := by
  induction cs with
  | nil => rfl
  | cons c cs ih => simp [joinUnits?, ih]

theorem scanTextQuote (text : Option String) (rest : List Char) :
    ∃ inside, quote text ++ rest = '"' :: inside ∧ scanText? inside = some (text, rest) := by
  cases text with
  | none =>
    refine ⟨'\\' :: 'u' :: fixedDigits 16 4 0xD800 ++ '"' :: rest, by simp [quote], ?_⟩
    rw [scanText?, scanUnitsCode (by decide : 0xD800 < 0x10000)]
    rfl
  | some s =>
    refine ⟨s.toList.flatMap escape ++ '"' :: rest, by simp [quote], ?_⟩
    simp [scanText?, scanUnitsEscapes, joinUnitsChars]

end QueryFederation.Json
