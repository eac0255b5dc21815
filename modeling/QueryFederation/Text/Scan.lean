import QueryFederation.Number.Digits
import QueryFederation.Unicode.Blank

/-! Reading a text from the left. A scan takes what it needs and leaves the rest, or fails. -/
namespace QueryFederation.Text

abbrev Scan := StateT (List Char) Option

namespace Scan

def complete? {α : Type} (scan : Scan α) (cs : List Char) : Option α :=
  match scan cs with
  | some (value, []) => some value
  | _ => none

def next : Scan Char
  | [] => none
  | c :: rest => some (c, rest)

def oneOf (accepted : List Char) : Scan Char := do
  let c ← next
  if c ∈ accepted then pure c else failure

def optionally (accepted : List Char) : Scan (Option Char)
  | [] => some (none, [])
  | c :: rest => if c ∈ accepted then some (some c, rest) else some (none, c :: rest)

def skipWhile (skipped : Char → Bool) : Scan Unit := fun cs => some ((), cs.dropWhile skipped)

def skipBlanks : Scan Unit := skipWhile Unicode.isBlank

def digits (least : Nat) (most : Option Nat) : Scan (List Char) := fun cs =>
  let run := cs.takeWhile Char.isDigit
  let ds := run.take (most.getD run.length)
  if least ≤ ds.length then some (ds, cs.drop ds.length) else none

def number (least : Nat) (most : Option Nat) : Scan Nat := do
  return Number.ofDigits (← digits least most)

end Scan

end QueryFederation.Text
