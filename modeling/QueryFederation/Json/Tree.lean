/-! JSON values. Every tree has a text, and numbers keep the digits that they were written with. -/
namespace QueryFederation.Json

def digitOf (c : Char) : Fin 10 := Fin.ofNat 10 (c.toNat - '0'.toNat)

/- A number as it is written: an integer has neither digits after a point nor an exponent. -/
structure NumberText where
  negative : Bool
  whole : Nat
  fraction : List (Fin 10)
  exponent : Option Int
  deriving DecidableEq, Repr

/-- A text is absent if its escapes spell half of a pair that does not make a character. The names
of an object are texts too, and may be repeated. -/
inductive Tree where
  | null
  | bool (value : Bool)
  | number (value : NumberText)
  | text (value : Option String)
  | array (items : List Tree)
  | object (members : List (Option String × Tree))
  deriving Repr

namespace NumberText

def ofNat (n : Nat) : NumberText := ⟨false, n, [], none⟩

def ofInt (z : Int) : NumberText := ⟨z < 0, z.natAbs, [], none⟩

/- The integer that is written. A zero with a sign is none. -/
def int? (number : NumberText) : Option Int :=
  if number.fraction ≠ [] ∨ number.exponent ≠ none then none
  else if !number.negative then some number.whole
  else if number.whole = 0 then none
  else some (-number.whole)

end NumberText

namespace Tree

def ofString (s : String) : Tree := .text (some s)

def record (fields : List (String × Tree)) : Tree :=
  .object (fields.map fun (name, value) => (some name, value))

def tagged (name : String) (value : Tree) : Tree := record [(name, value)]

end Tree

end QueryFederation.Json
