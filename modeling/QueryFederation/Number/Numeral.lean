import QueryFederation.Number.Binary
import QueryFederation.Number.Digits

/-! Numbers written in text. -/
namespace QueryFederation.Number

def splitSign : List Char → Bool × List Char
  | '-' :: rest => (true, rest)
  | '+' :: rest => (false, rest)
  | cs => (false, cs)

def readInt64? (cs : List Char) : Option Int64 :=
  let (negative, ds) := splitSign cs
  if ds.isEmpty || !ds.all Char.isDigit then none
  else
    let value : Int := if negative then -(ofDigits ds : Int) else ofDigits ds
    if -(powerOfTwo 63 : Int) ≤ value ∧ value < powerOfTwo 63 then some (Int64.ofInt value) else none

structure Numeral where
  whole : List Char
  fraction : List Char
  exponent : Int
  deriving DecidableEq, Repr

def readExponent? (cs : List Char) : Option Int :=
  let (negative, ds) := splitSign cs
  if ds.isEmpty || !ds.all Char.isDigit then none
  else some (if negative then -(ofDigits ds : Int) else ofDigits ds)

def readNumeral? (cs : List Char) : Option Numeral :=
  let (whole, tail) := cs.span Char.isDigit
  let (fraction, tail) :=
    match tail with
    | '.' :: rest => rest.span Char.isDigit
    | _ => ([], tail)
  if whole.isEmpty && fraction.isEmpty then none
  else
    match tail with
    | [] => some ⟨whole, fraction, 0⟩
    | c :: rest =>
      if c = 'e' ∨ c = 'E' then (readExponent? rest).map fun exponent => ⟨whole, fraction, exponent⟩
      else none

def Numeral.magnitude (format : Format) (n : Numeral) : Nat :=
  format.ofDecimal (ofDigits (n.whole ++ n.fraction)) (n.exponent - n.fraction.length)

def readBinary64? (cs : List Char) : Option Binary64 :=
  let (negative, body) := splitSign cs
  let word := String.ofList (body.map Char.toLower)
  if word = "inf" ∨ word = "infinity" then some (.ofParts negative Format.double.infinity)
  else if word = "nan" then some (.nan negative)
  else (readNumeral? body).map fun n => .ofParts negative (n.magnitude .double)

end QueryFederation.Number
