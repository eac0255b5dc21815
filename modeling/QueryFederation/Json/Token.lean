import QueryFederation.Json.Quoted
import QueryFederation.Json.Tree

/-! The tokens of JSON text. Between tokens there may be blanks. -/
namespace QueryFederation.Json
open Number

inductive Token where
  | arrayStart
  | arrayEnd
  | objectStart
  | objectEnd
  | comma
  | colon
  | null
  | bool (value : Bool)
  | number (value : NumberText)
  | text (value : Option String)
  deriving DecidableEq, Repr

def scanDigits? (cs : List Char) : Option (List Char × List Char) :=
  match cs.takeWhile Char.isDigit with
  | [] => none
  | ds => some (ds, cs.dropWhile Char.isDigit)

/- Only the number zero begins with a zero. -/
def scanWhole? : List Char → Option (Nat × List Char)
  | '0' :: rest => some (0, rest)
  | cs => (scanDigits? cs).map fun (ds, after) => (ofDigits ds, after)

def scanFraction? : List Char → Option (List (Fin 10) × List Char)
  | '.' :: rest => (scanDigits? rest).map fun (ds, after) => (ds.map digitOf, after)
  | cs => some ([], cs)

def scanSignedDigits? : List Char → Option (Int × List Char)
  | '-' :: rest => (scanDigits? rest).map fun (ds, after) => (-(ofDigits ds : Int), after)
  | '+' :: rest => (scanDigits? rest).map fun (ds, after) => ((ofDigits ds : Int), after)
  | cs => (scanDigits? cs).map fun (ds, after) => ((ofDigits ds : Int), after)

def scanExponent? : List Char → Option (Option Int × List Char)
  | 'e' :: rest | 'E' :: rest => (scanSignedDigits? rest).map fun (z, after) => (some z, after)
  | cs => some (none, cs)

def scanMagnitude? (negative : Bool) (cs : List Char) : Option (NumberText × List Char) := do
  let (whole, cs) ← scanWhole? cs
  let (fraction, cs) ← scanFraction? cs
  let (exponent, cs) ← scanExponent? cs
  return (⟨negative, whole, fraction, exponent⟩, cs)

def scanNumber? : List Char → Option (NumberText × List Char)
  | '-' :: rest => scanMagnitude? true rest
  | cs => scanMagnitude? false cs

def scanToken? : List Char → Option (Token × List Char)
  | '[' :: rest => some (.arrayStart, rest)
  | ']' :: rest => some (.arrayEnd, rest)
  | '{' :: rest => some (.objectStart, rest)
  | '}' :: rest => some (.objectEnd, rest)
  | ',' :: rest => some (.comma, rest)
  | ':' :: rest => some (.colon, rest)
  | 'n' :: 'u' :: 'l' :: 'l' :: rest => some (.null, rest)
  | 't' :: 'r' :: 'u' :: 'e' :: rest => some (.bool true, rest)
  | 'f' :: 'a' :: 'l' :: 's' :: 'e' :: rest => some (.bool false, rest)
  | '"' :: rest => (scanText? rest).map fun (text, after) => (.text text, after)
  | cs => (scanNumber? cs).map fun (number, after) => (.number number, after)

def isBlank (c : Char) : Bool := c == ' ' || c == '\t' || c == '\n' || c == '\r'

def scanTokens? : Nat → List Char → Option (List Token)
  | 0, _ => none
  | steps + 1, cs =>
    match cs.dropWhile isBlank with
    | [] => some []
    | rest => do
      let (token, after) ← scanToken? rest
      return token :: (← scanTokens? steps after)

/- Every token has a character at least, so that there are no more tokens than characters. -/
def tokens? (cs : List Char) : Option (List Token) := scanTokens? (cs.length + 1) cs

def writeFraction : List (Fin 10) → List Char
  | [] => []
  | ds => '.' :: ds.map fun d => digitChar d.val

def writeExponent : Option Int → List Char
  | some exponent => 'e' :: signedDigits exponent
  | none => []

def NumberText.write (number : NumberText) : List Char :=
  withSign number.negative
    (digits number.whole ++ writeFraction number.fraction ++ writeExponent number.exponent)

def Token.write : Token → List Char
  | .arrayStart => ['[']
  | .arrayEnd => [']']
  | .objectStart => ['{']
  | .objectEnd => ['}']
  | .comma => [',']
  | .colon => [':']
  | .null => ['n', 'u', 'l', 'l']
  | .bool true => ['t', 'r', 'u', 'e']
  | .bool false => ['f', 'a', 'l', 's', 'e']
  | .number value => value.write
  | .text value => quote value

end QueryFederation.Json
