import QueryFederation.Calendar.Reading
import QueryFederation.Number.Numeral
import QueryFederation.Request.Literal
import QueryFederation.Schema.DataType

/-! Index terms of typed values. Numbers and instants are written so that their terms are ordered
like the values, which is what ranges over terms rely on. -/
namespace QueryFederation.Index
open Number Calendar Request Schema

def longTerm (value : Int64) : String :=
  String.ofList (fixedDigits 10 20 (value.toInt + powerOfTwo 63).toNat)

/- The place of a bit pattern in the order of all of them: negative numbers come first, and
among them those of greater magnitude. -/
def sortKey (value : Binary64) : Nat :=
  let bits := value.bits.toNat
  if value.isNegative then powerOfTwo 64 - 1 - bits else powerOfTwo 63 + bits

def doubleTerm (value : Binary64) : String := String.ofList (fixedDigits 16 16 (sortKey value))

def instantTerm (value : Instant) : String := value.text

inductive EncodingFault where
  | mismatch
  | outOfIntRange
  | notANumber
  deriving DecidableEq, Repr

def EncodingFault.message (type : DataType) (value : Literal) : EncodingFault → String
  | .mismatch => "literal " ++ value.render ++ " does not fit a " ++ type.name ++ " property"
  | .outOfIntRange => "literal " ++ value.render ++ " is out of range for an int property"
  | .notANumber => "literal " ++ value.render ++ " is not a number"

def integerOf? : Literal → Option Int64
  | .int value => some value
  | .text s | .id s => readInt64? (Unicode.trim s.toList)
  | _ => none

def doubleOf? : Literal → Option Binary64
  | .float value => some value
  | .int value => some (.ofInt value.toInt)
  | .text s | .id s => readBinary64? (Unicode.trim s.toList)
  | _ => none

def instantOf? : Literal → Option Instant
  | .instant value => some value
  | .text s => readInstantOrDate? s.toList
  | _ => none

def boolOf? : Literal → Option Bool
  | .bool value => some value
  | .text s =>
    let word := s.toList.map Char.toLower
    if word = ['t', 'r', 'u', 'e'] then some true
    else if word = ['f', 'a', 'l', 's', 'e'] then some false
    else none
  | _ => none

def orMismatch {α : Type} : Option α → Except EncodingFault α
  | some value => .ok value
  | none => .error .mismatch

def fitsInt (value : Int64) : Bool :=
  -(powerOfTwo 31 : Int) ≤ value.toInt && value.toInt < powerOfTwo 31

def encode (type : DataType) (value : Literal) : Except EncodingFault String :=
  match type with
  | .int => do
    let n ← orMismatch (integerOf? value)
    if fitsInt n then return longTerm n else throw .outOfIntRange
  | .long => do return longTerm (← orMismatch (integerOf? value))
  | .float | .double => do
    let x ← orMismatch (doubleOf? value)
    if x.isNaN then throw .notANumber else return doubleTerm x
  | .boolean => do return if (← orMismatch (boolOf? value)) then "true" else "false"
  | .date => do return instantTerm (← orMismatch (instantOf? value)).midnight
  | .dateTime => do return instantTerm (← orMismatch (instantOf? value))
  | .id =>
    match value with
    | .bool _ | .instant _ => .error .mismatch
    | _ => .ok value.plainText
  | .text | .mlText | .content => .ok value.plainText

end QueryFederation.Index
