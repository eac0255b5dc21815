import QueryFederation.Calendar.Written
import QueryFederation.Number.Plain

/-! Literal values of predicates. -/
namespace QueryFederation.Request
open Number Calendar

inductive Literal where
  | text (value : String)
  | int (value : Int64)
  | float (value : Binary64)
  | bool (value : Bool)
  | instant (value : Instant)
  | id (value : String)
  deriving DecidableEq, Repr

def replaceChar (c : Char) (replacement : List Char) (s : String) : String :=
  String.ofList (s.toList.flatMap fun d => if d = c then replacement else [d])

def intText (value : Int64) : String := String.ofList (signedDigits value.toInt)

/- As it is written in a statement. Only in a text are apostrophes escaped. -/
def Literal.render : Literal → String
  | .text value => "'" ++ replaceChar '\'' ['\\', '\''] value ++ "'"
  | .int value => intText value
  | .float value => value.plain
  | .bool value => if value then "TRUE" else "FALSE"
  | .instant value => "TIMESTAMP '" ++ value.text ++ "'"
  | .id value => "'" ++ value ++ "'"

def Literal.plainText : Literal → String
  | .text value | .id value => value
  | .int value => intText value
  | .float value => value.plain
  | .bool value => if value then "true" else "false"
  | .instant value => value.text

end QueryFederation.Request
