import QueryFederation.Schema.Namespaces
import QueryFederation.Unicode.Blank

/-! Names of properties and types. A name has three spellings: qualified, with its namespace in
braces; labelled, with a namespace label and a colon; and bare, in the namespace of the empty
label. `resolve` reads all three. -/
namespace QueryFederation.Schema

structure QualifiedName where
  space : String
  localName : String
  deriving DecidableEq, Repr

inductive NameFault where
  | empty
  | notQualified (text : String)
  | unknownLabel (label : String)
  deriving DecidableEq, Repr

def NameFault.message : NameFault → String
  | .empty => "empty name"
  | .notQualified text => "not a qualified name: `" ++ text ++ "`"
  | .unknownLabel label => "unknown namespace prefix `" ++ label ++ "`"

namespace QualifiedName

def text (name : QualifiedName) : String :=
  "\x7b" ++ name.space ++ "\x7d" ++ name.localName

def le (a b : QualifiedName) : Bool :=
  if a.space = b.space then decide (a.localName ≤ b.localName) else decide (a.space ≤ b.space)

/- A local name that follows a brace or a colon: at least one character and all on one line. -/
def isLocalName (cs : List Char) : Bool := !cs.isEmpty && !cs.contains '\n'

def ofQualified? (s : String) : Option QualifiedName :=
  match s.toList with
  | '{' :: inside =>
    match inside.span (· ≠ '}') with
    | (space, _ :: name) =>
      if isLocalName name then some ⟨String.ofList space, String.ofList name⟩ else none
    | (_, []) => none
  | _ => none

def ofQualified (s : String) : Except NameFault QualifiedName :=
  match ofQualified? s with
  | some name => .ok name
  | none => .error (.notQualified s)

def isLabelStart (c : Char) : Bool := c.isAlpha || c == '_'

def isLabelChar (c : Char) : Bool := c.isAlphanum || c == '_' || c == '.' || c == '-'

def splitLabel? (cs : List Char) : Option (List Char × List Char) :=
  match cs.span isLabelChar with
  | (start :: label, ':' :: name) =>
    if isLabelStart start && isLocalName name then some (start :: label, name) else none
  | _ => none

def resolve (table : Namespaces) (s : String) : Except NameFault QualifiedName :=
  let cs := Unicode.trim s.toList
  match cs with
  | [] => .error .empty
  | '{' :: _ => ofQualified (String.ofList cs)
  | _ =>
    match splitLabel? cs with
    | some (label, name) =>
      match table.address? (String.ofList label) with
      | some address => .ok ⟨address, String.ofList name⟩
      | none => .error (.unknownLabel (String.ofList label))
    | none => .ok ⟨(table.address? "").getD "", String.ofList cs⟩

/- The spelling with the first label of the namespace; qualified where it has no label. -/
def labelledText (table : Namespaces) (name : QualifiedName) : String :=
  match table.labels name.space with
  | [] => name.text
  | label :: _ => if label.isEmpty then name.localName else label ++ ":" ++ name.localName

end QualifiedName

end QueryFederation.Schema
