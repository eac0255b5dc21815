import QueryFederation.Fault
import QueryFederation.Json.Form
import QueryFederation.Json.Reader
import QueryFederation.Json.Writer

/-! Values as JSON texts. -/
namespace QueryFederation.Json

def readWith {α : Type} (decoder : Decoder α) (s : String) : Except Fault α :=
  match Tree.read? s with
  | none => .error (.json "malformed text")
  | some tree =>
    match decoder deepest tree with
    | some value => .ok value
    | none => .error (.json "unexpected value")

def read {α : Type} [Form α] (s : String) : Except Fault α := readWith decode s

def write {α : Type} [Form α] (value : α) : String := (encode value).write

end QueryFederation.Json
