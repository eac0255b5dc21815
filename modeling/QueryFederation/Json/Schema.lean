import QueryFederation.Json.Form
import QueryFederation.Schema.DataType
import QueryFederation.Schema.QualifiedName

/-! The JSON forms of names and data types. -/
namespace QueryFederation.Json
open Schema

instance : Form QualifiedName where
  encode name :=
    .record [("namespace", encode name.space), ("local_name", encode name.localName)]
  decode := .record ["namespace", "local_name"] fun r => do
    return ⟨← r.field "namespace", ← r.field "local_name"⟩

def dataTypeKey : DataType → String
  | .mlText => "ml_text"
  | .dateTime => "date_time"
  | type => type.name

def dataTypes : List DataType :=
  [.text, .mlText, .content, .id, .boolean, .int, .long, .float, .double, .date, .dateTime]

instance : Form DataType := .ofNames dataTypeKey dataTypes

end QueryFederation.Json
