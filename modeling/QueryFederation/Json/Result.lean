import QueryFederation.Federation.Page
import QueryFederation.Json.Schema
import QueryFederation.Text.Token

/-! The JSON forms of tokens, entities, rows and pages. -/
namespace QueryFederation.Json
open Entity Result Federation

instance : Form Text.Token where
  encode token :=
    .record [("text", encode token.text), ("position", encode token.position),
      ("start_offset", encode token.start), ("end_offset", encode token.stop)]
  decode := .record ["text", "position", "start_offset", "end_offset"] fun r => do
    return ⟨← r.field "text", ← r.field "position", ← r.field "start_offset",
      ← r.field "end_offset"⟩

instance : Form EntityId where
  encode id := encode id.text
  decode := .map .mk decode

instance : Form ParentLink where
  encode link :=
    .record [("parent", encode link.parent), ("child", encode link.child),
      ("assoc_type", encode link.type), ("name", encode link.name),
      ("primary", encode link.primary)]
  decode := .record ["parent", "child", "assoc_type", "name", "primary"] fun r => do
    return ⟨← r.field "parent", ← r.field "child", ← r.field "assoc_type", ← r.field "name",
      ← r.field "primary"⟩

instance : Form Row where
  encode row := .record [("entity_id", encode row.entity), ("score", encode row.score)]
  decode := .record ["entity_id", "score"] fun r => do
    return ⟨← r.field "entity_id", ← r.field "score"⟩

instance : Form Options where
  encode options :=
    .record [("statement", encode options.statement), ("skip_count", encode options.skip),
      ("max_items", encode options.maxItems)]
  decode := .record ["statement", "skip_count", "max_items"] fun r => do
    return ⟨← r.field "statement", ← r.field "skip_count", ← r.field "max_items"⟩

def shapeKey : Shape → String
  | .single => "single"
  | .shared => "shared_result"
  | .join => "join"

instance : Form Shape := .ofNames shapeKey [.single, .shared, .join]

instance : Form Metadata where
  encode metadata :=
    .record [("selectors", encode metadata.selectors), ("shape", encode metadata.shape),
      ("options", encode metadata.options)]
  decode := .record ["selectors", "shape", "options"] fun r => do
    return ⟨← r.field "selectors", ← r.fieldOr "shape" none, ← r.field "options"⟩

instance : Form SelectorValue where
  encode value :=
    .record [("selector", encode value.selector), ("entity_id", encode value.entity),
      ("score", encode value.score)]
  decode := .record ["selector", "entity_id", "score"] fun r => do
    return ⟨← r.field "selector", ← r.field "entity_id", ← r.field "score"⟩

def fieldIfAny {α : Type} [Form α] (name : String) : Option α → List (String × Tree)
  | some value => [(name, encode value)]
  | none => []

instance : Form PageRow where
  encode row :=
    .record <|
      ("index", encode row.row) :: fieldIfAny "entity_id" row.entity ++
        fieldIfAny "score" row.score ++ [("selectors", encode row.selectors)]
  decode := .record ["index", "entity_id", "score", "selectors"] fun r => do
    return ⟨← r.field "index", ← r.fieldOr "entity_id" none, ← r.fieldOr "score" none,
      ← r.field "selectors"⟩

instance : Form Page where
  encode page :=
    .record [("start", encode page.start), ("num_items", encode page.count),
      ("has_more_items", encode page.more), ("rows", encode page.rows)]
  decode := .record ["start", "num_items", "has_more_items", "rows"] fun r => do
    return ⟨← r.field "start", ← r.field "num_items", ← r.field "has_more_items",
      ← r.field "rows"⟩

end QueryFederation.Json
