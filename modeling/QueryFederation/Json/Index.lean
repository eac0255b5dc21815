import QueryFederation.Index.CompiledQuery
import QueryFederation.Json.Form

/-! The JSON forms of index queries. -/
namespace QueryFederation.Json
open Index

def occurKey : Occur → String
  | .must => "Must"
  | .should => "Should"
  | .mustNot => "MustNot"

instance : Form Occur := .ofNames occurKey [.must, .should, .mustNot]

instance : Form Bound where
  encode
    | .included term => .tagged "Included" (encode term)
    | .excluded term => .tagged "Excluded" (encode term)
    | .unbounded => .ofString "Unbounded"
  decode := .choice fun
    | "Included" => .map .included decode
    | "Excluded" => .map .excluded decode
    | "Unbounded" => .unit .unbounded
    | _ => .refuse

mutual
def encodeQuery : Query → Tree
  | .matchAll => .ofString "MatchAll"
  | .term field text => .tagged "Term" (.record [("field", encode field), ("text", encode text)])
  | .phrase field terms =>
    .tagged "Phrase" (.record [("field", encode field), ("terms", encode terms)])
  | .wildcard field pattern =>
    .tagged "Wildcard" (.record [("field", encode field), ("pattern", encode pattern)])
  | .range field lower upper =>
    .tagged "Range"
      (.record [("field", encode field), ("lower", encode lower), ("upper", encode upper)])
  | .present field => .tagged "Exists" (.record [("field", encode field)])
  | .boolean clauses minimum =>
    .tagged "Boolean"
      (.record
        [("clauses", .array (encodeClauses clauses)), ("minimum_should_match", encode minimum)])

def encodeClauses : List (Occur × Query) → List Tree
  | [] => []
  | (occur, query) :: rest =>
    .record [("query", encodeQuery query), ("occur", encode occur)] :: encodeClauses rest
end

def decodeQueryStep (child : Decoder Query) : Decoder Query :=
  let clause : Decoder (Occur × Query) := .record ["query", "occur"] fun r => do
    return (← r.field "occur", ← r.fieldWith child "query")
  .choice fun
    | "MatchAll" => .unit .matchAll
    | "Term" => .record ["field", "text"] fun r => do
      return .term (← r.field "field") (← r.field "text")
    | "Phrase" => .record ["field", "terms"] fun r => do
      return .phrase (← r.field "field") (← r.field "terms")
    | "Wildcard" => .record ["field", "pattern"] fun r => do
      return .wildcard (← r.field "field") (← r.field "pattern")
    | "Range" => .record ["field", "lower", "upper"] fun r => do
      return .range (← r.field "field") (← r.field "lower") (← r.field "upper")
    | "Exists" => .record ["field"] fun r => return .present (← r.field "field")
    | "Boolean" => .record ["clauses", "minimum_should_match"] fun r => do
      return .boolean (← r.fieldWith (.list clause) "clauses") (← r.field "minimum_should_match")
    | _ => .refuse

instance : Form Query where
  encode := encodeQuery
  decode := .nested decodeQueryStep

instance : Form Direction := .ofNames Direction.name [.ascending, .descending]

instance : Form SortField where
  encode
    | .score direction => .tagged "Score" (.record [("order", encode direction)])
    | .field name direction =>
      .tagged "Field" (.record [("name", encode name), ("order", encode direction)])
  decode := .choice fun
    | "Score" => .record ["order"] fun r => return .score (← r.field "order")
    | "Field" => .record ["name", "order"] fun r => do
      return .field (← r.field "name") (← r.field "order")
    | _ => .refuse

instance : Form CompiledQuery where
  encode compiled :=
    .record [("query", encode compiled.query), ("sort", encode compiled.sort),
      ("snapshot_generation", encode compiled.generation)]
  decode := .record ["query", "sort", "snapshot_generation"] fun r => do
    return ⟨← r.field "query", ← r.field "sort", ← r.field "snapshot_generation"⟩

end QueryFederation.Json
