import QueryFederation.Index.Query

/-! The text of an index query, for logs and messages. -/
namespace QueryFederation.Index

def needsQuotes (c : Char) : Bool :=
  Unicode.isBlank c || c == '"' || c == '(' || c == ')' || c == ':'

/- A term with blanks or reserved characters is quoted. -/
def renderTerm (s : String) : String :=
  if s.toList.any needsQuotes then
    "\"" ++ String.ofList (s.toList.flatMap fun c => if c = '"' then ['\\', '"'] else [c]) ++ "\""
  else s

def renderLower : Bound → String
  | .included term => "[" ++ term
  | .excluded term => "\x7b" ++ term
  | .unbounded => "[*"

def renderUpper : Bound → String
  | .included term => term ++ "]"
  | .excluded term => term ++ "\x7d"
  | .unbounded => "*]"

def Occur.sign : Occur → String
  | .must => "+"
  | .should => ""
  | .mustNot => "-"

mutual
def Query.render : Query → String
  | .matchAll => "*:*"
  | .term field text => field ++ ":" ++ renderTerm text
  | .phrase field terms => field ++ ":\"" ++ " ".intercalate terms ++ "\""
  | .wildcard field pattern => field ++ ":" ++ pattern
  | .range field lower upper => field ++ ":" ++ renderLower lower ++ " TO " ++ renderUpper upper
  | .present field => "EXISTS:" ++ field
  | .boolean clauses _ => "(" ++ " ".intercalate (renderClauses clauses) ++ ")"

def renderClauses : List (Occur × Query) → List String
  | [] => []
  | (occur, query) :: rest => (occur.sign ++ query.render) :: renderClauses rest
end

end QueryFederation.Index
