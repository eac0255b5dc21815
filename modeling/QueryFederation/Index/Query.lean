import QueryFederation.Unicode.Blank

/-! Queries in the terms of the index. A Boolean query matches where all its required clauses
match, none of its excluded clauses does, and at least a given number of its optional ones. -/
namespace QueryFederation.Index

inductive Occur where
  | must
  | should
  | mustNot
  deriving DecidableEq, Repr

inductive Bound where
  | included (term : String)
  | excluded (term : String)
  | unbounded
  deriving DecidableEq, Repr

inductive Query where
  | matchAll
  | term (field text : String)
  | phrase (field : String) (terms : List String)
  | wildcard (field pattern : String)
  | range (field : String) (lower upper : Bound)
  | present (field : String)
  | boolean (clauses : List (Occur × Query)) (minimum : Nat)
  deriving Repr

namespace Query

mutual
def same : Query → Query → Bool
  | .matchAll, .matchAll => true
  | .term field text, .term field' text' => field = field' && text = text'
  | .phrase field terms, .phrase field' terms' => field = field' && terms = terms'
  | .wildcard field pattern, .wildcard field' pattern' => field = field' && pattern = pattern'
  | .range field lower upper, .range field' lower' upper' =>
    field = field' && lower = lower' && upper = upper'
  | .present field, .present field' => decide (field = field')
  | .boolean clauses minimum, .boolean clauses' minimum' =>
    sameClauses clauses clauses' && minimum = minimum'
  | _, _ => false

def sameClauses : List (Occur × Query) → List (Occur × Query) → Bool
  | [], [] => true
  | (occur, query) :: rest, (occur', query') :: rest' =>
    occur = occur' && same query query' && sameClauses rest rest'
  | _, _ => false
end

mutual
theorem sameIff (a b : Query) : same a b = true ↔ a = b := by
  cases a with
  | boolean clauses minimum =>
    cases b <;> simp [same, sameClausesIff clauses]
  | _ => cases b <;> simp [same, and_assoc]

theorem sameClausesIff (a b : List (Occur × Query)) : sameClauses a b = true ↔ a = b := by
  match a, b with
  | [], [] => simp [sameClauses]
  | [], _ :: _ => simp [sameClauses]
  | _ :: _, [] => simp [sameClauses]
  | (occur, query) :: rest, (occur', query') :: rest' =>
    simp [sameClauses, sameIff query query', sameClausesIff rest rest']
end

instance : DecidableEq Query := fun a b => decidable_of_iff _ (sameIff a b)

def anyOf : List Query → Query
  | [query] => query
  | alternatives => .boolean (alternatives.map (.should, ·)) 1

def allOf : List Query → Query
  | [] => .matchAll
  | [query] => query
  | queries => .boolean (queries.map (.must, ·)) 0

def negate (excluded : Query) : Query := .boolean [(.must, .matchAll), (.mustNot, excluded)] 0

def addField (found : List String) (field : String) : List String :=
  if field ∈ found then found else found ++ [field]

mutual
/- Adds the fields that are not yet found, from left to right. -/
def gatherFields (found : List String) : Query → List String
  | .matchAll => found
  | .term field _ | .phrase field _ | .wildcard field _ | .range field _ _ | .present field =>
    addField found field
  | .boolean clauses _ => gatherClauseFields found clauses

def gatherClauseFields (found : List String) : List (Occur × Query) → List String
  | [] => found
  | (_, query) :: rest => gatherClauseFields (gatherFields found query) rest
end

def fields (query : Query) : List String := gatherFields [] query

end Query

end QueryFederation.Index
