import QueryFederation.Index.Truth

/-! The leaves of queries, from left to right: the fields that they read, and the terms that they look
for in a field. -/
namespace QueryFederation.Index.Query

def isJoined : Query → Bool
  | .boolean _ _ => true
  | _ => false

def leaves (query : Query) : List Query := query.parts.filter fun part => !part.isJoined

def termsIn (name : String) : Query → List String
  | .term field text => if field = name then [text] else []
  | .phrase field terms => if field = name then terms else []
  | _ => []

def sought (query : Query) (name : String) : List String := query.leaves.flatMap (termsIn name)

/- The field that a query reads by itself. -/
def field? : Query → Option String
  | .term field _ | .phrase field _ | .wildcard field _ | .range field _ _ | .present field =>
    some field
  | .matchAll | .boolean _ _ => none

/- The fields of the leaves, each of them as often as a leaf reads it. -/
def uses (query : Query) : List String := query.leaves.filterMap field?

theorem clausePartsEq (clauses : List (Occur × Query)) :
    clauseParts clauses = clauses.flatMap fun clause => clause.2.parts := by
  induction clauses with
  | nil => rfl
  | cons clause rest ih =>
    obtain ⟨occur, query⟩ := clause
    rw [clauseParts, ih, List.flatMap_cons]

theorem leavesBoolean (clauses : List (Occur × Query)) (minimum : Nat) :
    (boolean clauses minimum).leaves = clauses.flatMap fun clause => clause.2.leaves := by
  have outer : (boolean clauses minimum).leaves =
      (clauses.flatMap fun clause => clause.2.parts).filter fun part => !part.isJoined := by
    rw [leaves, parts, clausePartsEq]
    rfl
  rw [outer, List.filter_flatMap]
  rfl

theorem usesBoolean (clauses : List (Occur × Query)) (minimum : Nat) :
    (boolean clauses minimum).uses = clauses.flatMap fun clause => clause.2.uses := by
  rw [uses, leavesBoolean, List.filterMap_flatMap]
  rfl

theorem leavesJoined (occur : Occur) (queries : List Query) (minimum : Nat) :
    (boolean (queries.map (occur, ·)) minimum).leaves = queries.flatMap leaves := by
  rw [leavesBoolean, List.flatMap_map]

theorem leavesAnyOf (alternatives : List Query) :
    (anyOf alternatives).leaves = alternatives.flatMap leaves := by
  match alternatives with
  | [query] => simp [anyOf]
  | [] => exact leavesJoined .should [] 1
  | first :: second :: rest => exact leavesJoined .should (first :: second :: rest) 1

theorem leavesAllOf {queries : List Query} (filled : queries ≠ []) :
    (allOf queries).leaves = queries.flatMap leaves := by
  match queries with
  | [] => exact absurd rfl filled
  | [query] => simp [allOf]
  | first :: second :: rest => exact leavesJoined .must (first :: second :: rest) 0

theorem usesAnyOf (alternatives : List Query) :
    (anyOf alternatives).uses = alternatives.flatMap uses := by
  rw [uses, leavesAnyOf, List.filterMap_flatMap]
  rfl

theorem usesAllOf (queries : List Query) : (allOf queries).uses = queries.flatMap uses := by
  match queries with
  | [] => rfl
  | first :: rest =>
    rw [uses, leavesAllOf (List.cons_ne_nil first rest), List.filterMap_flatMap]
    rfl

theorem usesNegate (excluded : Query) : (negate excluded).uses = excluded.uses := by
  rw [negate, usesBoolean]
  simp [uses, leaves, parts, isJoined, field?]

end QueryFederation.Index.Query
