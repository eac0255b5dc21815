import QueryFederation.Index.Query

/-! When a query holds. The queries other than Boolean ones are given their truth from outside; a
Boolean query holds by its clauses. -/
namespace QueryFederation.Index

namespace Query

mutual
def holds (leaf : Query → Bool) : Query → Bool
  | .matchAll => true
  | .boolean clauses minimum =>
    demandsHold leaf clauses && decide (minimum ≤ optionsHolding leaf clauses)
  | query => leaf query

def demandsHold (leaf : Query → Bool) : List (Occur × Query) → Bool
  | [] => true
  | (.must, query) :: rest => query.holds leaf && demandsHold leaf rest
  | (.mustNot, query) :: rest => !query.holds leaf && demandsHold leaf rest
  | (.should, _) :: rest => demandsHold leaf rest

def optionsHolding (leaf : Query → Bool) : List (Occur × Query) → Nat
  | [] => 0
  | (.should, query) :: rest =>
    (if query.holds leaf then 1 else 0) + optionsHolding leaf rest
  | (_, _) :: rest => optionsHolding leaf rest
end

theorem demandsHoldMust (leaf : Query → Bool) (queries : List Query) :
    demandsHold leaf (queries.map (.must, ·)) = queries.all (holds leaf) := by
  induction queries with
  | nil => rfl
  | cons query rest ih => simp [demandsHold, ih]

theorem demandsHoldShould (leaf : Query → Bool) (queries : List Query) :
    demandsHold leaf (queries.map (.should, ·)) = true := by
  induction queries with
  | nil => rfl
  | cons query rest ih => simpa [demandsHold] using ih

theorem optionsHoldingShould (leaf : Query → Bool) (queries : List Query) :
    optionsHolding leaf (queries.map (.should, ·)) = queries.countP (holds leaf) := by
  induction queries with
  | nil => rfl
  | cons query rest ih =>
    simp only [List.map_cons, optionsHolding, ih, List.countP_cons]
    exact Nat.add_comm _ _

theorem holdsAllOf (leaf : Query → Bool) (queries : List Query) :
    (allOf queries).holds leaf = queries.all (holds leaf) := by
  match queries with
  | [] => rfl
  | [query] => simp [allOf]
  | first :: second :: rest =>
    have all := demandsHoldMust leaf (first :: second :: rest)
    simp only [allOf, holds, all]
    simp

theorem holdsAnyOf (leaf : Query → Bool) (alternatives : List Query) :
    (anyOf alternatives).holds leaf = alternatives.any (holds leaf) := by
  match alternatives with
  | [query] => simp [anyOf]
  | [] => simp [anyOf, holds, demandsHold, optionsHolding]
  | first :: second :: rest =>
    have demands := demandsHoldShould leaf (first :: second :: rest)
    have options := optionsHoldingShould leaf (first :: second :: rest)
    simp only [anyOf, holds, demands, options, Bool.true_and]
    rw [Bool.eq_iff_iff, decide_eq_true_iff, Nat.succ_le_iff, List.countP_pos_iff,
      List.any_eq_true]

theorem holdsNegate (leaf : Query → Bool) (excluded : Query) :
    (negate excluded).holds leaf = !excluded.holds leaf := by
  simp [negate, holds, demandsHold]

mutual
def parts : Query → List Query
  | .boolean clauses minimum => .boolean clauses minimum :: clauseParts clauses
  | query => [query]

def clauseParts : List (Occur × Query) → List Query
  | [] => []
  | (_, query) :: rest => query.parts ++ clauseParts rest
end

end Query

def Bound.admitsFrom (term : String) : Bound → Bool
  | .included least => least ≤ term
  | .excluded least => least < term
  | .unbounded => true

def Bound.admitsTo (term : String) : Bound → Bool
  | .included greatest => term ≤ greatest
  | .excluded greatest => term < greatest
  | .unbounded => true

def inRange (lower upper : Bound) (term : String) : Bool :=
  lower.admitsFrom term && upper.admitsTo term

end QueryFederation.Index
