import QueryFederation.Federation.Session
import QueryFederation.Order.Places

/-! A federation with a map from its selectors to the positions of their columns. The map is made
with the federation and never changes; only the reads for a single selector go by it. -/
namespace QueryFederation.Federation
open Entity Result

structure Positioned (ρ : Type) (n : Nat) where
  set : Federation ρ n
  positions : AList fun _ : String => Nat

namespace Positioned

variable {ρ α : Type} {n : Nat}

def columnAt? (positions : AList fun _ : String => Nat) (name : String) (set : Federation ρ n) :
    Option (Column n) := do
  let position ← positions.lookup name
  set.columns[position]?

def column? (positioned : Positioned ρ n) (name : String) : Option (Column n) :=
  columnAt? positioned.positions name positioned.set

variable [ResultSet ρ]

def join (columns : List (Column n)) (options : Options) (lookup : Lookup) :
    Access (Vector ρ n) (Positioned ρ n) := do
  match Order.places (columns.map Column.name) with
  | .error name => Access.fail (.duplicateSelector name)
  | .ok positions =>
    let rows ← alignedCount columns
    Access.look fun results => ⟨⟨columns, rows, options, lookup, results, false⟩, positions⟩

def readAt (positions : AList fun _ : String => Nat) (get : Access ρ α) (name : String) :
    Access (Federation ρ n) (Option α) := do
  match ← Access.look (columnAt? positions name) with
  | some column => some <$> readThrough get column
  | none => return none

def perform (positions : AList fun _ : String => Nat) :
    (operation : Operation) → Access (Session ρ n) operation.Answer
  | .viewEntityIdOf view selector =>
    Session.onSet (readAt positions (ResultSet.entityId view.row) selector)
  | .viewScoreOf view selector =>
    Session.onSet (readAt positions (ResultSet.score view.row) selector)
  | operation => Session.perform operation

def runFrom (positions : AList fun _ : String => Nat) :
    List Operation → Session ρ n → List Event × Session ρ n
  | [], session => ([], session)
  | operation :: rest, session =>
    let (answer, after) := perform positions operation session
    let (events, last) := runFrom positions rest after
    (⟨operation, answer⟩ :: events, last)

def run (positioned : Positioned ρ n) (operations : List Operation) : List Event × Session ρ n :=
  runFrom positioned.positions operations (Session.start positioned.set)

end Positioned

end QueryFederation.Federation
