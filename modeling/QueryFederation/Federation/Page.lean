import QueryFederation.Federation.Reading

/-! A whole federation as a page of rows. Where the selectors disagree on a value of a row, the
row carries only the values of the single selectors. -/
namespace QueryFederation.Federation
open Entity Result Number

structure SelectorValue where
  selector : String
  entity : EntityId
  score : Binary32
  deriving DecidableEq, Repr

structure PageRow where
  row : Nat
  entity : Option EntityId
  score : Option Binary32
  selectors : List SelectorValue
  deriving DecidableEq, Repr

structure Page where
  start : Nat
  count : Nat
  more : Bool
  rows : List PageRow
  deriving DecidableEq, Repr

variable {ρ α : Type} {n : Nat}

/- Disagreement is no fault here. -/
def unlessAmbiguous (access : Access (Federation ρ n) α) : Access (Federation ρ n) (Option α) := do
  match ← access.attempt with
  | .ok value => return some value
  | .error (.ambiguous _ _) => return none
  | .error fault => Access.fail fault

def selectorValues (ids : List (String × EntityId)) (scores : List (String × Binary32)) :
    List SelectorValue :=
  (ids.zip scores).map fun (id, score) => ⟨id.1, id.2, score.2⟩

variable [ResultSet ρ]

def pageRow (row : Nat) : Access (Federation ρ n) PageRow := do
  let view : RowView := ⟨row⟩
  let ids ← view.entityIds
  let scores ← view.scores
  let entity ← unlessAmbiguous view.entityId
  let score ← unlessAmbiguous view.score
  return ⟨row, entity, score, selectorValues ids scores⟩

def page : Access (Federation ρ n) Page := do
  let rows ← (List.range (← rowCount)).mapM pageRow
  let more ← hasMore
  return ⟨← Access.look start, rows.length, more, rows⟩

end QueryFederation.Federation
