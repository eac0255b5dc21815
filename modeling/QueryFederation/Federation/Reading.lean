import QueryFederation.Federation.Basic

/-! Reading the rows of a federation. A value that names no selector is answered only where all
selectors agree on it; the values of single selectors can always be read. -/
namespace QueryFederation.Federation
open Entity Result Number

variable {ρ α : Type} {n : Nat}

section
variable [ResultSet ρ]

def compareRest [DecidableEq α] (row : Nat) (what : Agreed) (get : Access ρ α) (value : α) :
    List (Column n) → Access (Federation ρ n) Unit
  | [] => pure ()
  | column :: rest => do
    let other ← onResult column.slot get
    if other = value then compareRest row what get value rest
    else Access.fail (.ambiguous row what)

/- The value of a row that all selectors agree on. Selectors that share one result agree. -/
def agreed [DecidableEq α] (row : Nat) (what : Agreed) (get : Access ρ α) :
    Access (Federation ρ n) α := do
  checkRow row
  match ← Access.look columns with
  | [] => Access.fail .emptyFederation
  | first :: rest =>
    let value ← onResult first.slot get
    if ← Access.look fun set => decide (set.shape = some .join) then
      compareRest row what get value rest
    return value

def entityId (row : Nat) : Access (Federation ρ n) EntityId :=
  agreed row .entityId (ResultSet.entityId row)

/- Scores agree if their bits do. -/
def score (row : Nat) : Access (Federation ρ n) Binary32 :=
  agreed row .score (ResultSet.score row)

def primaryParent (row : Nat) : Access (Federation ρ n) (Option ParentLink) := do
  let id ← entityId row
  let lookup ← Access.look lookup
  if ← Access.ofExcept (lookup.contains id) then Access.ofExcept (lookup.primaryParent id)
  else Access.fail (.entityNotFound id.text)

def entityIds : Access (Federation ρ n) (List EntityId) := do
  (List.range (← rowCount)).mapM entityId

def primaryParents : Access (Federation ρ n) (List (Option ParentLink)) := do
  (List.range (← rowCount)).mapM primaryParent

end

structure RowView where
  row : Nat
  deriving DecidableEq, Repr

def row (row : Nat) : Access (Federation ρ n) RowView := do
  Federation.checkRow row
  return ⟨row⟩

namespace RowView

section
variable [ResultSet ρ]

def readOf (get : Access ρ α) (name : String) : Access (Federation ρ n) (Option α) := do
  match ← Access.look fun set => set.column? name with
  | some column => some <$> readThrough get column
  | none => return none

def readAll (get : Access ρ α) : Access (Federation ρ n) (List (String × α)) := do
  (← Access.look columns).mapM fun column => do return (column.name, ← readThrough get column)

def entityIdOf (view : RowView) (name : String) : Access (Federation ρ n) (Option EntityId) :=
  readOf (ResultSet.entityId view.row) name

def scoreOf (view : RowView) (name : String) : Access (Federation ρ n) (Option Binary32) :=
  readOf (ResultSet.score view.row) name

def entityIds (view : RowView) : Access (Federation ρ n) (List (String × EntityId)) :=
  readAll (ResultSet.entityId view.row)

def scores (view : RowView) : Access (Federation ρ n) (List (String × Binary32)) :=
  readAll (ResultSet.score view.row)

def entityId (view : RowView) : Access (Federation ρ n) EntityId := Federation.entityId view.row

def score (view : RowView) : Access (Federation ρ n) Binary32 := Federation.score view.row

end

end RowView

structure Cursor where
  next : Nat
  stop : Nat
  deriving DecidableEq, Repr

def cursor : Access (Federation ρ n) Cursor := do return ⟨0, ← rowCount⟩

namespace Cursor

/- The next row and the cursor after it. On a closed set the traversal fails once and ends. -/
def advance (cursor : Cursor) (set : Federation ρ n) : Option (Except Fault RowView) × Cursor :=
  if cursor.stop ≤ cursor.next then (none, cursor)
  else if set.closed then (some (.error .closed), ⟨cursor.stop, cursor.stop⟩)
  else (some (.ok ⟨cursor.next⟩), ⟨cursor.next + 1, cursor.stop⟩)

def sizeHint (cursor : Cursor) : Nat × Nat := (0, cursor.stop - cursor.next)

def drain (set : Federation ρ n) : Nat → Cursor → Except Fault (List RowView)
  | 0, _ => .ok []
  | steps + 1, cursor =>
    match cursor.advance set with
    | (none, _) => .ok []
    | (some (.error fault), _) => .error fault
    | (some (.ok view), after) => do return view :: (← drain set steps after)

def rest (cursor : Cursor) (set : Federation ρ n) : Except Fault (List RowView) :=
  drain set (cursor.stop - cursor.next) cursor

end Cursor

end QueryFederation.Federation
