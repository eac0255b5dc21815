import QueryFederation.Order.Distinct
import QueryFederation.Order.Repeat
import QueryFederation.Result.ResultSet

/-! Results of several selectors, joined row by row. A column gives a selector the result in one
of the slots; several selectors may share a result. -/
namespace QueryFederation
open Entity Result

namespace Federation

structure Options where
  statement : String := ""
  skip : Nat := 0
  maxItems : Nat := 100
  deriving DecidableEq, Repr

structure Column (n : Nat) where
  name : String
  slot : Fin n
  deriving DecidableEq, Repr

/-- How the selectors relate to their results. -/
inductive Shape where
  | single
  | shared
  | join
  deriving DecidableEq, Repr

def Shape.of {n : Nat} : List (Column n) → Option Shape
  | [] => none
  | [_] => some .single
  | first :: rest =>
    if rest.all fun column => column.slot = first.slot then some .shared else some .join

structure Metadata where
  selectors : List String
  shape : Option Shape
  options : Options
  deriving DecidableEq, Repr

end Federation

structure Federation (ρ : Type) (n : Nat) where
  columns : List (Federation.Column n)
  rows : Nat
  options : Federation.Options
  lookup : Lookup
  results : Vector ρ n
  closed : Bool := false

namespace Federation

variable {ρ α : Type} {n : Nat}

def onSlot (slot : Fin n) (access : Access ρ α) : Access (Vector ρ n) α := fun results =>
  let (answer, after) := access (results.get slot)
  (answer, results.set slot.val after slot.isLt)

section
variable [ResultSet ρ]

def checkCounts (expected : Nat) : List (Column n) → Access (Vector ρ n) Unit
  | [] => pure ()
  | column :: rest => do
    let actual ← onSlot column.slot ResultSet.rowCount
    if actual = expected then checkCounts expected rest
    else Access.fail (.rowCountMismatch column.name expected actual)

def alignedCount : List (Column n) → Access (Vector ρ n) Nat
  | [] => pure 0
  | first :: rest => do
    let count ← onSlot first.slot ResultSet.rowCount
    checkCounts count rest
    return count

def join (columns : List (Column n)) (options : Options) (lookup : Lookup) :
    Access (Vector ρ n) (Federation ρ n) := do
  match Order.firstRepeat? (columns.map Column.name) with
  | some name => Access.fail (.duplicateSelector name)
  | none =>
    let rows ← alignedCount columns
    Access.look fun results => ⟨columns, rows, options, lookup, results, false⟩

end

def map {τ : Type} (f : ρ → τ) (set : Federation ρ n) : Federation τ n :=
  ⟨set.columns, set.rows, set.options, set.lookup, set.results.map f, set.closed⟩

def selectors (set : Federation ρ n) : List String := set.columns.map Column.name

def shape (set : Federation ρ n) : Option Shape := Shape.of set.columns

def start (set : Federation ρ n) : Nat := set.options.skip

def maxItems (set : Federation ρ n) : Nat := set.options.maxItems

def metadata (set : Federation ρ n) : Metadata := ⟨set.selectors, set.shape, set.options⟩

def column? (set : Federation ρ n) (name : String) : Option (Column n) :=
  set.columns.find? fun column => column.name = name

def onResult (slot : Fin n) (access : Access ρ α) : Access (Federation ρ n) α := fun set =>
  let (answer, results) := onSlot slot access set.results
  (answer, { set with results := results })

def ensureOpen : Access (Federation ρ n) Unit := do
  if ← Access.look closed then Access.fail .closed else pure ()

def rowCount : Access (Federation ρ n) Nat := do
  ensureOpen
  if ← Access.look fun set => set.columns.isEmpty then Access.fail .emptyFederation
  else Access.look rows

def isEmpty : Access (Federation ρ n) Bool := do return (← rowCount) == 0

def checkRow (row : Nat) : Access (Federation ρ n) Unit := do
  let count ← rowCount
  if row < count then pure () else Access.fail (.rowOutOfRange row count)

section
variable [ResultSet ρ]

def anyMore : List (Column n) → Access (Federation ρ n) Bool
  | [] => pure false
  | column :: rest => do
    if ← onResult column.slot ResultSet.hasMore then pure true else anyMore rest

def hasMore : Access (Federation ρ n) Bool := do
  ensureOpen
  anyMore (← Access.look columns)

/- Releases the results of the slots, each of them in any case; the first fault is answered. -/
def releaseAll : List (Fin n) → Access (Federation ρ n) Unit
  | [] => pure ()
  | slot :: rest => do
    let first ← (onResult slot ResultSet.release).attempt
    let others ← (releaseAll rest).attempt
    match first with
    | .error fault => Access.fail fault
    | .ok () => Access.ofExcept others

def slots (set : Federation ρ n) : List (Fin n) := Order.distinct (set.columns.map Column.slot)

def markClosed : Access (Federation ρ n) Unit := fun set => (.ok (), { set with closed := true })

def close : Access (Federation ρ n) Unit := do
  if ← Access.look closed then pure ()
  else
    markClosed
    releaseAll (← Access.look slots)

def readThrough (access : Access ρ α) (column : Column n) : Access (Federation ρ n) α := do
  ensureOpen
  onResult column.slot access

end

end Federation

end QueryFederation
