import QueryFederation.Access
import QueryFederation.Entity.Lookup
import QueryFederation.Number.Binary

/-! The rows that one search found, addressed from zero. Once they are released, every read of
them fails. -/
namespace QueryFederation.Result
open Entity Number

structure Row where
  entity : EntityId
  score : Binary32
  deriving DecidableEq, Repr

class ResultSet (ρ : Type) where
  rowCount : Access ρ Nat
  hasMore : Access ρ Bool
  entityId (row : Nat) : Access ρ EntityId
  score (row : Nat) : Access ρ Binary32
  release : Access ρ Unit
  isReleased : ρ → Bool

def ResultSet.isEmpty {ρ : Type} [ResultSet ρ] : Access ρ Bool := do
  return (← ResultSet.rowCount) == 0

structure Hits where
  rows : Option (List Row)
  more : Bool
  deriving DecidableEq, Repr

namespace Hits

def ofRows (rows : List Row) (more : Bool) : Hits := ⟨some rows, more⟩

def held (hits : Hits) : Except Fault (List Row) :=
  match hits.rows with
  | some rows => .ok rows
  | none => .error .closed

def row (hits : Hits) (index : Nat) : Except Fault Row := do
  let rows ← hits.held
  match rows[index]? with
  | some row => .ok row
  | none => .error (.rowOutOfRange index rows.length)

def read {α : Type} (view : Hits → Except Fault α) : Access Hits α := fun hits =>
  (view hits, hits)

instance : ResultSet Hits where
  rowCount := read fun hits => do return (← hits.held).length
  hasMore := read fun hits => do
    let _ ← hits.held
    return hits.more
  entityId index := read fun hits => do return (← hits.row index).entity
  score index := read fun hits => do return (← hits.row index).score
  release := fun hits => (.ok (), { hits with rows := none })
  isReleased hits := hits.rows.isNone

end Hits

end QueryFederation.Result
