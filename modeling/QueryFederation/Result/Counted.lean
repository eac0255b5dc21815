import QueryFederation.Result.ResultSet

/-! Results that count how often they are released, and are otherwise what they were. -/
namespace QueryFederation.Result

structure Counted (ρ : Type) where
  result : ρ
  releases : Nat := 0
  deriving DecidableEq, Repr

namespace Counted

variable {ρ α : Type}

def fresh (result : ρ) : Counted ρ := ⟨result, 0⟩

def onResult (access : Access ρ α) : Access (Counted ρ) α := fun counted =>
  let (answer, after) := access counted.result
  (answer, { counted with result := after })

/- A release counts whether it fails or not. -/
instance [ResultSet ρ] : ResultSet (Counted ρ) where
  rowCount := onResult ResultSet.rowCount
  hasMore := onResult ResultSet.hasMore
  entityId row := onResult (ResultSet.entityId row)
  score row := onResult (ResultSet.score row)
  release := fun counted =>
    let (answer, after) := ResultSet.release counted.result
    (answer, ⟨after, counted.releases + 1⟩)
  isReleased counted := ResultSet.isReleased counted.result

end Counted

end QueryFederation.Result
