import QueryFederation.Result.ResultSet

/-! Results that fail where they are told to, and that count how often they are released. -/
namespace QueryFederation.Result
open Entity Number

structure FaultPlan where
  rowCount : Option Fault := none
  release : Option Fault := none
  score : Option Fault := none
  scoresBefore : Nat := 0
  deriving DecidableEq, Repr

structure Faulty where
  hits : Hits
  plan : FaultPlan := {}
  releases : Nat := 0
  scoreReads : Nat := 0
  deriving DecidableEq, Repr

namespace Faulty

def onHits {α : Type} (access : Access Hits α) : Access Faulty α := fun faulty =>
  let (answer, hits) := access faulty.hits
  (answer, { faulty with hits := hits })

def failing {α : Type} : Option Fault → Access Faulty α → Access Faulty α
  | some fault, _ => Access.fail fault
  | none, access => access

def nextScoreFault (faulty : Faulty) : Option Fault :=
  if faulty.plan.scoresBefore ≤ faulty.scoreReads then faulty.plan.score else none

def countScore : Access Faulty Unit := fun faulty =>
  (.ok (), { faulty with scoreReads := faulty.scoreReads + 1 })

def countRelease : Access Faulty Unit := fun faulty =>
  (.ok (), { faulty with releases := faulty.releases + 1 })

instance : ResultSet Faulty where
  rowCount := do
    let fault ← Access.look fun faulty => faulty.plan.rowCount
    failing fault (onHits ResultSet.rowCount)
  hasMore := onHits ResultSet.hasMore
  entityId row := onHits (ResultSet.entityId row)
  score row := do
    let fault ← Access.look nextScoreFault
    countScore
    failing fault (onHits (ResultSet.score row))
  release := do
    countRelease
    onHits ResultSet.release
    let fault ← Access.look fun faulty => faulty.plan.release
    failing fault (pure ())
  isReleased faulty := ResultSet.isReleased faulty.hits

end Faulty

end QueryFederation.Result
