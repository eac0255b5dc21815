import QueryFederation.Index.CompiledQuery
import QueryFederation.Result.ResultSet

/-! Executors run compiled queries against an index. -/
namespace QueryFederation.Engine
open Index Result

/-- Runs a query, leaves out the first `skip` matches and keeps at most `max` of the others. -/
class Executor (ε : Type) (ρ : outParam Type) where
  execute (query : CompiledQuery) (skip max : Nat) : Access ε ρ

/- Counts are words; a sum that is too great for one becomes the greatest of them. -/
def addCounts (one other : Nat) : Nat := min (one + other) (UInt64.size - 1)

/-- Answers from a fixed table; for equal queries the first entry counts. Queries without an
entry have no matches. -/
structure TableExecutor where
  hits : List (Query × List Row) := []
  failures : List (Query × String) := []
  executions : Nat := 0
  deriving Repr

namespace TableExecutor

def addHits (executor : TableExecutor) (query : Query) (rows : List Row) : TableExecutor :=
  { executor with hits := (query, rows) :: executor.hits }

def addFailure (executor : TableExecutor) (query : Query) (message : String) : TableExecutor :=
  { executor with failures := (query, message) :: executor.failures }

def page (rows : List Row) (skip max : Nat) : Hits :=
  let start := min skip rows.length
  let stop := min (addCounts start max) rows.length
  Hits.ofRows ((rows.drop start).take (stop - start)) (decide (stop < rows.length))

def answer (executor : TableExecutor) (compiled : CompiledQuery) (skip max : Nat) :
    Except Fault Hits :=
  match executor.failures.lookup compiled.query with
  | some message => .error (.searchFailed compiled.render message)
  | none => .ok (page ((executor.hits.lookup compiled.query).getD []) skip max)

instance : Executor TableExecutor Hits where
  execute query skip max := fun executor =>
    (executor.answer query skip max, { executor with executions := executor.executions + 1 })

end TableExecutor

structure Call where
  query : CompiledQuery
  skip : Nat
  max : Nat
  deriving DecidableEq, Repr

structure Recorder (ε : Type) where
  executor : ε
  calls : List Call := []

instance {ε ρ : Type} [Executor ε ρ] : Executor (Recorder ε) ρ where
  execute query skip max := fun recorder =>
    let (answer, executor) := Executor.execute query skip max recorder.executor
    (answer, ⟨executor, ⟨query, skip, max⟩ :: recorder.calls⟩)

end QueryFederation.Engine
