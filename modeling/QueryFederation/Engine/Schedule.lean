import QueryFederation.Engine.Executor

/-! The order in which the queries of a request are executed. Whatever it is, the answers come
back in the order of the queries. -/
namespace QueryFederation.Engine
open Index

/-- For any number of queries, an order in which each of them has its turn. -/
structure Schedule where
  order : Nat → List Nat
  complete : ∀ count, (order count).Perm (List.range count)

def Schedule.inTurn : Schedule := ⟨List.range, fun _ => .refl _⟩

variable {ε ρ : Type}

/- Executes all of the queries, also when some of them fail. -/
def executeAll [Executor ε ρ] (skip max : Nat) :
    List CompiledQuery → ε → List (Except Fault ρ) × ε
  | [], executor => ([], executor)
  | query :: rest, executor =>
    let (answer, executor) := Executor.execute query skip max executor
    let (answers, executor) := executeAll skip max rest executor
    (answer :: answers, executor)

def executeScheduled [Executor ε ρ] (schedule : Schedule) (skip max : Nat)
    (queries : List CompiledQuery) (executor : ε) : List (Except Fault ρ) × ε :=
  let order := schedule.order queries.length
  let (answers, executor) := executeAll skip max (order.filterMap (queries[·]?)) executor
  ((List.range queries.length).filterMap fun place => answers[order.idxOf place]?, executor)

end QueryFederation.Engine
