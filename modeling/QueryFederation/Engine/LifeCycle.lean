import QueryFederation.Engine.Run
import QueryFederation.Result.Counted

/-! How a run may end, and what it has executed and released by then. Executors are watched: they
keep their calls with the answers, and their results count how often they are released. -/
namespace QueryFederation.Engine
open Index Compile Result Federation

/- What becomes of an executor, whatever it is asked. -/
inductive Reached {ε ρ : Type} [Executor ε ρ] (executor : ε) : ε → Prop where
  | start : Reached executor executor
  | execute {before : ε} (query : CompiledQuery) (skip max : Nat)
      (reached : Reached executor before) :
      Reached executor (Executor.execute query skip max before).2

def HandsOutOpen {ε : Type} [Executor ε Hits] (executor : ε) : Prop :=
  ∀ later, Reached executor later → ∀ query skip max hits,
    (Executor.execute query skip max later).1 = .ok hits → hits.rows ≠ none

/- A record of the calls and their answers, the latest first. -/
abbrev Journal (ρ : Type) := List (Call × Except Fault ρ)

def Journal.successes {ρ : Type} (journal : Journal ρ) : List ρ :=
  journal.filterMap fun (_, answer) => answer.toOption

structure Watched (ε ρ : Type) where
  executor : ε
  journal : Journal ρ := []

instance {ε ρ : Type} [Executor ε ρ] : Executor (Watched ε ρ) (Counted ρ) where
  execute query skip max := fun watched =>
    let (answer, executor) := Executor.execute query skip max watched.executor
    (answer.map Counted.fresh, ⟨executor, (⟨query, skip, max⟩, answer) :: watched.journal⟩)

inductive Compiles (context : Context) : List Selector → Plan → Prop where
  | nil : Compiles context [] []
  | cons {selector rest compiled plan}
      (one : context.compile selector.scoped selector.sort = .ok compiled)
      (others : Compiles context rest plan) :
      Compiles context (selector :: rest) ((selector.name, compiled) :: plan)

structure Planned (context : Context) (query : FederatedQuery) (plan : Plan) : Prop where
  some : query.selectors ≠ []
  names : (query.selectors.map Selector.name).Nodup
  compiled : Compiles context query.selectors plan

def pageOf (engine : Engine) (query : FederatedQuery) (compiled : CompiledQuery) : Call :=
  ⟨compiled, query.skip, query.maxItems.getD engine.config.maxItems.toNat⟩

/- Every query of the plan was executed once, and got its answer. -/
structure Executed (engine : Engine) (query : FederatedQuery) (plan : Plan)
    (answers : CompiledQuery → Except Fault Hits) (journal : Journal Hits) : Prop where
  once : (journal.map Prod.fst).Nodup
  all : ∀ call answer, (call, answer) ∈ journal ↔
    ∃ compiled ∈ plan.map Prod.snd, call = pageOf engine query compiled ∧ answer = answers compiled

def Finds (answer : Except Fault Hits) (count : Nat) : Prop :=
  ∃ rows more, answer = .ok (Hits.ofRows rows more) ∧ rows.length = count

def discarded (hits : Hits) : Counted Hits := ⟨{ hits with rows := none }, 1⟩

inductive Ended (engine : Engine) (context : Context) (query : FederatedQuery) :
    Outcome (Counted Hits) → Journal Hits → Prop where
  | noSelectors (none : query.selectors = []) :
      Ended engine context query (.failed (.invalidArgument "query has no selectors") []) []
  | repeatedName {before name rest}
      (split : query.selectors.map Selector.name = before ++ name :: rest)
      (unique : before.Nodup) (repeated : name ∈ before) :
      Ended engine context query (.failed (.duplicateSelector name) []) []
  | uncompiled {before selector rest plan rejection}
      (names : (query.selectors.map Selector.name).Nodup)
      (split : query.selectors = before ++ selector :: rest)
      (compiled : Compiles context before plan)
      (rejected : context.compile selector.scoped selector.sort = .error rejection) :
      Ended engine context query (.failed rejection.toFault []) []
  | failing {plan before name compiled rest answers fault journal released}
      (planned : Planned context query plan)
      (executed : Executed engine query plan answers journal)
      (split : plan = before ++ (name, compiled) :: rest)
      (found : ∀ entry ∈ before, ∃ count, Finds (answers entry.2) count)
      (failed : answers compiled = .error fault)
      (releases : released.Perm (journal.successes.map discarded)) :
      Ended engine context query (.failed fault released) journal
  | misaligned {plan before name compiled rest answers expected actual journal released}
      (planned : Planned context query plan)
      (executed : Executed engine query plan answers journal)
      (found : ∀ entry ∈ plan, ∃ count, Finds (answers entry.2) count)
      (split : plan = before ++ (name, compiled) :: rest) (more : before ≠ [])
      (aligned : ∀ entry ∈ before, Finds (answers entry.2) expected)
      (counted : Finds (answers compiled) actual) (different : actual ≠ expected)
      (releases : released.Perm (journal.successes.map discarded)) :
      Ended engine context query (.failed (.rowCountMismatch name expected actual) released) journal
  | federated {plan answers journal n} {set : Federation (Counted Hits) n}
      (planned : Planned context query plan)
      (executed : Executed engine query plan answers journal)
      (aligned : ∀ entry ∈ plan, Finds (answers entry.2) set.rows)
      /- Each selector reads the result of its own query, which nothing has released. -/
      (columns : set.columns.map (fun column => (column.name, .ok (set.results.get column.slot))) =
        plan.map fun (name, compiled) => (name, (answers compiled).map Counted.fresh))
      (shared : ∀ one ∈ set.columns.zip plan, ∀ other ∈ set.columns.zip plan,
        one.1.slot = other.1.slot ↔ one.2.2 = other.2.2)
      (used : ∀ slot, slot ∈ set.columns.map Column.slot)
      (kept : set.results.toList.Perm (journal.successes.map Counted.fresh))
      (options : set.options =
        ⟨query.statement, query.skip, query.maxItems.getD engine.config.maxItems.toNat⟩)
      (lookup : set.lookup = engine.lookup)
      (opened : set.closed = false) :
      Ended engine context query (.federated n set) journal

end QueryFederation.Engine
