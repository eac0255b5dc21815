import QueryFederation.Compile.Context
import QueryFederation.Engine.Configuration
import QueryFederation.Engine.Schedule
import QueryFederation.Federation.Basic

/-! Runs of queries with several selectors. All selectors are compiled before anything is
executed; equal queries are executed once and share their result. When a run fails, whatever was
found is released. -/
namespace QueryFederation
open Request Schema Index Compile Result Federation

namespace Engine

structure Selector where
  name : String
  type : Option String
  predicate : Predicate
  sort : List SortTerm
  deriving Repr

def Selector.scoped (selector : Selector) : Predicate :=
  match selector.type with
  | some type => .all [.isType type, selector.predicate]
  | none => selector.predicate

structure FederatedQuery where
  statement : String
  selectors : List Selector
  skip : Nat
  maxItems : Option Nat
  deriving Repr

end Engine

structure Engine where
  config : Engine.Configuration
  lookup : Entity.Lookup

namespace Engine

def new (config : Configuration) (lookup : Entity.Lookup) : Except Fault Engine := do
  config.validate
  return ⟨config, lookup⟩

def context (engine : Engine) (dictionary : Dictionary) (namespaces : Namespaces)
    (tenant : Tenant) (parameters : Parameters) (snapshot : Snapshot) : Context :=
  let locales :=
    if parameters.locales.isEmpty then [engine.config.locale] else parameters.locales
  Context.new dictionary namespaces tenant { parameters with locales := locales }
    engine.config.mode snapshot

def options (engine : Engine) (query : FederatedQuery) : Options :=
  ⟨query.statement, query.skip, query.maxItems.getD engine.config.maxItems.toNat⟩

abbrev Plan := List (String × CompiledQuery)

def compileSelectors (context : Context) : List Selector → Except Fault Plan
  | [] => .ok []
  | selector :: rest =>
    match context.compile selector.scoped selector.sort with
    | .error rejection => .error rejection.toFault
    | .ok compiled => do return (selector.name, compiled) :: (← compileSelectors context rest)

def plan (context : Context) (query : FederatedQuery) : Except Fault Plan :=
  if query.selectors.isEmpty then .error (.invalidArgument "query has no selectors")
  else
    match Order.firstRepeat? (query.selectors.map Selector.name) with
    | some name => .error (.duplicateSelector name)
    | none => compileSelectors context query.selectors

namespace Plan

/- The queries to execute, in the order of the selectors that first need them. -/
def queries (plan : Plan) : List CompiledQuery := Order.distinct (plan.map Prod.snd)

def columns (plan : Plan) (n : Nat) : List (Column n) :=
  plan.filterMap fun (name, compiled) =>
    let position := plan.queries.idxOf compiled
    if h : position < n then some ⟨name, position, h⟩ else none

end Plan

variable {ε ρ : Type}

def firstFault? : List (Except Fault ρ) → Option Fault
  | [] => none
  | .error fault :: _ => some fault
  | .ok _ :: rest => firstFault? rest

def produced : List (Except Fault ρ) → List ρ
  | [] => []
  | .error _ :: rest => produced rest
  | .ok result :: rest => result :: produced rest

/- Faults of a release do not count here. -/
def releaseEach [ResultSet ρ] (results : List ρ) : List ρ :=
  results.map fun result => (ResultSet.release result).2

/-- How a run ended: with a federation, or with a fault and the results that it released. -/
inductive Outcome (ρ : Type) where
  | federated (n : Nat) (set : Federation ρ n)
  | failed (fault : Fault) (released : List ρ)

def federate [ResultSet ρ] (plan : Plan) (options : Options) (lookup : Entity.Lookup)
    (results : List ρ) : Outcome ρ :=
  match join (plan.columns results.length) options lookup results.toArray.toVector with
  | (.ok set, _) => .federated results.length set
  | (.error fault, results) => .failed fault (releaseEach results.toList)

/- The schedule counts only where queries may run at the same time. -/
def effective (engine : Engine) (schedule : Schedule) : Schedule :=
  if engine.config.parallel then schedule else .inTurn

def execute [Executor ε ρ] [ResultSet ρ] (engine : Engine) (schedule : Schedule)
    (context : Context) (query : FederatedQuery) (executor : ε) : Outcome ρ × ε :=
  match plan context query with
  | .error fault => (.failed fault [], executor)
  | .ok plan =>
    let options := engine.options query
    let (answers, executor) :=
      executeScheduled (engine.effective schedule) options.skip options.maxItems plan.queries
        executor
    match firstFault? answers with
    | some fault => (.failed fault (releaseEach (produced answers)), executor)
    | none => (federate plan options engine.lookup (produced answers), executor)

end Engine

end QueryFederation
