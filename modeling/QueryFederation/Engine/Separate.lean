import QueryFederation.Engine.LifeCycle
import QueryFederation.Federation.Session

/-! Runs that share nothing: each selector has an execution and a result of its own. -/
namespace QueryFederation.Engine
open Index Compile Result Federation

variable {ε ρ γ : Type}

def Plan.ownColumns (plan : Plan) (n : Nat) : List (Column n) :=
  (plan.zip (List.finRange n)).map fun (entry, slot) => ⟨entry.1, slot⟩

def federateSeparately [ResultSet ρ] (plan : Plan) (options : Options) (lookup : Entity.Lookup)
    (results : List ρ) : Outcome ρ :=
  match join (plan.ownColumns results.length) options lookup results.toArray.toVector with
  | (.ok set, _) => .federated results.length set
  | (.error fault, results) => .failed fault (releaseEach results.toList)

def executeSeparately [Executor ε ρ] [ResultSet ρ] (engine : Engine) (context : Context)
    (query : FederatedQuery) (executor : ε) : Outcome ρ × ε :=
  match plan context query with
  | .error fault => (.failed fault [], executor)
  | .ok plan =>
    let options := engine.options query
    let (answers, executor) :=
      executeAll options.skip options.maxItems (plan.map Prod.snd) executor
    match firstFault? answers with
    | some fault => (.failed fault (releaseEach (produced answers)), executor)
    | none => (federateSeparately plan options engine.lookup (produced answers), executor)

/- What can be seen of an answer depends on nothing but the query and the page. -/
def AnswersByQuery [Executor ε ρ] (view : ρ → γ) (answer : Call → Except Fault γ)
    (executor : ε) : Prop :=
  ∀ later, Reached executor later → ∀ call : Call,
    (Executor.execute call.query call.skip call.max later).1.map view = answer call

/- Outcomes that nothing tells apart: the fault is the same, or whatever is done with the
federations is answered in the same way. -/
inductive Outcome.Alike [ResultSet ρ] : Outcome ρ → Outcome ρ → Prop where
  | failed (fault : Fault) (released others : List ρ) :
      Alike (.failed fault released) (.failed fault others)
  | federated {n m : Nat} {set : Federation ρ n} {plain : Federation ρ m}
      (selectors : set.selectors = plain.selectors) (options : set.options = plain.options)
      (events : ∀ operations, (Session.run operations (Session.start set)).1 =
        (Session.run operations (Session.start plain)).1) :
      Alike (.federated n set) (.federated m plain)

end QueryFederation.Engine
