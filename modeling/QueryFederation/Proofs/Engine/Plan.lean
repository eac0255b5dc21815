import QueryFederation.Engine.LifeCycle
import QueryFederation.Proofs.Order
import QueryFederation.Proofs.Success

/-! The plan of a request: it has a query for each selector, or the first fault that stands in the
way of one. -/
namespace QueryFederation.Engine
open Index Compile Result

variable {context : Context} {query : FederatedQuery}

theorem compiledSelectors {selectors : List Selector} {plan : Plan}
    (ok : compileSelectors context selectors = .ok plan) : Compiles context selectors plan := by
  induction selectors generalizing plan with
  | nil =>
    cases ok
    exact .nil
  | cons selector rest ih =>
    rw [compileSelectors] at ok
    split at ok
    · contradiction
    · rename_i one
      obtain ⟨others, each, built⟩ := bindSucceeds.mp ok
      cases built
      exact .cons one (ih each)

theorem uncompiledSelector {selectors : List Selector} {fault : Fault}
    (failed : compileSelectors context selectors = .error fault) :
    ∃ before selector rest plan rejection, selectors = before ++ selector :: rest ∧
      Compiles context before plan ∧
      context.compile selector.scoped selector.sort = .error rejection ∧
      fault = rejection.toFault := by
  induction selectors with
  | nil => contradiction
  | cons selector rest ih =>
    rw [compileSelectors] at failed
    split at failed
    · rename_i rejection rejected
      cases failed
      exact ⟨[], selector, rest, [], rejection, rfl, .nil, rejected, rfl⟩
    · rename_i compiled one
      have others : compileSelectors context rest = .error fault := by
        cases each : compileSelectors context rest with
        | error other =>
          rw [each] at failed
          cases failed
          rfl
        | ok plan =>
          rw [each] at failed
          contradiction
      obtain ⟨before, culprit, after, plan, rejection, rfl, done, rejected, same⟩ := ih others
      exact ⟨selector :: before, culprit, after, _, rejection, rfl, .cons one done, rejected, same⟩

theorem planned {made : Plan} (ok : plan context query = .ok made) :
    Planned context query made := by
  unfold plan at ok
  split at ok
  · contradiction
  · rename_i some
    split at ok
    · contradiction
    · rename_i unrepeated
      refine ⟨?_, Order.firstRepeatNone.mp unrepeated, compiledSelectors ok⟩
      intro none
      simp [none] at some

theorem unplanned {engine : Engine} {fault : Fault} (failed : plan context query = .error fault) :
    Ended engine context query (.failed fault []) [] := by
  unfold plan at failed
  split at failed
  · rename_i none
    cases failed
    exact .noSelectors (List.isEmpty_iff.mp none)
  · split at failed
    · rename_i name found
      cases failed
      obtain ⟨before, rest, split, unique, repeated⟩ := Order.firstRepeatSome found
      exact .repeatedName split unique repeated
    · rename_i unrepeated
      obtain ⟨before, selector, rest, made, rejection, split, done, rejected, rfl⟩ :=
        uncompiledSelector failed
      exact .uncompiled (Order.firstRepeatNone.mp unrepeated) split done rejected

theorem compiledNames {selectors : List Selector} {plan : Plan}
    (compiled : Compiles context selectors plan) :
    plan.map Prod.fst = selectors.map Selector.name := by
  induction compiled with
  | nil => rfl
  | cons one others ih => exact congrArg (List.cons _) ih

theorem plannedSome {made : Plan} (planned : Planned context query made) : made ≠ [] := by
  intro none
  have names := compiledNames planned.compiled
  rw [none] at names
  exact planned.some (List.map_eq_nil_iff.mp names.symm)

end QueryFederation.Engine
