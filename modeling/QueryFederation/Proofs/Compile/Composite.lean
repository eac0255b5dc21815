import Mathlib
import QueryFederation.Compile.Context
import QueryFederation.Proofs.Success
import QueryFederation.Request.Nodes

/-! Conditions with conditions in them: they are compiled from left to right, and the queries are
put together. -/
namespace QueryFederation.Compile
open Request Index

variable {context : Context}

theorem translateAllEq (children : List Predicate) :
    context.translateAll children = children.mapM context.translate := by
  induction children with
  | nil => rfl
  | cons child rest ih => rw [Context.translateAll, ih, List.mapM_cons]

theorem translateConjunction (children : List Predicate) :
    context.translate (.all children) =
      children.mapM context.translate >>= fun queries => pure (Query.allOf queries) := by
  rw [Context.translate, translateAllEq]

theorem translateDisjunction {children : List Predicate} (some : children ≠ []) :
    context.translate (.any children) =
      children.mapM context.translate >>= fun queries => pure (Query.anyOf queries) := by
  cases children with
  | nil => exact absurd rfl some
  | cons child rest => simp [Context.translate, translateAllEq]

theorem translateNegation (child : Predicate) :
    context.translate (.not child) =
      context.translate child >>= fun query => pure (Query.negate query) := by
  rw [Context.translate]

theorem conjunctionCompiles {children : List Predicate} :
    (∃ query, context.translate (.all children) = .ok query) ↔
      ∀ child ∈ children, ∃ query, context.translate child = .ok query := by
  rw [translateConjunction, buildSucceeds, mapAllSucceed]

theorem disjunctionCompiles {children : List Predicate} (some : children ≠ []) :
    (∃ query, context.translate (.any children) = .ok query) ↔
      ∀ child ∈ children, ∃ query, context.translate child = .ok query := by
  rw [translateDisjunction some, buildSucceeds, mapAllSucceed]

theorem negationCompiles {child : Predicate} :
    (∃ query, context.translate (.not child) = .ok query) ↔
      ∃ query, context.translate child = .ok query := by
  rw [translateNegation, buildSucceeds]

theorem childrenCompile {predicate : Predicate}
    (compiles : ∃ query, context.translate predicate = .ok query) :
    ∀ child ∈ predicate.children, ∃ query, context.translate child = .ok query := by
  cases predicate with
  | all children => exact conjunctionCompiles.mp compiles
  | any children =>
    by_cases empty : children = []
    · simp [Predicate.children, empty]
    · exact (disjunctionCompiles empty).mp compiles
  | not child => exact List.forall_mem_singleton.mpr (negationCompiles.mp compiles)
  | _ => simp [Predicate.children]

end QueryFederation.Compile
