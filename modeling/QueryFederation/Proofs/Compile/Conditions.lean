import Mathlib
import QueryFederation.Proofs.Compile.Meaning
import QueryFederation.Request.Nodes

/-! What a condition on a property is compiled to: leaves that are looked for in all fields of the
property, or that are not to be found there. -/
namespace QueryFederation.Compile
open Request Schema Index

namespace ResolvedField

def findings (field : ResolvedField) (leaves : List Leaf) : List Query :=
  leaves.map fun leaf => field.across leaf.on

inductive Builds (field : ResolvedField) : Query → Prop where
  | any {leaves : List Leaf} (some : leaves ≠ []) :
      Builds field (Query.anyOf (field.findings leaves))
  | all {leaves : List Leaf} (some : leaves ≠ []) :
      Builds field (Query.allOf (field.findings leaves))
  | without {leaves : List Leaf} (some : leaves ≠ []) :
      Builds field (field.without (field.findings leaves))
  | absent : Builds field (Query.negate field.anyValue)

end ResolvedField

variable {context : Context} {field : ResolvedField} {node : Predicate} {query : Query}

theorem buildsOne (leaf : Leaf) : field.Builds (field.across leaf.on) :=
  .any (List.cons_ne_nil leaf [])

theorem buildsWithoutOne (leaf : Leaf) : field.Builds (field.without [field.across leaf.on]) :=
  .without (List.cons_ne_nil leaf [])

theorem findingsMap {α : Type} {build : α → Compiled Query} {xs : List α} {queries : List Query}
    {allowed : Leaf → Prop} (each : ∀ {x query}, build x = .ok query →
      ∃ leaf : Leaf, allowed leaf ∧ query = field.across leaf.on)
    (ok : xs.mapM build = .ok queries) :
    ∃ leaves, (leaves = [] ↔ xs = []) ∧ (∀ leaf ∈ leaves, allowed leaf) ∧
      queries = field.findings leaves := by
  induction mapSucceeds.mp ok with
  | nil => exact ⟨[], by simp, by simp, rfl⟩
  | cons head tail ih =>
    obtain ⟨leaf, fits, rfl⟩ := each head
    obtain ⟨leaves, -, others, rfl⟩ := ih (mapSucceeds.mpr tail)
    exact ⟨leaf :: leaves, by simp, List.forall_mem_cons.mpr ⟨fits, others⟩, rfl⟩

theorem rangeAcross {op : Comparison} {value : Literal} {bounds : String → Bound × Bound}
    (ok : Context.range field op value node bounds = .ok query) :
    ∃ lower upper, query = field.across (Leaf.range lower upper).on := by
  unfold Context.range at ok
  split at ok
  · contradiction
  obtain ⟨term, -, built⟩ := bindSucceeds.mp ok
  cases built
  exact ⟨_, _, rfl⟩

/- Equality looks for no patterns. -/
theorem equalsAcross {value : Literal} (ok : Context.equals field value node = .ok query) :
    ∃ leaf : Leaf, (∀ pattern, leaf ≠ .wildcard pattern) ∧ query = field.across leaf.on := by
  obtain ⟨leaf, stands, across⟩ := equalsStands ok
  refine ⟨leaf, fun pattern same => ?_, across⟩
  subst same
  cases stands

/- One leaf is looked for, or it is not to be found. -/
theorem compareAcross {op : Comparison} {value : Literal}
    (ok : Context.compare field op value node = .ok query) :
    ∃ leaf : Leaf, (∀ pattern, leaf ≠ .wildcard pattern) ∧
      (query = field.across leaf.on ∨ query = field.without [field.across leaf.on]) := by
  have ranged {bounds : String → Bound × Bound}
      (done : Context.range field op value node bounds = .ok query) :
      ∃ leaf : Leaf, (∀ pattern, leaf ≠ .wildcard pattern) ∧
        (query = field.across leaf.on ∨ query = field.without [field.across leaf.on]) := by
    obtain ⟨lower, upper, across⟩ := rangeAcross done
    exact ⟨.range lower upper, by simp, .inl across⟩
  unfold Context.compare at ok
  cases op with
  | eq =>
    obtain ⟨leaf, plain, across⟩ := equalsAcross ok
    exact ⟨leaf, plain, .inl across⟩
  | ne =>
    obtain ⟨equal, same, built⟩ := bindSucceeds.mp ok
    obtain ⟨leaf, plain, rfl⟩ := equalsAcross same
    cases built
    exact ⟨leaf, plain, .inr rfl⟩
  | lt => exact ranged ok
  | le => exact ranged ok
  | gt => exact ranged ok
  | ge => exact ranged ok

theorem compareBuilds {op : Comparison} {value : Literal}
    (ok : Context.compare field op value node = .ok query) : field.Builds query := by
  obtain ⟨leaf, -, rfl | rfl⟩ := compareAcross ok
  · exact buildsOne leaf
  · exact buildsWithoutOne leaf

theorem oneOfBuilds {values : List Literal} {equal : List Query} (negated : Bool)
    (valued : values ≠ [])
    (ok : values.mapM (fun value => Context.equals field value node) = .ok equal) :
    field.Builds (if negated then field.without equal else Query.anyOf equal) := by
  obtain ⟨leaves, empty, -, rfl⟩ := findingsMap equalsAcross ok
  have some : leaves ≠ [] := fun none => valued (empty.mp none)
  cases negated with
  | false => exact .any some
  | true => exact .without some

theorem likeBuilds {pattern : String} (negated : Bool)
    (ok : context.like field pattern node = .ok query) :
    field.Builds (if negated then field.without [query] else query) := by
  cases likeAcross ok
  cases negated with
  | false => exact buildsOne (field.patternLeaf pattern)
  | true => exact buildsWithoutOne (field.patternLeaf pattern)

/- Each word is looked for by itself. -/
theorem fullTextWords {text : String} (ok : context.fullText field text node = .ok query) :
    (Context.expressionAnalyzer field.type).terms text ≠ [] ∧
      query = Context.joinWords context.parameters.operator
        (((Context.expressionAnalyzer field.type).terms text).map fun word =>
          field.across (wordLeaf word).on) := by
  unfold Context.fullText at ok
  dsimp only at ok
  split at ok
  · contradiction
  rename_i worded
  obtain ⟨queries, each, built⟩ := bindSucceeds.mp ok
  cases built
  have across := (mapSucceeds.mp each).imp fun _ _ one => (wordAcross one).symm
  rw [← List.forall₂_map_left_iff, List.forall₂_eq_eq_eq] at across
  exact ⟨fun none => worded (by simp [none]), congrArg _ across.symm⟩

theorem fullTextBuilds {text : String} (ok : context.fullText field text node = .ok query) :
    field.Builds query := by
  obtain ⟨worded, rfl⟩ := fullTextWords ok
  have leaves : ((Context.expressionAnalyzer field.type).terms text).map
      (fun word => field.across (wordLeaf word).on) =
        field.findings (((Context.expressionAnalyzer field.type).terms text).map wordLeaf) := by
    rw [ResolvedField.findings, List.map_map]
    rfl
  have some : ((Context.expressionAnalyzer field.type).terms text).map wordLeaf ≠ [] := by
    simpa using worded
  rw [leaves]
  cases context.parameters.operator with
  | or => exact .any some
  | and => exact .all some

theorem subtypesFilled {types : TypeHierarchy} {name : QualifiedName}
    (known : types.contains name = true) : types.subtypes name ≠ [] := by
  obtain ⟨decl, member, -⟩ := List.mem_map.mp (List.contains_iff_mem.mp known)
  obtain ⟨size, positive⟩ : ∃ size, types.size = size + 1 :=
    Nat.exists_eq_succ_of_ne_zero (List.length_pos_of_mem member).ne'
  simp [TypeHierarchy.subtypes, known, positive, TypeHierarchy.descend]

theorem isTypeChoice {type : String} (ok : context.isType type node = .ok query) :
    ∃ types : List QualifiedName, types ≠ [] ∧ query =
      Query.anyOf (types.map fun type => .term ReservedField.type.name type.text) := by
  unfold Context.isType at ok
  split at ok
  · contradiction
  dsimp only at ok
  split at ok
  · rename_i known
    cases ok
    exact ⟨_, subtypesFilled known, rfl⟩
  · contradiction

/- Nothing but the fields of the property goes into the query. -/
theorem subjectBuilds {property : String}
    (about : node.subject? context.parameters.defaultField = some property)
    (ok : context.translate node = .ok query) :
    ∃ field, context.Names property field ∧ field.Builds query := by
  cases node with
  | all _ | any _ | not _ | inFolder _ | isType _ => contradiction
  | compare property op value =>
    cases about
    obtain ⟨field, resolved, compared⟩ := bindSucceeds.mp ok
    exact ⟨field, resolveNames resolved, compareBuilds compared⟩
  | oneOf property values negated =>
    cases about
    unfold Context.translate at ok
    dsimp only at ok
    split at ok
    · contradiction
    rename_i valued
    obtain ⟨field, resolved, more⟩ := bindSucceeds.mp ok
    obtain ⟨equal, each, built⟩ := bindSucceeds.mp more
    cases built
    have some : values ≠ [] := fun none => valued (by simp [none])
    exact ⟨field, resolveNames resolved, oneOfBuilds negated some each⟩
  | like property pattern negated =>
    cases about
    obtain ⟨field, resolved, more⟩ := bindSucceeds.mp ok
    obtain ⟨query, liked, built⟩ := bindSucceeds.mp more
    cases built
    exact ⟨field, resolveNames resolved, likeBuilds negated liked⟩
  | present property =>
    cases about
    obtain ⟨field, resolved, built⟩ := bindSucceeds.mp ok
    cases built
    exact ⟨field, resolveNames resolved, buildsOne .present⟩
  | absent property =>
    cases about
    obtain ⟨field, resolved, built⟩ := bindSucceeds.mp ok
    cases built
    exact ⟨field, resolveNames resolved, .absent⟩
  | fullText property text =>
    cases about
    obtain ⟨field, resolved, found⟩ := bindSucceeds.mp ok
    exact ⟨field, resolveNames resolved, fullTextBuilds found⟩

end QueryFederation.Compile
