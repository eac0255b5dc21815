import Mathlib
import QueryFederation.Proofs.Compile.Conditions
import QueryFederation.Proofs.Compile.Resolution
import QueryFederation.Proofs.Index.Shape
import QueryFederation.Proofs.Order

/-! Every Boolean query inside a compiled query is a choice between alternatives or a demand. That no
list of clauses runs empty rests on what is known of names: a property has a field, a type has
itself among its subtypes. -/
namespace QueryFederation.Compile
open Request Schema Index

theorem dropRunsNil {α : Type} [DecidableEq α] {xs : List α} :
    Order.dropRuns xs = [] ↔ xs = [] := by
  simp only [List.eq_nil_iff_forall_not_mem, Order.memDropRuns]

theorem modeFieldsFilled (resolver : FieldResolver) (base : String) (mode : LanguageMode) :
    resolver.modeFields base mode ≠ [] := by
  cases mode <;> simp [FieldResolver.modeFields]

theorem fieldsOfFilled (resolver : FieldResolver) (name : QualifiedName) (type : DataType)
    (mode : LanguageMode) : resolver.fieldsOf name type mode ≠ [] := by
  unfold FieldResolver.fieldsOf
  split
  · exact fun empty => modeFieldsFilled resolver _ mode (dropRunsNil.mp empty)
  · simp

theorem namesSomeField {context : Context} {property : String} {field : ResolvedField}
    (names : context.Names property field) : field.fields ≠ [] := by
  cases FieldResolver.resolveIff.mp names with
  | reserved known => exact List.cons_ne_nil property []
  | property free reads defined => exact fieldsOfFilled _ _ _ _

variable {context : Context} {field : ResolvedField} {node : Predicate}

section Fields
variable (filled : field.fields ≠ [])
include filled

theorem leafWellBuilt (leaf : Leaf) : (field.across leaf.on).WellBuilt := by
  refine Query.wellBuiltAnyOf (fun empty => filled (List.map_eq_nil_iff.mp empty)) ?_
  intro query member
  obtain ⟨name, -, rfl⟩ := List.mem_map.mp member
  cases leaf <;> exact Query.wellBuiltLeaf rfl (by simp [Leaf.on])

theorem findingsWellBuilt (leaves : List Leaf) :
    ∀ query ∈ field.findings leaves, query.WellBuilt := by
  intro query member
  obtain ⟨leaf, -, rfl⟩ := List.mem_map.mp member
  exact leafWellBuilt filled leaf

theorem withoutWellBuilt {excluded : List Query} (some : excluded ≠ [])
    (each : ∀ query ∈ excluded, query.WellBuilt) : (field.without excluded).WellBuilt := by
  refine Query.wellBuiltAlong (leafWellBuilt filled .present)
    (fun empty => some (List.map_eq_nil_iff.mp empty)) ?_ ?_
  · intro clause member
    obtain ⟨query, -, rfl⟩ := List.mem_map.mp member
    exact Occur.noConfusion
  · intro clause member
    obtain ⟨query, inside, rfl⟩ := List.mem_map.mp member
    exact each query inside

theorem buildsWellBuilt {query : Query} (builds : field.Builds query) : query.WellBuilt := by
  cases builds with
  | any some =>
    exact Query.wellBuiltAnyOf (fun empty => some (List.map_eq_nil_iff.mp empty))
      (findingsWellBuilt filled _)
  | all some => exact Query.wellBuiltAllOf (findingsWellBuilt filled _)
  | without some =>
    exact withoutWellBuilt filled (fun empty => some (List.map_eq_nil_iff.mp empty))
      (findingsWellBuilt filled _)
  | absent => exact Query.wellBuiltNegate (leafWellBuilt filled .present)

end Fields

theorem subjectWellBuilt {property : String} {query : Query}
    (about : node.subject? context.parameters.defaultField = some property)
    (ok : context.translate node = .ok query) : query.WellBuilt := by
  obtain ⟨field, names, builds⟩ := subjectBuilds about ok
  exact buildsWellBuilt (namesSomeField names) builds

theorem isTypeWellBuilt {type : String} {query : Query}
    (ok : context.isType type node = .ok query) : query.WellBuilt := by
  obtain ⟨types, some, rfl⟩ := isTypeChoice ok
  refine Query.wellBuiltAnyOf (fun empty => some (List.map_eq_nil_iff.mp empty)) ?_
  intro query member
  obtain ⟨type, -, rfl⟩ := List.mem_map.mp member
  exact Query.wellBuiltTerm _ _

theorem resolvedFilled {property : String} (ok : context.resolve property node = .ok field) :
    field.fields ≠ [] := namesSomeField (resolveNames ok)

mutual
theorem translateWellBuilt {predicate : Predicate} {query : Query}
    (ok : context.translate predicate = .ok query) : query.WellBuilt := by
  match predicate with
  | .all children =>
    obtain ⟨queries, each, built⟩ := bindSucceeds.mp ok
    cases built
    exact Query.wellBuiltAllOf (translateAllWellBuilt each)
  | .any [] => contradiction
  | .any (child :: rest) =>
    obtain ⟨first, head, more⟩ := bindSucceeds.mp ok
    obtain ⟨queries, each, built⟩ := bindSucceeds.mp more
    cases built
    exact Query.wellBuiltAnyOf (by simp)
      (List.forall_mem_cons.mpr ⟨translateWellBuilt head, translateAllWellBuilt each⟩)
  | .not child =>
    obtain ⟨excluded, inner, built⟩ := bindSucceeds.mp ok
    cases built
    exact Query.wellBuiltNegate (translateWellBuilt inner)
  | .compare _ _ _ | .oneOf _ _ _ | .like _ _ _ | .present _ | .absent _ | .fullText _ _ =>
    exact subjectWellBuilt rfl ok
  | .inFolder folder =>
    cases ok
    exact Query.wellBuiltTerm _ _
  | .isType type => exact isTypeWellBuilt ok

theorem translateAllWellBuilt {children : List Predicate} {queries : List Query}
    (ok : context.translateAll children = .ok queries) : ∀ query ∈ queries, query.WellBuilt := by
  match children with
  | [] =>
    cases ok
    simp
  | child :: rest =>
    obtain ⟨first, head, more⟩ := bindSucceeds.mp ok
    obtain ⟨others, each, built⟩ := bindSucceeds.mp more
    cases built
    exact List.forall_mem_cons.mpr ⟨translateWellBuilt head, translateAllWellBuilt each⟩
end

theorem filtersWellBuilt (context : Context) :
    ∀ clause ∈ context.tenantFilter ++ context.clientFilter,
      clause.1 ≠ .should ∧ clause.2.WellBuilt := by
  unfold Context.tenantFilter Context.clientFilter
  cases context.tenant.active <;> cases context.client <;> simp [Query.wellBuiltTerm]

theorem confineWellBuilt {query : Query} (well : query.WellBuilt) :
    (context.confine query).WellBuilt := by
  have filters := filtersWellBuilt context
  unfold Context.confine
  split
  · exact well
  · rename_i others filled
    exact Query.wellBuiltAlong well filled (fun clause member => (filters clause member).1)
      fun clause member => (filters clause member).2

/- No compiled query is empty somewhere, excludes without demanding, or wants more options than
it has. -/
theorem compiledWellShaped {predicate : Predicate} {sort : List SortTerm}
    {compiled : CompiledQuery} (ok : context.compile predicate sort = .ok compiled)
    {clauses : List (Occur × Query)} {minimum : Nat}
    (inside : .boolean clauses minimum ∈ compiled.query.parts) :
    WellShaped clauses minimum ∧ clauses ≠ [] ∧ (∃ clause ∈ clauses, clause.1 ≠ .mustNot) ∧
      minimum ≤ countOptions clauses := by
  obtain ⟨query, translated, more⟩ := bindSucceeds.mp ok
  obtain ⟨fields, -, built⟩ := bindSucceeds.mp more
  cases built
  have shaped := confineWellBuilt (translateWellBuilt translated) clauses minimum inside
  exact ⟨shaped, shapedFilled shaped, shapedAffirms shaped, shapedReachable shaped⟩

/- Documents without a title: a type with a subtype, and a property with several fields. -/
def library : Context :=
  { Context.new
      { types := ⟨[⟨⟨"urn:c", "document"⟩, none⟩,
          ⟨⟨"urn:c", "report"⟩, some ⟨"urn:c", "document"⟩⟩]⟩
        properties := [(⟨"urn:c", "title"⟩, .mlText)] }
      { entries := [("c", "urn:c")] } (.ofDomain "acme") { locales := [⟨"en", some "GB"⟩] }
      .localeAndAll {} with
    client := some .cmis }

def untitled : Predicate := .all [.isType "c:document", .absent "c:title"]

def titlePresence : List (Occur × Query) :=
  [(.should, .present "@\x7burn:c\x7dtitle.en_GB"), (.should, .present "@\x7burn:c\x7dtitle.en"),
    (.should, .present "@\x7burn:c\x7dtitle")]

def untitledQuery : Query :=
  .boolean [
    (.must, .boolean [
      (.must, .boolean [(.should, .term "TYPE" "\x7burn:c\x7ddocument"),
        (.should, .term "TYPE" "\x7burn:c\x7dreport")] 1),
      (.must, .boolean [(.must, .matchAll), (.mustNot, .boolean titlePresence 1)] 0)] 0),
    (.must, .term "TENANT" "acme"), (.mustNot, .term "HIDDEN" "cmis")] 0

theorem untitledWellShaped :
    library.compile untitled [] = .ok ⟨untitledQuery, [], 0⟩ ∧
      .boolean titlePresence 1 ∈ untitledQuery.parts ∧ WellShaped titlePresence 1 := by
  have ok : library.compile untitled [] = .ok ⟨untitledQuery, [], 0⟩ := by cbv
  have inside : .boolean titlePresence 1 ∈ untitledQuery.parts := by
    simp [untitledQuery, Query.parts, Query.clauseParts]
  exact ⟨ok, inside, (compiledWellShaped ok inside).1⟩

end QueryFederation.Compile
