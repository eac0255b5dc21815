import Mathlib
import QueryFederation.Proofs.Compile.Blame
import QueryFederation.Proofs.Compile.Leaves
import QueryFederation.Proofs.Compile.Shape
import QueryFederation.Proofs.Index.FieldOrder

/-! A compiled query reads the fields of the properties that its request is about, those that stand
for types and parents where these are asked for, and those that confine it. It reads no other field,
and leaves none of these out. -/
namespace QueryFederation.Compile
open Request Schema Index

namespace Context

/- What a condition reads by itself, whatever the conditions in it read. -/
inductive NodeReads (context : Context) : Predicate → String → Prop where
  | subject {node : Predicate} {property name : String} {field : ResolvedField}
      (about : node.subject? context.parameters.defaultField = some property)
      (names : context.Names property field) (member : name ∈ field.fields) :
      NodeReads context node name
  | folder (folder : String) : NodeReads context (.inFolder folder) ReservedField.parent.name
  | type (type : String) : NodeReads context (.isType type) ReservedField.type.name

def ReadsWithin (context : Context) (predicate : Predicate) (name : String) : Prop :=
  ∃ node ∈ predicate.nodes, context.NodeReads node name

/- What a request is to read. -/
inductive Needs (context : Context) (predicate : Predicate) : String → Prop where
  | condition {name : String} (within : context.ReadsWithin predicate name) :
      Needs context predicate name
  | tenant (active : context.tenant.active = true) :
      Needs context predicate ReservedField.tenant.name
  | client {client : Client} (known : context.client = some client) :
      Needs context predicate ReservedField.hidden.name

/- What is sorted by for a sort term. Of several fields of a property this is the first. -/
inductive SortsBy (context : Context) : SortTerm → SortField → Prop where
  | score {ascending : Bool} {direction : Direction}
      (asked : direction = .ascending ↔ ascending = true) :
      SortsBy context ⟨.score, ascending⟩ (.score direction)
  | property {property : String} {ascending : Bool} {direction : Direction} {field : ResolvedField}
      {first : String} {rest : List String} (asked : direction = .ascending ↔ ascending = true)
      (names : context.Names property field) (fields : field.fields = first :: rest) :
      SortsBy context ⟨.property property, ascending⟩ (.field first direction)

/- Each name in the request is known, its fields are read and no others, and it is sorted by what
the sort terms say, one by one. -/
structure ReadsJust (context : Context) (predicate : Predicate) (sort : List SortTerm)
    (compiled : CompiledQuery) : Prop where
  known : ∀ node ∈ predicate.nodes, ∀ property,
    node.subject? context.parameters.defaultField = some property →
      ∃ field, context.Names property field
  fields : ∀ name, name ∈ compiled.query.fields ↔ context.Needs predicate name
  sorted : List.Forall₂ context.SortsBy sort compiled.sort

end Context

variable {context : Context} {field : ResolvedField} {node predicate : Predicate} {query : Query}
  {name : String}

/- Each leaf is looked for in every field. -/
theorem memAcrossUses (leaf : Leaf) :
    name ∈ (field.across leaf.on).uses ↔ name ∈ field.fields := by
  have reads : Query.field? ∘ leaf.on = some := funext fun _ => by cases leaf <;> rfl
  rw [Query.uses, acrossLeaves, List.filterMap_map, reads, List.filterMap_some]

theorem findingsUse {leaves : List Leaf} (some : leaves ≠ []) :
    name ∈ (field.findings leaves).flatMap Query.uses ↔ name ∈ field.fields := by
  rw [ResolvedField.findings, List.flatMap_map, List.mem_flatMap]
  simp only [memAcrossUses]
  constructor
  · rintro ⟨_, -, member⟩
    exact member
  · intro member
    obtain ⟨leaf, inside⟩ := List.exists_mem_of_ne_nil leaves some
    exact ⟨leaf, inside, member⟩

theorem memWithoutUses {excluded : List Query} :
    name ∈ (field.without excluded).uses ↔
      name ∈ field.fields ∨ name ∈ excluded.flatMap Query.uses := by
  rw [ResolvedField.without, Query.usesBoolean, List.flatMap_cons, List.mem_append, List.flatMap_map]
  exact or_congr_left (memAcrossUses .present)

theorem buildsUse (builds : field.Builds query) : name ∈ query.uses ↔ name ∈ field.fields := by
  cases builds with
  | any some => rw [Query.usesAnyOf, findingsUse some]
  | all some => rw [Query.usesAllOf, findingsUse some]
  | without some => rw [memWithoutUses, findingsUse some, or_self]
  | absent =>
    rw [Query.usesNegate]
    exact memAcrossUses .present

theorem nodeReadsSubject {property : String}
    (about : node.subject? context.parameters.defaultField = some property)
    (names : context.Names property field) :
    context.NodeReads node name ↔ name ∈ field.fields := by
  constructor
  · intro reads
    cases reads with
    | subject also others member =>
      cases about.symm.trans also
      cases names.symm.trans others
      exact member
    | folder _ => contradiction
    | type _ => contradiction
  · exact .subject about names

theorem nodeReadsFolder {folder : String} :
    context.NodeReads (.inFolder folder) name ↔ name = ReservedField.parent.name := by
  constructor
  · intro reads
    cases reads with
    | subject about _ _ => contradiction
    | folder _ => rfl
  · rintro rfl
    exact .folder folder

theorem nodeReadsType {type : String} :
    context.NodeReads (.isType type) name ↔ name = ReservedField.type.name := by
  constructor
  · intro reads
    cases reads with
    | subject about _ _ => contradiction
    | type _ => rfl
  · rintro rfl
    exact .type type

theorem isTypeUses {type : String} (ok : context.isType type node = .ok query) :
    name ∈ query.uses ↔ name = ReservedField.type.name := by
  obtain ⟨types, some, rfl⟩ := isTypeChoice ok
  rw [Query.usesAnyOf, List.flatMap_map, List.mem_flatMap]
  constructor
  · rintro ⟨type, -, member⟩
    exact List.mem_singleton.mp member
  · rintro rfl
    obtain ⟨type, inside⟩ := List.exists_mem_of_ne_nil types some
    exact ⟨type, inside, List.mem_singleton.mpr rfl⟩

/- A condition with no others in it. -/
theorem readsLeaf (leaf : node.children = []) :
    context.ReadsWithin node name ↔ context.NodeReads node name := by
  simp [Context.ReadsWithin, Predicate.nodesEq, leaf]

theorem readsJoined (none : ¬ context.NodeReads node name) :
    context.ReadsWithin node name ↔ ∃ child ∈ node.children, context.ReadsWithin child name := by
  rw [Context.ReadsWithin, Predicate.nodesEq node]
  simp only [List.mem_cons, List.mem_flatMap]
  constructor
  · rintro ⟨inner, rfl | ⟨child, member, inside⟩, reads⟩
    · exact absurd reads none
    · exact ⟨child, member, inner, inside, reads⟩
  · rintro ⟨child, member, inner, inside, reads⟩
    exact ⟨inner, .inr ⟨child, member, inside⟩, reads⟩

theorem subjectUses {property : String} (leaf : node.children = [])
    (about : node.subject? context.parameters.defaultField = some property)
    (ok : context.translate node = .ok query) :
    name ∈ query.uses ↔ context.ReadsWithin node name := by
  obtain ⟨field, names, builds⟩ := subjectBuilds about ok
  rw [buildsUse builds, readsLeaf leaf, nodeReadsSubject about names]

theorem joinedUse {queries : List Query} (none : ¬ context.NodeReads node name)
    (each : node.children.mapM context.translate = .ok queries)
    (below : ∀ child ∈ node.children, ∀ query, context.translate child = .ok query →
      (name ∈ query.uses ↔ context.ReadsWithin child name)) :
    name ∈ queries.flatMap Query.uses ↔ context.ReadsWithin node name := by
  rw [List.mem_flatMap, readsJoined none]
  exact (mapMeans below each).1

theorem translateUses {predicate : Predicate} {query : Query}
    (ok : context.translate predicate = .ok query) :
    name ∈ query.uses ↔ context.ReadsWithin predicate name := by
  induction predicate using Predicate.inductBelow generalizing query with
  | step predicate ih =>
    have below (child : Predicate) (member : child ∈ predicate.children) (query : Query)
        (done : context.translate child = .ok query) :
        name ∈ query.uses ↔ context.ReadsWithin child name := ih child member done
    cases predicate with
    | all children =>
      rw [translateConjunction] at ok
      obtain ⟨queries, each, built⟩ := bindSucceeds.mp ok
      cases built
      rw [Query.usesAllOf]
      exact joinedUse (by rintro ⟨⟩; contradiction) each below
    | any children =>
      by_cases empty : children = []
      · subst empty
        contradiction
      rw [translateDisjunction empty] at ok
      obtain ⟨queries, each, built⟩ := bindSucceeds.mp ok
      cases built
      rw [Query.usesAnyOf]
      exact joinedUse (by rintro ⟨⟩; contradiction) each below
    | not child =>
      obtain ⟨excluded, inner, built⟩ := bindSucceeds.mp ok
      cases built
      rw [Query.usesNegate, readsJoined (by rintro ⟨⟩; contradiction)]
      simpa [Predicate.children] using below child List.mem_cons_self excluded inner
    | compare _ _ _ | oneOf _ _ _ | like _ _ _ | present _ | absent _ | fullText _ _ =>
      exact subjectUses rfl rfl ok
    | inFolder folder =>
      cases ok
      rw [readsLeaf rfl, nodeReadsFolder]
      exact List.mem_singleton
    | isType type =>
      rw [readsLeaf rfl, nodeReadsType]
      exact isTypeUses ok

theorem filtersUse :
    name ∈ (context.tenantFilter ++ context.clientFilter).flatMap (fun clause => clause.2.uses) ↔
      (context.tenant.active = true ∧ name = ReservedField.tenant.name) ∨
        ∃ client, context.client = some client ∧ name = ReservedField.hidden.name := by
  unfold Context.tenantFilter Context.clientFilter
  cases context.tenant.active <;> cases context.client <;>
    simp [Query.uses, Query.leaves, Query.parts, Query.isJoined, Query.field?]

theorem confineUses :
    (context.confine query).uses =
      query.uses ++ (context.tenantFilter ++ context.clientFilter).flatMap fun clause =>
        clause.2.uses := by
  unfold Context.confine
  split
  · rename_i none
    simp [none]
  · rw [Query.usesBoolean, List.flatMap_cons]

theorem needsIff :
    context.Needs predicate name ↔ context.ReadsWithin predicate name ∨
      (context.tenant.active = true ∧ name = ReservedField.tenant.name) ∨
        ∃ client, context.client = some client ∧ name = ReservedField.hidden.name := by
  constructor
  · rintro (within | active | known)
    · exact .inl within
    · exact .inr (.inl ⟨active, rfl⟩)
    · exact .inr (.inr ⟨_, known, rfl⟩)
  · rintro (within | ⟨active, rfl⟩ | ⟨client, known, rfl⟩)
    · exact .condition within
    · exact .tenant active
    · exact .client known

theorem directionAsked (term : SortTerm) :
    Context.directionOf term = .ascending ↔ term.ascending = true := by
  cases up : term.ascending <;> simp [Context.directionOf, up]

theorem translateSortSortsBy {term : SortTerm} {sorted : SortField}
    (ok : context.translateSort term = .ok sorted) : context.SortsBy term sorted := by
  obtain ⟨key, ascending⟩ := term
  cases key with
  | score =>
    cases ok
    exact .score (directionAsked _)
  | property property =>
    cases names : context.resolver.resolve property none with
    | error fault => simp [Context.translateSort, names] at ok
    | ok field =>
      by_cases content : field.type = .content
      · simp [Context.translateSort, names, content] at ok
      obtain ⟨first, rest, fields⟩ := List.exists_cons_of_ne_nil (namesSomeField names)
      have sorts : context.translateSort ⟨.property property, ascending⟩ =
          .ok (.field first (Context.directionOf ⟨.property property, ascending⟩)) := by
        simp [Context.translateSort, names, content, fields]
      cases sorts.symm.trans ok
      exact .property (directionAsked _) names fields

/- The fields that are read are those of the names in the request, and those that confine it. -/
theorem compiledReads {predicate : Predicate} {sort : List SortTerm} {compiled : CompiledQuery}
    (ok : context.compile predicate sort = .ok compiled) :
    context.ReadsJust predicate sort compiled := by
  obtain ⟨query, translated, more⟩ := bindSucceeds.mp ok
  obtain ⟨fields, sorted, built⟩ := bindSucceeds.mp more
  cases built
  constructor
  · intro node inside property about
    obtain ⟨part, done⟩ := nodesCompile ⟨query, translated⟩ node inside
    obtain ⟨field, names, -⟩ := subjectBuilds about done
    exact ⟨field, names⟩
  · intro name
    rw [Query.memFields, confineUses, List.mem_append, translateUses translated, filtersUse,
      needsIff]
  · exact (mapSucceeds.mp sorted).imp fun _ _ one => translateSortSortsBy one

/- Each kind of field is read: those of a title in its languages also where they are excluded. -/
def reportsAtHome : Predicate :=
  .all [.isType "c:document", .fullText none "tax", .inFolder "home",
    .not (.like "c:title" "a%" true)]

def titleStart : List (Occur × Query) :=
  [(.should, .wildcard "@\x7burn:c\x7dtitle.en_GB" "a*"),
    (.should, .wildcard "@\x7burn:c\x7dtitle.en" "a*"),
    (.should, .wildcard "@\x7burn:c\x7dtitle" "a*")]

def reportsAtHomeQuery : Query :=
  .boolean [
    (.must, .boolean [
      (.must, .boolean [(.should, .term "TYPE" "\x7burn:c\x7ddocument"),
        (.should, .term "TYPE" "\x7burn:c\x7dreport")] 1),
      (.must, .term "TEXT" "tax"),
      (.must, .term "PARENT" "home"),
      (.must, .negate (.boolean [(.must, .boolean titlePresence 1),
        (.mustNot, .boolean titleStart 1)] 0))] 0),
    (.must, .term "TENANT" "acme"), (.mustNot, .term "HIDDEN" "cmis")] 0

section Evaluation
set_option maxRecDepth 100000

theorem reportsAtHomeRead :
    library.compile reportsAtHome [⟨.property "c:title", false⟩, ⟨.score, true⟩] =
      .ok ⟨reportsAtHomeQuery,
        [.field "@\x7burn:c\x7dtitle.en_GB" .descending, .score .ascending], 0⟩ ∧
    reportsAtHomeQuery.fields = ["TYPE", "TEXT", "PARENT", "@\x7burn:c\x7dtitle.en_GB",
      "@\x7burn:c\x7dtitle.en", "@\x7burn:c\x7dtitle", "TENANT", "HIDDEN"] ∧
    library.Needs reportsAtHome "@\x7burn:c\x7dtitle.en" ∧ ¬ library.Needs reportsAtHome "ID" := by
  have ok : library.compile reportsAtHome [⟨.property "c:title", false⟩, ⟨.score, true⟩] =
      .ok ⟨reportsAtHomeQuery,
        [.field "@\x7burn:c\x7dtitle.en_GB" .descending, .score .ascending], 0⟩ := by cbv
  have listed : reportsAtHomeQuery.fields = ["TYPE", "TEXT", "PARENT",
      "@\x7burn:c\x7dtitle.en_GB", "@\x7burn:c\x7dtitle.en", "@\x7burn:c\x7dtitle", "TENANT",
      "HIDDEN"] := by cbv
  have just := compiledReads ok
  refine ⟨ok, listed, (just.fields _).mp ?_, fun needed => ?_⟩
  · rw [listed]
    simp
  · have read := (just.fields _).mpr needed
    rw [listed] at read
    simp at read

end Evaluation

end QueryFederation.Compile
