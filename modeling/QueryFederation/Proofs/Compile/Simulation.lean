import Mathlib
import QueryFederation.Compile.Reading
import QueryFederation.Proofs.Compile.Composite
import QueryFederation.Proofs.TwoRuns
import QueryFederation.Request.Respelling

/-! Two compilations side by side. The names in a request matter through what they are resolved to:
where these fields are alike, both requests fail, or both give queries that are alike. What it means
to be alike is left open; it must be kept by all ways to build queries. -/
namespace QueryFederation.Compile
open Request Schema Index

structure Likeness where
  alike : ResolvedField → ResolvedField → Prop
  same : Query → Query → Prop
  sorted : SortField → SortField → Prop

structure Likeness.Kept (likeness : Likeness) : Prop where
  type {field mirror} : likeness.alike field mirror → field.type = mirror.type
  across {field mirror} : likeness.alike field mirror → ∀ leaf : Leaf,
    likeness.same (field.across leaf.on) (mirror.across leaf.on)
  without {field mirror queries others} : likeness.alike field mirror →
    List.Forall₂ likeness.same queries others →
      likeness.same (field.without queries) (mirror.without others)
  anyOf {queries others} : List.Forall₂ likeness.same queries others →
    likeness.same (Query.anyOf queries) (Query.anyOf others)
  allOf {queries others} : List.Forall₂ likeness.same queries others →
    likeness.same (Query.allOf queries) (Query.allOf others)
  negate {query other} : likeness.same query other →
    likeness.same (Query.negate query) (Query.negate other)
  self (query : Query) : likeness.same query query
  key {field mirror} : likeness.alike field mirror → ∀ direction,
    likeness.sorted (.field (field.fields.headD "") direction)
      (.field (mirror.fields.headD "") direction)
  score (direction : Direction) : likeness.sorted (.score direction) (.score direction)

/- Names that may stand for one another resolve to fields that are alike, or do not resolve. -/
structure Parallel (likeness : Likeness) (named typed : String → String → Prop)
    (left right : Context) : Prop where
  fields {property other} : named property other → Together likeness.alike
    (left.resolver.resolve property none) (right.resolver.resolve other none)
  types {type other} : typed type other → Together Eq
    (QualifiedName.resolve left.resolver.namespaces type)
    (QualifiedName.resolve right.resolver.namespaces other)
  hierarchy : left.resolver.dictionary.types = right.resolver.dictionary.types
  unnamed : named left.parameters.defaultField right.parameters.defaultField
  operator : left.parameters.operator = right.parameters.operator
  leading : left.allowLeadingWildcard = right.allowLeadingWildcard
  confined {query other} : likeness.same query other →
    likeness.same (left.confine query) (right.confine other)
  generation : left.generation = right.generation

def Likeness.compiled (likeness : Likeness) (compiled other : CompiledQuery) : Prop :=
  likeness.same compiled.query other.query ∧
    List.Forall₂ likeness.sorted compiled.sort other.sort ∧
    compiled.generation = other.generation

section Fields
variable {likeness : Likeness} (kept : likeness.Kept) {field mirror : ResolvedField}
  (alike : likeness.alike field mirror) {node place : Predicate}

theorem encodedTogether (type : field.type = mirror.type) (value : Literal) :
    Together Eq (Context.encoded field value node) (Context.encoded mirror value place) := by
  unfold Context.encoded
  rw [type]
  split
  · exact .ok rfl
  · exact .error _ _

include kept alike

theorem equalsTogether (value : Literal) : Together likeness.same
    (Context.equals field value node) (Context.equals mirror value place) := by
  have type := kept.type alike
  have analyzer : field.analyzer = mirror.analyzer := congrArg analyzerFor type
  unfold Context.equals
  rw [type, analyzer]
  split
  · exact .error _ _
  split
  · match mirror.analyzer.terms value.plainText with
    | [] => exact .error _ _
    | [word] => exact .ok (kept.across alike (.term word))
    | first :: second :: rest => exact .ok (kept.across alike (.phrase (first :: second :: rest)))
  · refine togetherMap (encodedTogether type value) ?_
    rintro term _ rfl
    exact kept.across alike (.term term)

theorem rangeTogether (op : Comparison) (value : Literal) (bounds : String → Bound × Bound) :
    Together likeness.same (Context.range field op value node bounds)
      (Context.range mirror op value place bounds) := by
  have type := kept.type alike
  have terms : Together Eq (Context.rangeTerm field value node)
      (Context.rangeTerm mirror value place) := by
    unfold Context.rangeTerm
    rw [type]
    split
    · exact .ok rfl
    · exact encodedTogether type value
  unfold Context.range
  rw [type]
  split
  · exact .error _ _
  · refine togetherMap terms ?_
    rintro term _ rfl
    exact kept.across alike (.range (bounds term).1 (bounds term).2)

theorem compareTogether (op : Comparison) (value : Literal) : Together likeness.same
    (Context.compare field op value node) (Context.compare mirror op value place) := by
  unfold Context.compare
  cases op with
  | eq => exact equalsTogether kept alike value
  | ne =>
    exact togetherMap (equalsTogether kept alike value) fun _ _ same =>
      kept.without alike (.cons same .nil)
  | lt | le | gt | ge => exact rangeTogether kept alike _ value _

theorem oneOfTogether (values : List Literal) :
    Together (List.Forall₂ likeness.same)
      (values.mapM fun value => Context.equals field value node)
      (values.mapM fun value => Context.equals mirror value place) :=
  togetherMapM (List.forall₂_same.mpr fun value _ => equalsTogether kept alike value)

end Fields

section Contexts
variable {likeness : Likeness} (kept : likeness.Kept) {named typed : String → String → Prop}
  {left right : Context} (parallel : Parallel likeness named typed left right)
  {field mirror : ResolvedField} {node place : Predicate}

theorem eachTogether {children others : List Predicate}
    (each : List.Forall₂ (Respelled named typed) children others)
    (ih : ∀ child ∈ children, ∀ {other}, Respelled named typed child other →
      Together likeness.same (left.translate child) (right.translate other)) :
    Together (List.Forall₂ likeness.same) (children.mapM left.translate)
      (others.mapM right.translate) :=
  togetherMapM (((List.forall₂_and_left _ _).mpr ⟨ih, each⟩).imp fun _ _ both => both.1 both.2)

include parallel

theorem checkTogether (pattern : String) : Together Eq (left.checkLeading pattern node)
    (right.checkLeading pattern place) := by
  unfold Context.checkLeading
  rw [parallel.leading]
  split
  · exact .error _ _
  · exact .ok rfl

theorem resolveTogether {property other : String} (name : named property other) :
    Together likeness.alike (left.resolve property node) (right.resolve other place) := by
  unfold Context.resolve
  obtain ⟨field, mirror, ok, also, alike⟩ | ⟨⟨fault, fails⟩, reason, refused⟩ :=
    togetherEnds.mp (parallel.fields name)
  · rw [ok, also]
    exact .ok alike
  · rw [fails, refused]
    exact .error _ _

include kept

theorem likeTogether (alike : likeness.alike field mirror) (pattern : String) :
    Together likeness.same (left.like field pattern node) (right.like mirror pattern place) := by
  have type := kept.type alike
  have analyzer : field.analyzer = mirror.analyzer := congrArg analyzerFor type
  unfold Context.like
  rw [type, analyzer]
  split
  · exact .error _ _
  · exact togetherBind (checkTogether parallel _) fun _ _ _ =>
      .ok (kept.across alike (.wildcard _))

theorem wordTogether (alike : likeness.alike field mirror) (word : String) :
    Together likeness.same (left.word field node word) (right.word mirror place word) := by
  unfold Context.word
  split
  · exact togetherBind (checkTogether parallel _) fun _ _ _ =>
      .ok (kept.across alike (.wildcard word))
  · exact .ok (kept.across alike (.term word))

theorem fullTextTogether (alike : likeness.alike field mirror) (text : String) :
    Together likeness.same (left.fullText field text node)
      (right.fullText mirror text place) := by
  unfold Context.fullText
  rw [kept.type alike, parallel.operator]
  dsimp only
  split
  · exact .error _ _
  · refine togetherMap (togetherMapM (List.forall₂_same.mpr fun word _ =>
      wordTogether kept parallel alike word)) fun words others each => ?_
    cases right.parameters.operator with
    | or => exact kept.anyOf each
    | and => exact kept.allOf each

theorem isTypeTogether {type other : String} (name : typed type other) :
    Together likeness.same (left.isType type node) (right.isType other place) := by
  unfold Context.isType
  rw [parallel.hierarchy]
  obtain ⟨type, _, ok, also, rfl⟩ | ⟨⟨fault, fails⟩, reason, refused⟩ :=
    togetherEnds.mp (parallel.types name)
  · rw [ok, also]
    dsimp only
    split
    · exact .ok (kept.self _)
    · exact .error _ _
  · rw [fails, refused]
    exact .error _ _

theorem translateTogether {predicate other : Predicate}
    (respelled : Respelled named typed predicate other) :
    Together likeness.same (left.translate predicate) (right.translate other) := by
  induction predicate using Predicate.inductBelow generalizing other with
  | step predicate ih =>
    cases respelled with
    | all each =>
      rw [translateConjunction, translateConjunction]
      exact togetherMap (eachTogether each ih) fun _ _ => kept.allOf
    | any each =>
      have queries := eachTogether each ih
      cases each with
      | nil => exact .error _ _
      | cons =>
        rw [translateDisjunction (List.cons_ne_nil _ _),
          translateDisjunction (List.cons_ne_nil _ _)]
        exact togetherMap queries fun _ _ => kept.anyOf
    | @not child mirror one =>
      rw [translateNegation, translateNegation]
      exact togetherMap (ih child (List.mem_singleton_self child) one) fun _ _ => kept.negate
    | compare name op value =>
      rw [Context.translate, Context.translate]
      exact togetherBind (resolveTogether parallel name) fun _ _ alike =>
        compareTogether kept alike op value
    | oneOf name values negated =>
      rw [Context.translate, Context.translate]
      split
      · exact .error _ _
      · refine togetherBind (resolveTogether parallel name) fun _ _ alike => ?_
        refine togetherMap (oneOfTogether kept alike values) fun _ _ equal => ?_
        cases negated with
        | false => exact kept.anyOf equal
        | true => exact kept.without alike equal
    | like name pattern negated =>
      rw [Context.translate, Context.translate]
      refine togetherBind (resolveTogether parallel name) fun _ _ alike => ?_
      refine togetherMap (likeTogether kept parallel alike pattern) fun _ _ same => ?_
      cases negated with
      | false => exact same
      | true => exact kept.without alike (.cons same .nil)
    | present name =>
      rw [Context.translate, Context.translate]
      exact togetherMap (resolveTogether parallel name) fun _ _ alike =>
        kept.across alike .present
    | absent name =>
      rw [Context.translate, Context.translate]
      exact togetherMap (resolveTogether parallel name) fun _ _ alike =>
        kept.negate (kept.across alike .present)
    | fullText name text =>
      rw [Context.translate, Context.translate]
      exact togetherBind (resolveTogether parallel name) fun _ _ alike =>
        fullTextTogether kept parallel alike text
    | unnamedText text =>
      rw [Context.translate, Context.translate]
      exact togetherBind (resolveTogether parallel parallel.unnamed) fun _ _ alike =>
        fullTextTogether kept parallel alike text
    | inFolder folder => exact .ok (kept.self _)
    | isType name =>
      rw [Context.translate, Context.translate]
      exact isTypeTogether kept parallel name

theorem sortTogether {term other : SortTerm} (respelled : RespelledTerm named term other) :
    Together likeness.sorted (left.translateSort term) (right.translateSort other) := by
  cases respelled with
  | score ascending => exact .ok (kept.score _)
  | property name ascending =>
    unfold Context.translateSort
    dsimp only
    obtain ⟨field, mirror, ok, also, alike⟩ | ⟨⟨fault, fails⟩, reason, refused⟩ :=
      togetherEnds.mp (parallel.fields name)
    · rw [ok, also]
      dsimp only
      rw [kept.type alike]
      split
      · exact .error _ _
      · exact .ok (kept.key alike _)
    · rw [fails, refused]
      exact .error _ _

theorem compileTogether {predicate other : Predicate} {sort others : List SortTerm}
    (respelled : Respelled named typed predicate other)
    (ordered : List.Forall₂ (RespelledTerm named) sort others) :
    Together likeness.compiled (left.compile predicate sort) (right.compile other others) := by
  unfold Context.compile
  refine togetherBind (translateTogether kept parallel respelled) fun _ _ same => ?_
  have sorted := togetherMapM (ordered.imp fun _ _ => sortTogether kept parallel)
  exact togetherMap sorted fun _ _ fields => ⟨parallel.confined same, fields, parallel.generation⟩

end Contexts

end QueryFederation.Compile
