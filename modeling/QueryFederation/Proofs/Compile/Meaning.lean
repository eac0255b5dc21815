import Mathlib
import QueryFederation.Compile.Reading
import QueryFederation.Proofs.Success

/-! A compiled query holds exactly where the request it was compiled from is true, read as plain
logic, and the tenant and the client may see the entity. -/
namespace QueryFederation.Compile
open Request Schema Index

variable {context : Context} {truth : Query → Bool} {field : ResolvedField} {node : Predicate}

theorem demandsHoldMustNot (truth : Query → Bool) (queries : List Query) :
    Query.demandsHold truth (queries.map (.mustNot, ·)) = queries.all fun query =>
      !query.holds truth := by
  induction queries with
  | nil => rfl
  | cons query rest ih => simp [Query.demandsHold, ih]

theorem leafHolds (leaf : Leaf) (name : String) :
    (leaf.on name).holds truth = truth (leaf.on name) := by
  cases leaf <;> rfl

/- A disjunction over the fields of a property. -/
theorem acrossHolds (leaf : Leaf) :
    (field.across leaf.on).holds truth = true ↔ field.Finds truth leaf := by
  unfold ResolvedField.across ResolvedField.Finds
  rw [Query.holdsAnyOf, List.any_map, List.any_eq_true]
  simp only [Function.comp_apply, leafHolds]

theorem anyValueHolds : field.anyValue.holds truth = true ↔ field.Finds truth .present :=
  acrossHolds .present

theorem withoutHolds (excluded : List Query) :
    (field.without excluded).holds truth = true ↔
      field.Finds truth .present ∧ ∀ query ∈ excluded, query.holds truth = false := by
  simp [ResolvedField.without, Query.holds, Query.demandsHold, demandsHoldMustNot, anyValueHolds]

/- A literal has one place in the index, if it has any. -/
theorem standsUnique {value : Literal} {leaf other : Leaf} (left : field.Stands value leaf)
    (right : field.Stands value other) : leaf = other := by
  cases left <;> cases right <;> simp_all

theorem limitsUnique {value : Literal} {term other : String} (left : field.Limits value term)
    (right : field.Limits value other) : term = other := by
  cases left <;> cases right <;> simp_all

theorem encodedOk {value : Literal} {term : String}
    (ok : Context.encoded field value node = .ok term) : encode field.type value = .ok term := by
  unfold Context.encoded at ok
  split at ok
  · rename_i coded
    cases ok
    exact coded
  · contradiction

theorem phraseStands {value : Literal} {query : Query} (textual : field.type.isTextual = true)
    (found : field.phrase? (field.analyzer.terms value.plainText) = some query) :
    ∃ leaf, field.Stands value leaf ∧ query = field.across leaf.on := by
  match words : field.analyzer.terms value.plainText with
  | [] => simp [words, ResolvedField.phrase?] at found
  | [word] =>
    rw [words] at found
    cases found
    exact ⟨_, .word textual words, rfl⟩
  | first :: second :: rest =>
    rw [words] at found
    cases found
    exact ⟨_, .words textual words, rfl⟩

theorem equalsStands {value : Literal} {query : Query}
    (ok : Context.equals field value node = .ok query) :
    ∃ leaf, field.Stands value leaf ∧ query = field.across leaf.on := by
  unfold Context.equals at ok
  split at ok
  · contradiction
  split at ok
  · rename_i textual
    split at ok
    · rename_i found
      cases ok
      exact phraseStands textual found
    · contradiction
  · rename_i bare
    obtain ⟨term, coded, built⟩ := bindSucceeds.mp ok
    cases built
    exact ⟨.term term, .encoded (by simpa using bare) (encodedOk coded), rfl⟩

theorem equalsHolds {value : Literal} {query : Query}
    (ok : Context.equals field value node = .ok query) :
    query.holds truth = true ↔ field.Equals truth value := by
  obtain ⟨leaf, stands, rfl⟩ := equalsStands ok
  rw [acrossHolds]
  constructor
  · intro finds
    exact ⟨leaf, stands, finds⟩
  · rintro ⟨other, also, finds⟩
    rwa [standsUnique stands also]

theorem rangeTermLimits {value : Literal} {term : String}
    (ok : Context.rangeTerm field value node = .ok term) : field.Limits value term := by
  unfold Context.rangeTerm at ok
  split at ok
  · rename_i text
    cases ok
    exact .lowered text
  · rename_i other
    exact .encoded other (encodedOk ok)

theorem rangeHolds {op : Comparison} {value : Literal} {bounds : String → Bound × Bound}
    {query : Query} (ok : Context.range field op value node bounds = .ok query) :
    query.holds truth = true ↔ field.Within truth value bounds := by
  unfold Context.range at ok
  split at ok
  · contradiction
  obtain ⟨term, limit, built⟩ := bindSucceeds.mp ok
  cases built
  have limits := rangeTermLimits limit
  refine (acrossHolds (.range (bounds term).1 (bounds term).2)).trans ⟨fun finds => ⟨term, limits, finds⟩, ?_⟩
  rintro ⟨other, also, finds⟩
  rwa [limitsUnique limits also]

theorem compareHolds {op : Comparison} {value : Literal} {query : Query}
    (ok : Context.compare field op value node = .ok query) :
    query.holds truth = true ↔ field.Compares truth value op := by
  cases op with
  | eq => exact equalsHolds ok
  | ne =>
    obtain ⟨equal, same, built⟩ := bindSucceeds.mp ok
    cases built
    rw [withoutHolds, ResolvedField.Compares, ← equalsHolds same]
    simp
  | lt => exact rangeHolds ok
  | le => exact rangeHolds ok
  | gt => exact rangeHolds ok
  | ge => exact rangeHolds ok

theorem oneOfHolds {values : List Literal} {equal : List Query} {negated : Bool}
    (ok : values.mapM (fun value => Context.equals field value node) = .ok equal) :
    (if negated then field.without equal else Query.anyOf equal).holds truth = true ↔
      unlessNegated negated (∃ value ∈ values, field.Equals truth value)
        (field.Finds truth .present) := by
  have anyEqual : (∃ query ∈ equal, query.holds truth = true) ↔
      ∃ value ∈ values, field.Equals truth value :=
    (mapMeans (fun _ _ _ => equalsHolds) ok).1
  cases negated with
  | false => simp [unlessNegated, Query.holdsAnyOf, anyEqual]
  | true =>
    rw [if_pos rfl, withoutHolds, unlessNegated, if_pos rfl, ← anyEqual]
    simp

theorem likeAcross {pattern : String} {query : Query}
    (ok : context.like field pattern node = .ok query) :
    query = field.across (field.patternLeaf pattern).on := by
  unfold Context.like at ok
  split at ok
  · contradiction
  obtain ⟨-, -, built⟩ := bindSucceeds.mp ok
  cases built
  rfl

theorem likeHolds {pattern : String} {query : Query} {negated : Bool}
    (ok : context.like field pattern node = .ok query) :
    (if negated then field.without [query] else query).holds truth = true ↔
      unlessNegated negated (field.Finds truth (field.patternLeaf pattern))
        (field.Finds truth .present) := by
  cases likeAcross ok
  have holds : (field.across (field.patternLeaf pattern).on).holds truth = true ↔
      field.Finds truth (field.patternLeaf pattern) := acrossHolds _
  cases negated with
  | false => exact holds
  | true =>
    rw [if_pos rfl, withoutHolds, unlessNegated, if_pos rfl, ← holds]
    simp only [List.mem_singleton, forall_eq, Bool.not_eq_true]

theorem wordAcross {word : String} {query : Query} (ok : context.word field node word = .ok query) :
    query = field.across (wordLeaf word).on := by
  unfold Context.word at ok
  split at ok
  · rename_i wild
    obtain ⟨-, -, built⟩ := bindSucceeds.mp ok
    cases built
    rw [wordLeaf, if_pos wild]
    rfl
  · rename_i plain
    cases ok
    rw [wordLeaf, if_neg plain]
    rfl

theorem wordHolds {word : String} {query : Query} (ok : context.word field node word = .ok query) :
    query.holds truth = true ↔ field.Finds truth (wordLeaf word) := by
  rw [wordAcross ok, acrossHolds]

theorem fullTextHolds {text : String} {query : Query}
    (ok : context.fullText field text node = .ok query) :
    query.holds truth = true ↔ context.Contains truth field text := by
  unfold Context.fullText at ok
  dsimp only at ok
  split at ok
  · contradiction
  obtain ⟨queries, each, built⟩ := bindSucceeds.mp ok
  cases built
  have same (word : String) (query : Query) (one : context.word field node word = .ok query) :
      query.holds truth = true ↔ field.Finds truth (wordLeaf word) := wordHolds one
  obtain ⟨some, every⟩ := mapMeans (fun word _ => same word) each
  unfold Context.Contains
  cases context.parameters.operator with
  | or => simpa only [Context.joinWords, Query.holdsAnyOf, List.any_eq_true] using some
  | and => simpa only [Context.joinWords, Query.holdsAllOf, List.all_eq_true] using every

theorem isTypeHolds {type : String} {query : Query} (ok : context.isType type node = .ok query) :
    query.holds truth = true ↔ context.Reads truth (.isType type) := by
  unfold Context.isType at ok
  split at ok
  · contradiction
  rename_i name resolved
  dsimp only at ok
  split at ok
  · cases ok
    rw [Query.holdsAnyOf, List.any_map, List.any_eq_true, Context.Reads]
    constructor
    · intro found
      exact ⟨name, resolved, found⟩
    · rintro ⟨other, also, found⟩
      cases resolved.symm.trans also
      exact found
  · contradiction

theorem resolveNames {property : String} (ok : context.resolve property node = .ok field) :
    context.Names property field := by
  unfold Context.resolve at ok
  split at ok
  · rename_i resolved
    cases ok
    exact resolved
  · contradiction

/- A name stands for one list of fields, so that the reading is about the field in hand. -/
theorem namedField {property : String} {claim : ResolvedField → Prop}
    (ok : context.resolve property node = .ok field) :
    (∃ other, context.Names property other ∧ claim other) ↔ claim field := by
  have names := resolveNames ok
  constructor
  · rintro ⟨other, also, known⟩
    cases names.symm.trans also
    exact known
  · intro known
    exact ⟨field, names, known⟩

mutual
theorem translateHolds {predicate : Predicate} {query : Query}
    (ok : context.translate predicate = .ok query) :
    query.holds truth = true ↔ context.Reads truth predicate := by
  match predicate with
  | .all children =>
    obtain ⟨queries, each, built⟩ := bindSucceeds.mp ok
    cases built
    rw [Query.holdsAllOf, Context.Reads]
    exact (translateAllHolds each).1
  | .any [] => contradiction
  | .any (child :: rest) =>
    obtain ⟨first, head, more⟩ := bindSucceeds.mp ok
    obtain ⟨queries, each, built⟩ := bindSucceeds.mp more
    cases built
    rw [Query.holdsAnyOf, List.any_cons, Bool.or_eq_true, Context.Reads, Context.ReadsAny]
    exact or_congr (translateHolds head) (translateAllHolds each).2
  | .not child =>
    obtain ⟨excluded, inner, built⟩ := bindSucceeds.mp ok
    cases built
    rw [Query.holdsNegate, Context.Reads, ← translateHolds inner]
    simp
  | .compare property op value =>
    obtain ⟨field, resolved, compared⟩ := bindSucceeds.mp ok
    rw [Context.Reads, namedField resolved]
    exact compareHolds compared
  | .oneOf property values negated =>
    unfold Context.translate at ok
    dsimp only at ok
    split at ok
    · contradiction
    obtain ⟨field, resolved, more⟩ := bindSucceeds.mp ok
    obtain ⟨equal, each, built⟩ := bindSucceeds.mp more
    cases built
    rw [Context.Reads, namedField resolved]
    exact oneOfHolds each
  | .like property pattern negated =>
    obtain ⟨field, resolved, more⟩ := bindSucceeds.mp ok
    obtain ⟨query, liked, built⟩ := bindSucceeds.mp more
    cases built
    rw [Context.Reads, namedField resolved]
    exact likeHolds liked
  | .present property =>
    obtain ⟨field, resolved, built⟩ := bindSucceeds.mp ok
    cases built
    rw [Context.Reads, namedField resolved]
    exact anyValueHolds
  | .absent property =>
    obtain ⟨field, resolved, built⟩ := bindSucceeds.mp ok
    cases built
    rw [Query.holdsNegate, Context.Reads, namedField resolved, ← anyValueHolds]
    simp
  | .fullText property text =>
    obtain ⟨field, resolved, found⟩ := bindSucceeds.mp ok
    rw [Context.Reads, namedField resolved]
    exact fullTextHolds found
  | .inFolder folder =>
    cases ok
    rw [Context.Reads]
    rfl
  | .isType type => exact isTypeHolds ok

theorem translateAllHolds {children : List Predicate} {queries : List Query}
    (ok : context.translateAll children = .ok queries) :
    (queries.all (Query.holds truth) = true ↔ context.ReadsAll truth children) ∧
      (queries.any (Query.holds truth) = true ↔ context.ReadsAny truth children) := by
  match children with
  | [] =>
    cases ok
    simp [Context.ReadsAll, Context.ReadsAny]
  | child :: rest =>
    obtain ⟨first, head, more⟩ := bindSucceeds.mp ok
    obtain ⟨others, each, built⟩ := bindSucceeds.mp more
    cases built
    have one := translateHolds head
    obtain ⟨all, any⟩ := translateAllHolds each
    simp only [List.all_cons, List.any_cons, Bool.and_eq_true, Bool.or_eq_true, Context.ReadsAll,
      Context.ReadsAny]
    exact ⟨and_congr one all, or_congr one any⟩
end

theorem confineHolds (query : Query) :
    (context.confine query).holds truth = true ↔
      query.holds truth = true ∧ context.Sees truth := by
  unfold Context.confine Context.Sees Context.tenantFilter Context.clientFilter
  cases context.tenant.active <;> cases context.client <;>
    simp [Query.holds, Query.demandsHold]

theorem compiledQueryHolds {predicate : Predicate} {sort : List SortTerm} {compiled : CompiledQuery}
    (ok : context.compile predicate sort = .ok compiled) (truth : Query → Bool) :
    compiled.query.holds truth = true ↔ context.Reads truth predicate ∧ context.Sees truth := by
  obtain ⟨query, translated, more⟩ := bindSucceeds.mp ok
  obtain ⟨fields, -, built⟩ := bindSucceeds.mp more
  cases built
  rw [confineHolds, translateHolds translated]

/- Titles have a field for each language; the tenant and the client both restrict the request. -/
def archive : Context :=
  { Context.new { properties := [(⟨"urn:c", "title"⟩, .mlText), (⟨"urn:c", "owner"⟩, .id)] }
      { entries := [("c", "urn:c")] } (.ofDomain "acme") { locales := [⟨"en", some "GB"⟩] }
      .localeAndAll {} with
    client := some .cmis }

def titledByOthers : Predicate :=
  .not (.any [.absent "c:title", .oneOf "c:owner" [.id "ann", .id "bob"] true])

def titledByOthersQuery : Query :=
  .boolean [(.must, .negate (.anyOf [
      .negate (.anyOf [.present "@\x7burn:c\x7dtitle.en_GB", .present "@\x7burn:c\x7dtitle.en",
        .present "@\x7burn:c\x7dtitle"]),
      .boolean [(.must, .present "@\x7burn:c\x7downer"),
        (.mustNot, .term "@\x7burn:c\x7downer" "ann"),
        (.mustNot, .term "@\x7burn:c\x7downer" "bob")] 0])),
    (.must, .term "TENANT" "acme"), (.mustNot, .term "HIDDEN" "cmis")] 0

theorem titledByOthersHolds :
    archive.compile titledByOthers [] = .ok ⟨titledByOthersQuery, [], 0⟩ ∧
      ∀ truth, titledByOthersQuery.holds truth = true ↔
        archive.Reads truth titledByOthers ∧ archive.Sees truth := by
  have ok : archive.compile titledByOthers [] = .ok ⟨titledByOthersQuery, [], 0⟩ := by cbv
  exact ⟨ok, fun truth => compiledQueryHolds ok truth⟩

end QueryFederation.Compile
