import Mathlib
import QueryFederation.Proofs.Compile.Composite
import QueryFederation.Proofs.Compile.Shape
import QueryFederation.Proofs.TwoRuns

/-! Patterns that start with a place for any character can be refused. Such a compilation accepts
exactly the requests whose query, as compiled without the restriction, has no such pattern in it,
and gives that query. -/
namespace QueryFederation.Index.Query

/- Every pattern in it, at any depth, starts with a character of its own, if it has one. -/
def Anchored (query : Query) : Prop :=
  ∀ field pattern, .wildcard field pattern ∈ query.parts →
    pattern.toList.head? ≠ some '*' ∧ pattern.toList.head? ≠ some '?'

theorem anchoredBoolean {clauses : List (Occur × Query)} {minimum : Nat} :
    (boolean clauses minimum).Anchored ↔ ∀ clause ∈ clauses, clause.2.Anchored := by
  constructor
  · intro anchored clause member field pattern inside
    exact anchored field pattern
      (List.mem_cons_of_mem _ (memClauseParts.mpr ⟨clause, member, inside⟩))
  · intro each field pattern inside
    obtain ⟨clause, member, deeper⟩ := memClauseParts.mp (by simpa [parts] using inside)
    exact each clause member field pattern deeper

theorem anchoredClauses (queries : List Query) {occur : Occur} {minimum : Nat} :
    (boolean (queries.map (occur, ·)) minimum).Anchored ↔ ∀ query ∈ queries, query.Anchored := by
  simp [anchoredBoolean]

theorem anchoredAnyOf {alternatives : List Query} :
    (anyOf alternatives).Anchored ↔ ∀ query ∈ alternatives, query.Anchored := by
  match alternatives with
  | [query] => simp [anyOf]
  | [] => exact anchoredClauses []
  | first :: second :: rest => exact anchoredClauses (first :: second :: rest)

theorem anchoredAllOf {queries : List Query} :
    (allOf queries).Anchored ↔ ∀ query ∈ queries, query.Anchored := by
  match queries with
  | [query] => simp [allOf]
  | [] => simp [allOf, Anchored, parts]
  | first :: second :: rest => exact anchoredClauses (first :: second :: rest)

theorem anchoredNegate {excluded : Query} : (negate excluded).Anchored ↔ excluded.Anchored := by
  have all : matchAll.Anchored := by simp [Anchored, parts]
  simp [negate, anchoredBoolean, all]

theorem anchoredWildcard {field pattern : String} :
    (wildcard field pattern).Anchored ↔ Pattern.startsWild pattern = false := by
  cases first : pattern.toList.head? <;>
    simp [Anchored, parts, Pattern.startsWild, Pattern.isWild, first]

end QueryFederation.Index.Query

namespace QueryFederation.Compile
open Request Schema Index

/- The same request with patterns that start with a wildcard allowed or not. -/
def Context.allowing (context : Context) (allowed : Bool) : Context :=
  { context with allowLeadingWildcard := allowed }

variable {context : Context} {field : ResolvedField} {node : Predicate}

theorem acrossAnchored {build : String → Query} :
    (field.across build).Anchored ↔ ∀ name ∈ field.fields, (build name).Anchored := by
  simp [ResolvedField.across, Query.anchoredAnyOf]

theorem withoutAnchored {excluded : List Query} :
    (field.without excluded).Anchored ↔ ∀ query ∈ excluded, query.Anchored := by
  have present : field.anyValue.Anchored :=
    acrossAnchored.mpr fun name _ => by simp [Query.Anchored, Query.parts]
  simp [ResolvedField.without, Query.anchoredBoolean, present]

/- Leaves other than patterns. -/
theorem leafAnchored (leaf : Leaf) (plain : ∀ pattern, leaf ≠ .wildcard pattern) :
    (field.across leaf.on).Anchored := by
  refine acrossAnchored.mpr fun name _ => ?_
  cases leaf with
  | wildcard pattern => exact absurd rfl (plain pattern)
  | _ => simp [Leaf.on, Query.Anchored, Query.parts]

theorem compareAnchored {op : Comparison} {value : Literal} {query : Query}
    (ok : Context.compare field op value node = .ok query) : query.Anchored := by
  obtain ⟨leaf, plain, rfl | rfl⟩ := compareAcross ok
  · exact leafAnchored leaf plain
  · exact withoutAnchored.mpr (List.forall_mem_singleton.mpr (leafAnchored leaf plain))

theorem equalListAnchored {values : List Literal} {equal : List Query}
    (ok : values.mapM (fun value => Context.equals field value node) = .ok equal) :
    ∀ query ∈ equal, query.Anchored := by
  obtain ⟨leaves, -, plain, rfl⟩ := findingsMap equalsAcross ok
  intro query member
  obtain ⟨leaf, inside, rfl⟩ := List.mem_map.mp member
  exact leafAnchored leaf (plain leaf inside)

theorem isTypeAnchored {type : String} {query : Query}
    (ok : context.isType type node = .ok query) : query.Anchored := by
  obtain ⟨types, -, rfl⟩ := isTypeChoice ok
  rw [Query.anchoredAnyOf]
  simp [Query.Anchored, Query.parts]

/- The check stands before the leaves that it is about: a pattern in the query is one that has
been checked. That a name has a field is what keeps a checked pattern in the query. -/
theorem checkedSieved (filled : field.fields ≠ []) (pattern : String) :
    Sieved Query.Anchored
      (do (context.allowing false).checkLeading pattern node
          return field.across fun name => .wildcard name pattern)
      (do (context.allowing true).checkLeading pattern node
          return field.across fun name => .wildcard name pattern) := by
  have anchored : (field.across fun name => .wildcard name pattern).Anchored ↔
      Pattern.startsWild pattern = false := by
    obtain ⟨name, member⟩ := List.exists_mem_of_ne_nil _ filled
    rw [acrossAnchored]
    exact ⟨fun each => Query.anchoredWildcard.mp (each name member),
      fun plain name _ => Query.anchoredWildcard.mpr plain⟩
  intro query
  cases starts : Pattern.startsWild pattern with
  | false =>
    simp only [Context.checkLeading, starts, Bool.and_false, Bool.false_eq_true, if_false]
    exact sievedSelf (fun value ok => by cases ok; exact anchored.mpr starts) query
  | true =>
    rw [starts] at anchored
    simp only [Context.checkLeading, Context.allowing, starts, reject]
    constructor
    · exact fun refused => nomatch refused
    · rintro ⟨accepted, good⟩
      cases accepted
      exact absurd (anchored.mp good) (by simp)

theorem likeSieved (filled : field.fields ≠ []) (pattern : String) :
    Sieved Query.Anchored ((context.allowing false).like field pattern node)
      ((context.allowing true).like field pattern node) := by
  unfold Context.like
  split
  · exact sievedSelf fun _ refused => nomatch refused
  · exact checkedSieved filled _

theorem wordSieved (filled : field.fields ≠ []) (word : String) :
    Sieved Query.Anchored ((context.allowing false).word field node word)
      ((context.allowing true).word field node word) := by
  unfold Context.word
  split
  · exact checkedSieved filled word
  · refine sievedSelf fun query ok => ?_
    cases ok
    exact leafAnchored (.term word) (by simp)

theorem joinedAnchored {operator : TermOperator} {words : List Query} :
    (Context.joinWords operator words).Anchored ↔ ∀ word ∈ words, word.Anchored := by
  cases operator with
  | or => exact Query.anchoredAnyOf
  | and => exact Query.anchoredAllOf

theorem fullTextSieved (filled : field.fields ≠ []) (text : String) :
    Sieved Query.Anchored ((context.allowing false).fullText field text node)
      ((context.allowing true).fullText field text node) := by
  unfold Context.fullText
  dsimp only
  split
  · exact sievedSelf fun _ refused => nomatch refused
  · exact sievedMap (sievedMapM fun word _ => wordSieved filled word) fun words _ =>
      joinedAnchored

theorem translateSieved (predicate : Predicate) :
    Sieved Query.Anchored ((context.allowing false).translate predicate)
      ((context.allowing true).translate predicate) := by
  induction predicate using Predicate.inductBelow with
  | step predicate ih =>
    cases predicate with
    | all children =>
      rw [translateConjunction, translateConjunction]
      exact sievedMap (sievedMapM ih) fun queries _ => Query.anchoredAllOf
    | any children =>
      by_cases empty : children = []
      · subst empty
        exact sievedSelf fun _ refused => nomatch refused
      · rw [translateDisjunction empty, translateDisjunction empty]
        exact sievedMap (sievedMapM ih) fun queries _ => Query.anchoredAnyOf
    | not child => exact sievedMap (ih child List.mem_cons_self) fun query _ => Query.anchoredNegate
    | compare property op value =>
      refine sievedSelf fun query ok => ?_
      obtain ⟨field, -, compared⟩ := bindSucceeds.mp ok
      exact compareAnchored compared
    | oneOf property values negated =>
      refine sievedSelf fun query ok => ?_
      unfold Context.translate at ok
      dsimp only at ok
      split at ok
      · contradiction
      obtain ⟨field, -, more⟩ := bindSucceeds.mp ok
      obtain ⟨equal, each, built⟩ := bindSucceeds.mp more
      cases built
      have anchored := equalListAnchored each
      cases negated with
      | false => exact Query.anchoredAnyOf.mpr anchored
      | true => exact withoutAnchored.mpr anchored
    | like property pattern negated =>
      refine sievedAfter fun field resolved => ?_
      refine sievedMap (likeSieved (resolvedFilled resolved) pattern) fun query _ => ?_
      cases negated with
      | false => exact Iff.rfl
      | true => simp [withoutAnchored]
    | present property =>
      refine sievedSelf fun query ok => ?_
      obtain ⟨field, -, built⟩ := bindSucceeds.mp ok
      cases built
      exact leafAnchored .present (by simp)
    | absent property =>
      refine sievedSelf fun query ok => ?_
      obtain ⟨field, -, built⟩ := bindSucceeds.mp ok
      cases built
      exact Query.anchoredNegate.mpr (leafAnchored .present (by simp))
    | fullText property text =>
      exact sievedAfter fun field resolved => fullTextSieved (resolvedFilled resolved) text
    | inFolder folder =>
      refine sievedSelf fun query ok => ?_
      cases ok
      simp [Query.Anchored, Query.parts]
    | isType type => exact sievedSelf fun query ok => isTypeAnchored ok

theorem confineAnchored (query : Query) :
    (context.confine query).Anchored ↔ query.Anchored := by
  unfold Context.confine Context.tenantFilter Context.clientFilter
  have term (field text : String) : (Query.term field text).Anchored := by
    simp [Query.Anchored, Query.parts]
  cases context.tenant.active <;> cases context.client <;> simp [Query.anchoredBoolean, term]

theorem compileSieved (context : Context) (predicate : Predicate) (sort : List SortTerm) :
    Sieved (fun compiled => compiled.query.Anchored)
      ((context.allowing false).compile predicate sort)
      ((context.allowing true).compile predicate sort) := by
  refine sievedBind (translateSieved predicate) fun query _ compiled => ?_
  constructor
  · rintro ⟨good, done⟩
    obtain ⟨fields, sorted, built⟩ := bindSucceeds.mp done
    cases built
    exact ⟨done, (confineAnchored query).mpr good⟩
  · rintro ⟨done, good⟩
    obtain ⟨fields, sorted, built⟩ := bindSucceeds.mp done
    cases built
    exact ⟨(confineAnchored query).mp good, done⟩

/- To refuse leading wildcards is to refuse the requests whose query has one, and nothing else. -/
theorem leadingWildcardsRefused (context : Context) (predicate : Predicate)
    (sort : List SortTerm) :
    (∀ compiled, (context.allowing false).compile predicate sort = .ok compiled ↔
      (context.allowing true).compile predicate sort = .ok compiled ∧ compiled.query.Anchored) ∧
    ∀ rejection, (context.allowing true).compile predicate sort = .error rejection →
      ∃ other, (context.allowing false).compile predicate sort = .error other := by
  have sieved := compileSieved context predicate sort
  refine ⟨sieved, fun rejection rejected => ?_⟩
  cases strict : (context.allowing false).compile predicate sort with
  | error other => exact ⟨other, rfl⟩
  | ok compiled =>
    have accepted := ((sieved compiled).mp strict).1
    exact absurd (rejected.symm.trans accepted) (by simp)

def desk : Context :=
  Context.new { properties := [(⟨"urn:c", "owner"⟩, .id)] } { entries := [("c", "urn:c")] }
    (.ofDomain "acme") {} .allOnly {}

def ownedByStar : Query :=
  .boolean [(.must, .wildcard "@\x7burn:c\x7downer" "\\*?*"), (.must, .term "TENANT" "acme")] 0

def notOwnedByMin : Query :=
  .boolean [(.must, .negate (.wildcard "@\x7burn:c\x7downer" "*min")),
    (.must, .term "TENANT" "acme")] 0

/- A star that stands for itself is no wildcard; one that a percent sign has become is, also where
it is excluded. What does not compile at all does not compile here. -/
theorem starsRefused :
    (desk.allowing false).compile (.like "c:owner" "*_%" false) [] = .ok ⟨ownedByStar, [], 0⟩ ∧
      (∀ compiled, (desk.allowing false).compile (.not (.like "c:owner" "%min" false)) [] ≠
        .ok compiled) ∧
      ∃ rejection, (desk.allowing false).compile (.like "c:size" "a%" false) [] =
        .error rejection := by
  refine ⟨?_, ?_, ?_⟩
  · have accepted : (desk.allowing true).compile (.like "c:owner" "*_%" false) [] =
        .ok ⟨ownedByStar, [], 0⟩ := by cbv
    refine ((leadingWildcardsRefused desk (.like "c:owner" "*_%" false) []).1 _).mpr ⟨accepted, ?_⟩
    simp [ownedByStar, Query.Anchored, Query.parts, Query.clauseParts]
  · intro compiled ok
    obtain ⟨accepted, anchored⟩ :=
      ((leadingWildcardsRefused desk (.not (.like "c:owner" "%min" false)) []).1 compiled).mp ok
    have lenient : (desk.allowing true).compile (.not (.like "c:owner" "%min" false)) [] =
        .ok ⟨notOwnedByMin, [], 0⟩ := by cbv
    cases accepted.symm.trans lenient
    have inside : .wildcard "@\x7burn:c\x7downer" "*min" ∈ notOwnedByMin.parts := by
      simp [notOwnedByMin, Query.negate, Query.parts, Query.clauseParts]
    exact absurd rfl (anchored _ _ inside).1
  · have unknown : (desk.allowing true).compile (.like "c:size" "a%" false) [] =
        .error (.unknownField "c:size") := by cbv
    exact (leadingWildcardsRefused desk (.like "c:size" "a%" false) []).2 _ unknown

end QueryFederation.Compile
