import Mathlib
import QueryFederation.Proofs.Compile.DistinctFields
import QueryFederation.Proofs.Compile.Encoded
import QueryFederation.Proofs.Compile.Leaves
import QueryFederation.Proofs.Compile.Shape
import QueryFederation.Proofs.Text.PlainWords

/-! Full text against equality. Both cut a text into the same words. Equality looks for the encoded
term of any other value, full text for the value as it is written. -/
namespace QueryFederation.Compile
open Request Schema Index Pattern

/- The terms that are looked for one after the other. -/
def Leaf.words : Leaf → List String
  | .term text => [text]
  | .phrase terms => terms
  | _ => []

section Terms
variable {field : ResolvedField}

theorem leafTerms (leaf : Leaf) (name other : String) :
    (leaf.on other).termsIn name = if other = name then leaf.words else [] := by
  cases leaf <;> simp [Leaf.on, Leaf.words, Query.termsIn]

theorem termsOnce (leaf : Leaf) (name : String) {names : List String} (distinct : names.Nodup) :
    (names.map leaf.on).flatMap (Query.termsIn name) = if name ∈ names then leaf.words else [] := by
  rw [List.flatMap_map]
  simp only [leafTerms]
  induction names with
  | nil => rfl
  | cons first rest ih =>
    obtain ⟨fresh, others⟩ := List.nodup_cons.mp distinct
    rw [List.flatMap_cons, ih others]
    by_cases same : first = name
    · subst same
      simp [fresh]
    · simp [same, Ne.symm same]

theorem acrossSought (distinct : field.fields.Nodup) (leaf : Leaf) (name : String) :
    (field.across leaf.on).sought name = if name ∈ field.fields then leaf.words else [] := by
  rw [Query.sought, acrossLeaves, termsOnce leaf name distinct]

end Terms

variable {context : Context} {property text : String} {field : ResolvedField}
  {equal found : Query} {node : Predicate}

theorem joinedOne (operator : TermOperator) (query : Query) :
    Context.joinWords operator [query] = query := by
  cases operator <;> rfl

/- Without wildcards the words of an expression are those of a text. -/
theorem expressionTerms (plain : hasWildcard text = false) :
    (Context.expressionAnalyzer field.type).terms text = field.analyzer.terms text := by
  unfold Context.expressionAnalyzer ResolvedField.analyzer analyzerFor
  split
  · exact Text.wildcardTermsPlain plain
  · rfl

theorem wholeTerms (text : String) :
    Text.Analyzer.keyword.terms text = if text = "" then [] else [text] := by
  by_cases written : text = "" <;>
    simp [Text.Analyzer.terms, Text.Analyzer.analyze, Text.Analyzer.tokenizer,
      Text.Analyzer.lowercases, Text.Tokenizer.tokenize, written, Text.number, Text.Span.toToken]

theorem analyzedPlain (plain : hasWildcard text = false) {word : String}
    (inside : word ∈ field.analyzer.terms text) : hasWildcard word = false := by
  unfold ResolvedField.analyzer analyzerFor at inside
  split at inside
  · exact Text.termsPlain plain inside
  · rw [wholeTerms] at inside
    split at inside
    · contradiction
    · rwa [List.mem_singleton.mp inside]

theorem fullTextWordLeaves (ok : context.fullText field text node = .ok found) :
    found.leaves = ((Context.expressionAnalyzer field.type).terms text).flatMap fun word =>
      field.fields.map (wordLeaf word).on := by
  obtain ⟨worded, rfl⟩ := fullTextWords ok
  rw [joinedLeaves _ (by simpa using worded), List.flatMap_map]
  simp only [acrossLeaves]

theorem fullTextPlain (plain : hasWildcard text = false)
    (ok : context.fullText field text node = .ok found) :
    field.analyzer.terms text ≠ [] ∧
      found = Context.joinWords context.parameters.operator
        ((field.analyzer.terms text).map fun word => field.across (Leaf.term word).on) := by
  obtain ⟨worded, joined⟩ := fullTextWords ok
  rw [expressionTerms plain] at worded joined
  refine ⟨worded, joined.trans (congrArg _ (List.map_congr_left fun word inside => ?_))⟩
  rw [wordLeaf, if_neg (Bool.eq_false_iff.mp (analyzedPlain plain inside))]

theorem fullTextLeaves (plain : hasWildcard text = false)
    (ok : context.fullText field text node = .ok found) :
    found.leaves = (field.analyzer.terms text).flatMap fun word =>
      field.fields.map (Leaf.term word).on := by
  obtain ⟨worded, rfl⟩ := fullTextPlain plain ok
  rw [joinedLeaves _ (by simpa using worded), List.flatMap_map]
  simp only [acrossLeaves]

theorem fullTextSought (plain : hasWildcard text = false) (distinct : field.fields.Nodup)
    (ok : context.fullText field text node = .ok found) (name : String) :
    found.sought name = if name ∈ field.fields then field.analyzer.terms text else [] := by
  rw [Query.sought, fullTextLeaves plain ok, List.flatMap_assoc]
  simp only [termsOnce _ name distinct]
  split <;> simp [Leaf.words]

theorem fullTextTerms (plain : hasWildcard text = false)
    (ok : context.fullText field text node = .ok found) :
    ∀ leaf ∈ found.leaves, ∃ name term, leaf = .term name term := by
  intro leaf inside
  rw [fullTextLeaves plain ok] at inside
  simp only [List.mem_flatMap, List.mem_map] at inside
  obtain ⟨word, -, name, -, rfl⟩ := inside
  exact ⟨name, word, rfl⟩

/- There is a field to tell the two apart. -/
theorem soughtAlike (plain : hasWildcard text = false) (distinct : field.fields.Nodup)
    (filled : field.fields ≠ []) (ok : context.fullText field text node = .ok found)
    (leaf : Leaf) :
    (∀ name, found.sought name = (field.across leaf.on).sought name) ↔
      field.analyzer.terms text = leaf.words := by
  obtain ⟨first, member⟩ := List.exists_mem_of_ne_nil _ filled
  simp only [fullTextSought plain distinct ok, acrossSought distinct]
  constructor
  · intro same
    simpa [member] using same first
  · intro same name
    rw [same]

theorem translateExpression (property : Option String)
    (names : context.Names (property.getD context.parameters.defaultField) field) :
    context.translate (.fullText property text) =
      context.fullText field text (.fullText property text) := by
  have resolved : context.resolve (property.getD context.parameters.defaultField)
      (.fullText property text) = .ok field := by
    rw [Context.resolve, names]
  rw [Context.translate, resolved]
  rfl

theorem translateFullText (names : context.Names property field) :
    context.translate (.fullText (some property) text) =
      context.fullText field text (.fullText (some property) text) :=
  translateExpression (some property) names

theorem standsWords {leaf : Leaf} (stands : field.Stands (.text text) leaf)
    (worded : field.analyzer.terms text ≠ []) :
    field.analyzer.terms text = leaf.words ↔
      field.type.isTextual = true ∨ encode field.type (.text text) = .ok text := by
  cases stands with
  | word textual one => exact iff_of_true one (.inl textual)
  | words textual several => exact iff_of_true several (.inl textual)
  | encoded bare coded =>
    have keyword : field.analyzer = .keyword := by simp [ResolvedField.analyzer, analyzerFor, bare]
    rw [keyword, wholeTerms] at worded ⊢
    split at worded
    · contradiction
    · rename_i written
      rw [if_neg written, coded, Leaf.words]
      simp [bare, eq_comm]

theorem standsOne {value : Literal} {leaf : Leaf} (stands : field.Stands value leaf)
    (one : leaf.words.length ≤ 1) : ∃ term, leaf = .term term := by
  cases stands with
  | word => exact ⟨_, rfl⟩
  | words => simp [Leaf.words] at one
  | encoded => exact ⟨_, rfl⟩

/- Equality and full text look for the same terms in the same fields, if the property holds words or
the text is its own encoding. Where this is one term, they are the same query. -/
theorem fullTextAgrees (names : context.Names property field) (plain : hasWildcard text = false)
    (compared : context.translate (.compare property .eq (.text text)) = .ok equal)
    (searched : context.translate (.fullText (some property) text) = .ok found) :
    (∀ leaf ∈ found.leaves, ∃ name term, leaf = .term name term) ∧
    ((∀ name, found.sought name = equal.sought name) ↔
      field.type.isTextual = true ∨ encode field.type (.text text) = .ok text) ∧
    ((∀ name, found.sought name = equal.sought name) →
      (∀ name, (equal.sought name).length ≤ 1) → found = equal) := by
  rw [translateCompare names] at compared
  rw [translateFullText names] at searched
  have distinct := namesDistinct names
  have filled := namesSomeField names
  obtain ⟨leaf, stands, rfl⟩ := equalsStands compared
  obtain ⟨worded, joined⟩ := fullTextPlain plain searched
  have alike := soughtAlike plain distinct filled searched leaf
  refine ⟨fullTextTerms plain searched, alike.trans (standsWords stands worded), ?_⟩
  intro same short
  obtain ⟨first, member⟩ := List.exists_mem_of_ne_nil _ filled
  have one := short first
  rw [acrossSought distinct, if_pos member] at one
  obtain ⟨term, rfl⟩ := standsOne stands one
  rw [joined, alike.mp same]
  exact joinedOne _ _

/- Things with a title in several languages and a size. -/
def depot : Context :=
  Context.new { properties := [(⟨"urn:c", "title"⟩, .mlText), (⟨"urn:c", "size"⟩, .long)] }
    { entries := [("c", "urn:c")] } .single { operator := .and } .localeAndAll {}

def depotTitle : ResolvedField :=
  ⟨some ⟨"urn:c", "title"⟩, ["@\x7burn:c\x7dtitle.en", "@\x7burn:c\x7dtitle"], .mlText⟩

def titled (term : String) : Query := depotTitle.across fun name => .term name term

def titledAs (terms : List String) : Query := depotTitle.across fun name => .phrase name terms

section Evaluation
set_option maxRecDepth 100000

theorem numberSevenSought :
    depot.Names "c:title" depotTitle ∧ hasWildcard "No. 7" = false ∧
      depot.translate (.compare "c:title" .eq (.text "No. 7")) =
        .ok (titledAs ["no", "7"]) ∧
      depot.translate (.fullText (some "c:title") "No. 7") =
        .ok (.boolean [(.must, titled "no"), (.must, titled "7")] 0) ∧
      ∀ name, (Query.boolean [(.must, titled "no"), (.must, titled "7")] 0).sought name =
        (titledAs ["no", "7"]).sought name := by
  have names : depot.Names "c:title" depotTitle := by cbv
  have plain : hasWildcard "No. 7" = false := by decide
  have compared : depot.translate (.compare "c:title" .eq (.text "No. 7")) =
      .ok (titledAs ["no", "7"]) := by cbv
  have searched : depot.translate (.fullText (some "c:title") "No. 7") =
      .ok (.boolean [(.must, titled "no"), (.must, titled "7")] 0) := by cbv
  have agree := (fullTextAgrees names plain compared searched).2.1.mpr (.inl rfl)
  exact ⟨names, plain, compared, searched, agree⟩

def depotSize : ResolvedField := ⟨some ⟨"urn:c", "size"⟩, ["@\x7burn:c\x7dsize"], .long⟩

/- The term of a number is not the number as it is written. -/
theorem sizeFiveMissed :
    depot.translate (.compare "c:size" .eq (.text "5")) =
        .ok (.term "@\x7burn:c\x7dsize" "09223372036854775813") ∧
      depot.translate (.fullText (some "c:size") "5") =
        .ok (.term "@\x7burn:c\x7dsize" "5") ∧
      (Query.term "@\x7burn:c\x7dsize" "5").sought "@\x7burn:c\x7dsize" ≠
        (Query.term "@\x7burn:c\x7dsize" "09223372036854775813").sought "@\x7burn:c\x7dsize" := by
  have names : depot.Names "c:size" depotSize := by cbv
  have coded : encode .long (.text "5") = .ok "09223372036854775813" := by decide +kernel
  exact ⟨compareCoded names ⟨rfl, rfl⟩ rfl coded .eq, by cbv, by decide⟩

end Evaluation

end QueryFederation.Compile
