import Mathlib
import QueryFederation.Proofs.Compile.Meaning
import QueryFederation.Proofs.Compile.OneTerm
import QueryFederation.Proofs.Text.OneWord

/-! Equality against the bounds of ranges. Equality with a text looks for the word in it, the bounds
are the text as a whole in lower case; for all other values both are the same term. -/
namespace QueryFederation.Compile
open Request Schema Index

/- Between the bounds that are included and past neither of those that are not. -/
structure WithinBounds (query : Comparison → Query) (truth : Query → Bool) : Prop where
  atMost : (query .le).holds truth = true
  atLeast : (query .ge).holds truth = true
  notBelow : (query .lt).holds truth = false
  notAbove : (query .gt).holds truth = false

def EqualsWithinBounds (query : Comparison → Query) (name : String) : Prop :=
  ∀ truth term, OneTerm truth name term → (query .eq).holds truth = true →
    WithinBounds query truth

section Bounds
variable {query : Comparison → Query} {truth : Query → Bool} {name term limit : String}

/- Both bounds are one term, so that only this term lies on both. -/
theorem withinBounds (one : OneTerm truth name term)
    (ranges : ∀ op ∈ [Comparison.lt, .le, .gt, .ge], query op = comparisonQuery name limit op) :
    WithinBounds query truth ↔ term = limit := by
  have lies (op : Comparison) (ranging : op ∈ [Comparison.lt, .le, .gt, .ge]) :
      (query op).holds truth = true ↔ op.Relates term limit := by
    rw [ranges op ranging]
    exact comparisonHolds one limit op
  constructor
  · intro within
    exact le_antisymm ((lies .le (by simp)).mp within.atMost) ((lies .ge (by simp)).mp within.atLeast)
  · rintro rfl
    have apart (op : Comparison) (ranging : op ∈ [Comparison.lt, .le, .gt, .ge])
        (strict : ¬ op.Relates term term) : (query op).holds truth = false :=
      Bool.eq_false_iff.mpr fun holds => strict ((lies op ranging).mp holds)
    exact ⟨(lies .le (by simp)).mpr le_rfl, (lies .ge (by simp)).mpr le_rfl,
      apart .lt (by simp) (lt_irrefl term), apart .gt (by simp) (lt_irrefl term)⟩

theorem equalsWithinBounds
    (ranges : ∀ op ∈ [Comparison.lt, .le, .gt, .ge], query op = comparisonQuery name limit op) :
    EqualsWithinBounds query name ↔
      ∀ truth term, OneTerm truth name term → (query .eq).holds truth = true → term = limit := by
  refine forall₂_congr fun truth term => forall_congr' fun one => ?_
  rw [withinBounds one ranges]

end Bounds

variable {context : Context} {property : String} {field : ResolvedField} {value : Literal}

theorem comparesRanged {node : Predicate} {query : Query}
    (ok : Context.compare field .le value node = .ok query) : field.type.supportsRange = true := by
  rw [Context.compare, Context.range] at ok
  split at ok
  · contradiction
  · rename_i supported
    simpa using supported

theorem rangedEncodes {type : DataType} (ranged : type.supportsRange = true)
    (notText : type ≠ .text) : Encodes type where
  bare := by cases type <;> simp_all [DataType.isTextual, DataType.supportsRange,
    DataType.isNumeric, DataType.isTemporal]
  ranged := ranged

section Texts
variable (text : field.type = .text)
include text

theorem equalsText {node : Predicate} {query : Query} :
    Context.equals field value node = .ok query ↔
      field.phrase? (field.analyzer.terms value.plainText) = some query := by
  have textual : field.type.isTextual = true := by rw [text]; rfl
  have equality : field.type.supportsEquality = true := by rw [text]; rfl
  cases found : field.phrase? (field.analyzer.terms value.plainText) <;>
    simp [Context.equals, textual, equality, found, reject]

/- The query for each comparison, given the one for equality. -/
def textComparison (field : ResolvedField) (name limit : String) (equal : Query) :
    Comparison → Query
  | .eq => equal
  | .ne => field.without [equal]
  | op => comparisonQuery name limit op

theorem compareText (names : context.Names property field) {name : String}
    (only : field.fields = [name]) {equal : Query}
    (found : field.phrase? (field.analyzer.terms value.plainText) = some equal) (op : Comparison) :
    context.translate (.compare property op value) =
      .ok (textComparison field name (Unicode.lowerText value.plainText) equal op) := by
  have across := acrossOne only
  have equals (node : Predicate) : Context.equals field value node = .ok equal :=
    (equalsText text).mpr found
  have ranged : field.type.supportsRange = true := by rw [text]; rfl
  have limit (node : Predicate) : Context.rangeTerm field value node =
      .ok (Unicode.lowerText value.plainText) := if_pos text
  rw [translateCompare names]
  cases op with
  | eq => exact equals _
  | ne =>
    rw [Context.compare, equals]
    rfl
  | lt | le | gt | ge =>
    rw [Context.compare, Context.range, limit]
    simp [ranged, across, textComparison, comparisonQuery, bind, Except.bind, pure, Except.pure]

end Texts

/- A phrase is not found where there is one term, and a word is found there in lower case. -/
theorem textWithinBounds {name : String} (only : field.fields = [name]) {equal : Query}
    {limit : String}
    (found : field.phrase? (field.analyzer.terms value.plainText) = some equal) :
    EqualsWithinBounds (textComparison field name limit equal) name ↔
      ∀ word, field.analyzer.terms value.plainText = [word] → word = limit := by
  have ranges : ∀ op ∈ [Comparison.lt, .le, .gt, .ge],
      textComparison field name limit equal op = comparisonQuery name limit op := by
    simp [textComparison]
  have across := acrossOne only
  rw [equalsWithinBounds ranges]
  match terms : field.analyzer.terms value.plainText with
  | [] =>
    rw [terms] at found
    contradiction
  | [word] =>
    rw [terms, ResolvedField.phrase?, across] at found
    cases found
    constructor
    · rintro within other same
      cases same
      exact within _ _ (onlyOneTerm name word) (by simp [textComparison, Query.holds, Index.only])
    · intro same truth term one holds
      rw [← (one.equal word).mp holds]
      exact same word rfl
  | first :: second :: rest =>
    have phrase : field.phrase? (first :: second :: rest) =
        some (field.across fun name => .phrase name (first :: second :: rest)) := rfl
    rw [terms, phrase, across] at found
    cases found
    refine iff_of_true (fun truth term one holds => ?_) (by simp)
    have single := (one.words _).mp holds
    simp at single

/- Where equality and both included bounds compile, equality implies them, unless a text has but one
word and more than this word. -/
theorem equalityWithinBounds (names : context.Names property field)
    (compiles : ∀ op ∈ [Comparison.eq, .le, .ge],
      ∃ query, context.translate (.compare property op value) = .ok query) :
    ∃ name, field.fields = [name] ∧ ∃ query : Comparison → Query,
      (∀ op, context.translate (.compare property op value) = .ok (query op)) ∧
        (EqualsWithinBounds query name ↔
          (field.type = .text → ∀ word, field.analyzer.terms value.plainText = [word] →
            Text.IsWhole value.plainText.toList)) := by
  obtain ⟨equal, equals⟩ := compiles .eq (by simp)
  obtain ⟨atMost, ranges⟩ := compiles .le (by simp)
  have ranged := comparesRanged (translateCompare names .le ▸ ranges)
  by_cases text : field.type = .text
  · obtain ⟨name, only⟩ := namesOneField names (by rw [text]; rfl)
    have found := (equalsText text).mp (translateCompare names .eq ▸ equals)
    refine ⟨name, only, _, compareText text names only found, ?_⟩
    rw [textWithinBounds only found]
    have standard : field.analyzer = .standard := by rw [ResolvedField.analyzer, text]; rfl
    rw [standard]
    refine Iff.trans (forall₂_congr fun word one => Text.onlyTermWhole one) ?_
    exact ⟨fun whole _ => whole, fun whole => whole text⟩
  · have encodes := rangedEncodes ranged text
    obtain ⟨name, only⟩ := namesOneField names encodes.single
    obtain ⟨term, coded⟩ := (compareSucceeds names encodes .eq).mp ⟨equal, equals⟩
    refine ⟨name, only, fun op => comparisonQuery name term op,
      compareCoded names encodes only coded, iff_of_true ?_ fun same => absurd same text⟩
    rw [equalsWithinBounds fun _ _ => rfl]
    intro truth found one holds
    exact (comparisonHolds one term .eq).mp holds

def notes : Context :=
  Context.new { properties := [(⟨"urn:c", "name"⟩, .text)] } { entries := [("c", "urn:c")] }
    .single {} .allOnly {}

def noteNameField : ResolvedField :=
  ⟨some ⟨"urn:c", "name"⟩, ["@\x7burn:c\x7dname"], .text⟩

theorem notesName : notes.Names "c:name" noteNameField := by cbv

section Evaluation
set_option maxRecDepth 100000

theorem helloTerms (s : String) (either : s = "Hello" ∨ s = "hello!") :
    Text.Analyzer.standard.terms s = ["hello"] := by
  rcases either with rfl | rfl <;> cbv

theorem helloWhole : Text.IsWhole "Hello".toList := by
  unfold Text.IsWhole
  cbv

theorem helloLowered : Unicode.lowerText "hello!" = "hello!" := by cbv

end Evaluation

theorem helloCompared (s : String) (either : s = "Hello" ∨ s = "hello!") (op : Comparison) :
    notes.translate (.compare "c:name" op (.text s)) =
      .ok (textComparison noteNameField "@\x7burn:c\x7dname" (Unicode.lowerText s)
        (.term "@\x7burn:c\x7dname" "hello") op) := by
  refine compareText rfl notesName rfl ?_ op
  have terms : noteNameField.analyzer.terms (Literal.text s).plainText = ["hello"] :=
    helloTerms s either
  rw [terms]
  rfl

theorem helloWithinBounds :
    notes.Names "c:name" noteNameField ∧
      (∀ op ∈ [Comparison.eq, .le, .ge],
        ∃ query, notes.translate (.compare "c:name" op (.text "Hello")) = .ok query) ∧
      ∃ query : Comparison → Query,
        (∀ op, notes.translate (.compare "c:name" op (.text "Hello")) = .ok (query op)) ∧
          EqualsWithinBounds query "@\x7burn:c\x7dname" := by
  have compiles (op : Comparison) (_ : op ∈ [Comparison.eq, .le, .ge]) :
      ∃ query, notes.translate (.compare "c:name" op (.text "Hello")) = .ok query :=
    ⟨_, helloCompared "Hello" (.inl rfl) op⟩
  obtain ⟨name, only, query, compiled, bounds⟩ := equalityWithinBounds notesName compiles
  cases only
  exact ⟨notesName, compiles, query, compiled, bounds.mpr fun _ _ _ => helloWhole⟩

/- An entity named with just that word equals the text with the mark, and is not at least it. -/
theorem helloBelowItself :
    notes.translate (.compare "c:name" .eq (.text "hello!")) =
        .ok (.term "@\x7burn:c\x7dname" "hello") ∧
      notes.translate (.compare "c:name" .ge (.text "hello!")) =
        .ok (.range "@\x7burn:c\x7dname" (.included "hello!") .unbounded) ∧
      ∃ truth, OneTerm truth "@\x7burn:c\x7dname" "hello" ∧
        (Query.term "@\x7burn:c\x7dname" "hello").holds truth = true ∧
        (Query.range "@\x7burn:c\x7dname" (.included "hello!") .unbounded).holds truth = false := by
  have compared := helloCompared "hello!" (.inr rfl)
  rw [helloLowered] at compared
  refine ⟨compared .eq, compared .ge, _, onlyOneTerm _ _, ?_, ?_⟩
  · simp [Query.holds, Index.only]
  · have longer : ¬ "hello!" ≤ "hello" := by decide
    simp [Query.holds, Index.only, inRange, Bound.admitsFrom, longer]

end QueryFederation.Compile
