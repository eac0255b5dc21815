import Mathlib
import QueryFederation.Proofs.Compile.Simulation
import QueryFederation.Proofs.Schema.Spelling

/-! Requests that spell names in different ways are one request. The names of reserved fields are
looked up as they stand, before any are resolved, so that they have a single spelling. -/
namespace QueryFederation.Compile
open Request Schema Index

inductive SameName (table : Namespaces) : String → String → Prop where
  | equal (name : String) : SameName table name name
  | spelled {name other : String} {meant : QualifiedName}
      (reads : QualifiedName.resolve table name = .ok meant)
      (also : QualifiedName.resolve table other = .ok meant) : SameName table name other

inductive SameProperty (table : Namespaces) : String → String → Prop where
  | equal (name : String) : SameProperty table name name
  | spelled {name other : String} (free : ∀ field : ReservedField, field.name ≠ name)
      (others : ∀ field : ReservedField, field.name ≠ other) (same : SameName table name other) :
      SameProperty table name other

theorem notReserved {name : String} (free : ∀ field : ReservedField, field.name ≠ name) :
    ReservedField.ofName? name = none := by
  rw [ReservedField.ofName?, List.find?_eq_none]
  intro field _
  simpa using free field

def identical : Likeness := ⟨Eq, Eq, Eq⟩

theorem identicalKept : identical.Kept where
  type same := congrArg ResolvedField.type same
  across same leaf := congrArg (ResolvedField.across · leaf.on) same
  without same queries := by
    cases same
    exact congrArg _ (List.forall₂_eq_eq_eq ▸ queries)
  anyOf queries := congrArg Query.anyOf (List.forall₂_eq_eq_eq ▸ queries)
  allOf queries := congrArg Query.allOf (List.forall₂_eq_eq_eq ▸ queries)
  negate same := congrArg Query.negate same
  self _ := rfl
  key same _ := by
    cases same
    rfl
  score _ := rfl

theorem identicalCompiled {compiled mirror : CompiledQuery}
    (alike : identical.compiled compiled mirror) : compiled = mirror := by
  obtain ⟨query, fields, generation⟩ := alike
  have sort : compiled.sort = mirror.sort := List.forall₂_eq_eq_eq ▸ fields
  cases compiled
  cases mirror
  cases query
  cases sort
  cases generation
  rfl

theorem spellingParallel (context : Context) :
    Parallel identical (SameProperty context.resolver.namespaces)
      (SameName context.resolver.namespaces) context context where
  fields property := by
    obtain _ | ⟨free, others, _ | ⟨reads, also⟩⟩ := property
    · exact togetherSelf (fun _ => rfl) _
    · exact togetherSelf (fun _ => rfl) _
    · unfold FieldResolver.resolve
      rw [notReserved free, notReserved others]
      dsimp only
      rw [reads, also]
      dsimp only
      split
      · exact .error _ _
      · exact .ok rfl
  types type := by
    obtain _ | ⟨reads, also⟩ := type
    · exact togetherSelf (fun _ => rfl) _
    · rw [reads, also]
      exact .ok rfl
  hierarchy := rfl
  unnamed := .equal _
  operator := rfl
  leading := rfl
  confined same := congrArg context.confine same
  generation := rfl

theorem respelledCompiles {context : Context} {predicate other : Predicate}
    {sort others : List SortTerm}
    (respelled : Respelled (SameProperty context.resolver.namespaces)
      (SameName context.resolver.namespaces) predicate other)
    (ordered : List.Forall₂ (RespelledTerm (SameProperty context.resolver.namespaces)) sort
      others) :
    Together Eq (context.compile predicate sort) (context.compile other others) :=
  togetherWeaken (compileTogether identicalKept (spellingParallel context) respelled ordered)
    fun _ _ => identicalCompiled

/- The names of a request may be spelled in any way. A property or a type goes by its label, by its
whole address and, in the namespace of the empty label, by its local name alone where that looks
like nothing else. -/
theorem spellingsAgree :
    (∀ (context : Context) {predicate other : Predicate} {sort others : List SortTerm},
      Respelled (SameProperty context.resolver.namespaces)
        (SameName context.resolver.namespaces) predicate other →
      List.Forall₂ (RespelledTerm (SameProperty context.resolver.namespaces)) sort others →
      Together Eq (context.compile predicate sort) (context.compile other others)) ∧
    ∀ (table : Namespaces) {label address name : String},
      IsLabel label → table.address? label = some address → '}' ∉ address.toList →
      IsLine name → EndsPlain name →
      QualifiedName.resolve table (label ++ ":" ++ name) = .ok ⟨address, name⟩ ∧
      QualifiedName.resolve table ("\x7b" ++ address ++ "\x7d" ++ name) = .ok ⟨address, name⟩ ∧
      (table.address? "" = some address → name.toList.head? ≠ some '{' → StartsPlain name →
        ¬ Labelled name → QualifiedName.resolve table name = .ok ⟨address, name⟩) := by
  constructor
  · intro context _ _ _ _ respelled ordered
    exact respelledCompiles respelled ordered
  · intro table label address name isLabel registered closed line ends
    refine ⟨labelledResolves isLabel line ends registered, qualifiedResolves closed line ends, ?_⟩
    intro bare unbraced starts unlabelled
    exact bareResolves line starts ends unbraced unlabelled bare

def bookcase : Context :=
  Context.new
    { types := { decls := [⟨⟨"urn:c", "book"⟩, none⟩] }
      properties := [(⟨"urn:c", "due on"⟩, .id)] }
    { entries := [("c", "urn:c"), ("", "urn:c")] } .single {} .allOnly {}

def dueBooks : CompiledQuery :=
  { query := .boolean [(.must, .present "@\x7burn:c\x7ddue on"),
      (.must, .term "TYPE" "\x7burn:c\x7dbook")] 0
    sort := [.field "@\x7burn:c\x7ddue on" .ascending]
    generation := 0 }

theorem dueOnThreeSpellings :
    bookcase.compile (.all [.present "c:due on", .isType "book"])
        [⟨.property "\x7burn:c\x7ddue on", true⟩] = .ok dueBooks ∧
      bookcase.compile (.all [.present "due on", .isType "book"])
        [⟨.property "c:due on", true⟩] = .ok dueBooks := by
  obtain ⟨agree, reads⟩ := spellingsAgree
  have isLabel : IsLabel "c" := ⟨⟨'c', [], rfl, by decide⟩, by simp; decide⟩
  have ends : EndsPlain "due on" := by
    simpa [EndsPlain] using (show Unicode.isBlank 'n' = false by decide)
  have starts : StartsPlain "due on" := by
    simpa [StartsPlain] using (show Unicode.isBlank 'd' = false by decide)
  have unlabelled : ¬ Labelled "due on" := by
    rintro ⟨label, rest, -, -, same⟩
    have colon : ':' ∈ "due on".toList := by simp [same]
    exact absurd colon (by decide)
  obtain ⟨marked, braced, bare⟩ :=
    reads bookcase.resolver.namespaces isLabel rfl (by decide) ⟨by decide, by decide⟩ ends
  have unmarked := bare rfl (by decide) starts unlabelled
  have free (name : String) (lower : 'd' ∈ name.toList) (field : ReservedField) :
      field.name ≠ name := by
    rintro rfl
    cases field <;> exact absurd lower (by decide)
  have property : SameProperty bookcase.resolver.namespaces "c:due on" "due on" :=
    .spelled (free _ (by decide)) (free _ (by decide)) (.spelled marked unmarked)
  have key : SameProperty bookcase.resolver.namespaces "\x7burn:c\x7ddue on" "c:due on" :=
    .spelled (free _ (by decide)) (free _ (by decide)) (.spelled braced marked)
  have compiles : bookcase.compile (.all [.present "c:due on", .isType "book"])
      [⟨.property "\x7burn:c\x7ddue on", true⟩] = .ok dueBooks := by cbv
  have together := agree bookcase
    (.all (.cons (.present property) (.cons (.isType (.equal "book")) .nil)))
    (.cons (.property key true) .nil)
  obtain ⟨_, _, ok, also, rfl⟩ | ⟨⟨_, fails⟩, -⟩ := togetherEnds.mp together
  · cases compiles.symm.trans ok
    exact ⟨compiles, also⟩
  · cases compiles.symm.trans fails

end QueryFederation.Compile
