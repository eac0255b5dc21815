import Mathlib
import QueryFederation.Proofs.Compile.Resolution
import QueryFederation.Proofs.Order
import QueryFederation.Proofs.Schema.Spelling

/-! The own fields of properties. Different properties have different ones. The field of a locale is
not told apart from the own field of a property whose name goes on with a dot and that locale. -/
namespace QueryFederation.Schema

/- The name that goes on with a dot and more. -/
def QualifiedName.dotted (name : QualifiedName) (more : String) : QualifiedName :=
  ⟨name.space, name.localName ++ "." ++ more⟩

theorem textParts {name : QualifiedName} (closed : '}' ∉ name.space.toList) :
    name.text.toList.tail.span (· ≠ '}') = (name.space.toList, '}' :: name.localName.toList) := by
  have inside : ∀ c ∈ name.space.toList, decide (c ≠ '}') = true := by
    intro c member
    simp only [decide_eq_true_eq]
    exact fun brace => closed (brace ▸ member)
  have parts := spanStops name.localName.toList inside (show decide ('}' ≠ '}') = false by decide)
  simpa [QualifiedName.text] using parts

/- The namespace ends at the first closing brace. -/
theorem textSame {p q : QualifiedName} (closed : '}' ∉ p.space.toList)
    (also : '}' ∉ q.space.toList) : p.text = q.text ↔ p = q := by
  constructor
  · intro same
    have parts := textParts closed
    rw [same, textParts also, Prod.mk.injEq, List.cons.injEq] at parts
    obtain ⟨spaces, -, names⟩ := parts
    cases p
    cases q
    simp only [QualifiedName.mk.injEq]
    exact ⟨(String.toList_inj.mp spaces).symm, (String.toList_inj.mp names).symm⟩
  · exact congrArg QualifiedName.text

end QueryFederation.Schema

namespace QueryFederation.Compile
open Request Schema

variable {p q : QualifiedName}

theorem ownFieldSame (closed : '}' ∉ p.space.toList) (also : '}' ∉ q.space.toList) :
    propertyField p = propertyField q ↔ p = q := by
  simp [propertyField, textSame closed also]

theorem dottedField (p : QualifiedName) (more : String) :
    propertyField (p.dotted more) = propertyField p ++ "." ++ more := by
  simp [propertyField, QualifiedName.text, QualifiedName.dotted, String.append_assoc]

theorem localeFieldDotted (p : QualifiedName) (locale : Request.Locale) :
    FieldResolver.localeField (propertyField p) locale = propertyField (p.dotted locale.text) :=
  (dottedField p locale.text).symm

theorem indexedDotted {resolver : FieldResolver} {field : String} :
    field ∈ resolver.indexedLocales (propertyField p) ↔
      field ∈ resolver.indexed ∧ ∃ more, field = propertyField (p.dotted more) := by
  rw [FieldResolver.indexedLocales, List.mem_mergeSort, List.mem_filter,
    List.isPrefixOf_iff_prefix]
  refine and_congr_right fun _ => ⟨?_, ?_⟩
  · rintro ⟨rest, whole⟩
    refine ⟨String.ofList rest, ?_⟩
    rw [dottedField]
    apply String.ext
    simpa using whole.symm
  · rintro ⟨more, rfl⟩
    simp only [dottedField, String.toList_append]
    exact List.prefix_append _ _

/- The properties whose own field a mode reads in place of a locale of this one. -/
def FieldResolver.Meets (resolver : FieldResolver) (p q : QualifiedName) : LanguageMode → Prop
  | .exactLocale => q = p.dotted resolver.locale.text
  | .localeOnly | .localeAndAll =>
    q = p.dotted resolver.locale.text ∨ q = p.dotted resolver.locale.languageOnly.text
  | .allLanguages => (∃ more, q = p.dotted more) ∧ propertyField q ∈ resolver.indexed
  | .allOnly => False

section
variable (closed : '}' ∉ p.space.toList) (also : '}' ∉ q.space.toList)
include closed also

theorem ownFieldDotted (more : String) :
    propertyField q = propertyField (p.dotted more) ↔ q = p.dotted more :=
  ownFieldSame also (show '}' ∉ (p.dotted more).space.toList from closed)

theorem modeFieldsMeet (other : p ≠ q) {resolver : FieldResolver} {mode : LanguageMode} :
    propertyField q ∈ resolver.modeFields (propertyField p) mode ↔ resolver.Meets p q mode := by
  have apart : propertyField q ≠ propertyField p :=
    fun same => other ((ownFieldSame also closed).mp same).symm
  cases mode with
  | exactLocale | localeOnly | localeAndAll =>
    simp [FieldResolver.modeFields, FieldResolver.Meets, localeFieldDotted,
      ownFieldDotted closed also, apart]
  | allLanguages =>
    simp [FieldResolver.modeFields, FieldResolver.Meets, indexedDotted,
      ownFieldDotted closed also, apart, and_comm]
  | allOnly => exact iff_of_false (fun inside => apart (List.mem_singleton.mp inside)) id

end

variable {resolver : FieldResolver} {logical : String} {mode : Option LanguageMode}
  {field : ResolvedField}

theorem resolvedFields (resolved : resolver.resolve logical mode = .ok field)
    (named : field.property = some p) :
    field.fields = resolver.fieldsOf p field.type (mode.getD resolver.mode) := by
  cases FieldResolver.resolveIff.mp resolved with
  | reserved known => contradiction
  | property free reads defined =>
    cases named
    rfl

theorem memFieldsOf {name : String} {type : DataType} {mode : LanguageMode} :
    name ∈ resolver.fieldsOf p type mode ↔
      if type.isMultilingual then name ∈ resolver.modeFields (propertyField p) mode
      else name = propertyField p := by
  unfold FieldResolver.fieldsOf
  split
  · rw [FieldResolver.localeFields, Order.memDropRuns]
  · exact List.mem_singleton

/- A property is looked for in the own field of another one exactly if it is multilingual and its name
goes on, in the other one, with a dot and a locale that the mode looks for. Where the mode looks for
every locale in the index, the own field of the other one passes for one of them if it is there. -/
theorem propertiesApart (resolved : resolver.resolve logical mode = .ok field)
    (named : field.property = some p) (closed : '}' ∉ p.space.toList)
    (also : '}' ∉ q.space.toList) (other : p ≠ q) :
    propertyField q ∈ field.fields ↔
      field.type.isMultilingual = true ∧ resolver.Meets p q (mode.getD resolver.mode) := by
  rw [resolvedFields resolved named, memFieldsOf]
  split
  · rename_i multilingual
    rw [modeFieldsMeet closed also other, and_iff_right multilingual]
  · rename_i single
    refine iff_of_false (fun same => ?_) fun both => single both.1
    exact other ((ownFieldSame also closed).mp same).symm

/- A title in any language, and two properties whose names begin with it. -/
def titles : FieldResolver where
  dictionary :=
    { properties := [(⟨"urn:c", "title"⟩, .mlText), (⟨"urn:c", "title.en"⟩, .text),
        (⟨"urn:c", "titles"⟩, .text)] }
  namespaces := { entries := [("c", "urn:c")] }
  indexed := ["@\x7burn:c\x7dtitle", "@\x7burn:c\x7dtitles", "@\x7burn:c\x7dtitle.fr"]
  mode := .localeAndAll
  locale := ⟨"en", none⟩

def everyTitle : ResolvedField :=
  ⟨some ⟨"urn:c", "title"⟩, ["@\x7burn:c\x7dtitle.fr", "@\x7burn:c\x7dtitle"], .mlText⟩

def englishTitles : ResolvedField :=
  ⟨some ⟨"urn:c", "title"⟩, ["@\x7burn:c\x7dtitle.en", "@\x7burn:c\x7dtitle"], .mlText⟩

theorem titlesApart :
    titles.resolve "c:title" (some .allLanguages) = .ok everyTitle ∧
      titles.dictionary.propertyType? ⟨"urn:c", "titles"⟩ = some .text ∧
      propertyField ⟨"urn:c", "titles"⟩ ∉ everyTitle.fields ∧
      titles.dictionary.propertyType? ⟨"urn:c", "title.en"⟩ = some .text ∧
      propertyField ⟨"urn:c", "title.en"⟩ ∉ everyTitle.fields := by
  have resolved : titles.resolve "c:title" (some .allLanguages) = .ok everyTitle := by cbv
  refine ⟨resolved, by decide, fun inside => ?_, by decide, fun inside => ?_⟩
  · have meets := (propertiesApart resolved rfl (by decide) (by decide) (by decide)).mp inside
    obtain ⟨-, ⟨more, same⟩, -⟩ := meets
    have names := congrArg (String.toList ∘ QualifiedName.localName) same
    simp [QualifiedName.dotted] at names
  · have meets := (propertiesApart resolved rfl (by decide) (by decide) (by decide)).mp inside
    obtain ⟨-, -, listed⟩ := meets
    exact absurd listed (by decide)

/- The own field of the second property is the English one of the first. -/
theorem englishTitleShared :
    titles.dictionary.propertyType? ⟨"urn:c", "title"⟩ = some .mlText ∧
      titles.dictionary.propertyType? ⟨"urn:c", "title.en"⟩ = some .text ∧
      titles.resolve "c:title" none = .ok englishTitles ∧
      propertyField ⟨"urn:c", "title.en"⟩ ∈ englishTitles.fields := by
  have resolved : titles.resolve "c:title" none = .ok englishTitles := by cbv
  exact ⟨by decide, by decide, resolved, by decide⟩

end QueryFederation.Compile
