import Mathlib
import QueryFederation.Proofs.Compile.DistinctFields
import QueryFederation.Proofs.Compile.Resolution
import QueryFederation.Proofs.Compile.Shape
import QueryFederation.Proofs.Compile.Widening
import QueryFederation.Proofs.Index.ByteOrder

/-! The fields that a name stands for, mode by mode. There is at least one of them and none comes
twice; what a mode reads is read by every mode that reads more languages. -/
namespace QueryFederation.Compile
open Request Schema Index

/- The name of a field that goes on with a dot and a locale. -/
def Localizes (base name : String) : Prop := (base ++ ".").toList <+: name.toList

theorem localeFieldLocalizes (base : String) (locale : Request.Locale) :
    Localizes base (FieldResolver.localeField base locale) := by
  rw [Localizes, FieldResolver.localeField]
  simp only [String.toList_append]
  exact List.prefix_append _ _

namespace FieldResolver
variable {resolver : FieldResolver} {base name : String}

theorem memIndexedLocales :
    name ∈ resolver.indexedLocales base ↔ name ∈ resolver.indexed ∧ Localizes base name := by
  rw [indexedLocales, List.mem_mergeSort, List.mem_filter, List.isPrefixOf_iff_prefix, Localizes]

/- The fields of a property in each mode of reading its languages. -/
structure ByMode (resolver : FieldResolver) (base : String)
    (fields : LanguageMode → List String) : Prop where
  within : ∀ mode, ∀ name ∈ fields mode, name = base ∨ Localizes base name
  widens : ∀ {narrow wide}, narrow.Widens wide → fields narrow ⊆ fields wide
  every : ∃ known, fields .allLanguages = known ++ [base] ∧
    known.Pairwise (fun a b => bytes a < bytes b) ∧
    ∀ name, name ∈ known ↔ name ∈ resolver.indexed ∧ Localizes base name
  present : ∀ name ∈ fields .localeOnly, name ∈ resolver.indexed → name ∈ fields .allLanguages

theorem searchedWithin (inside : name ∈ resolver.modeFields base .localeAndAll) :
    name = base ∨ Localizes base name := by
  simp only [modeFields, List.mem_cons, List.not_mem_nil, or_false] at inside
  obtain rfl | rfl | rfl := inside
  · exact .inr (localeFieldLocalizes base _)
  · exact .inr (localeFieldLocalizes base _)
  · exact .inl rfl

theorem localeFieldsWithin (mode : LanguageMode) (inside : name ∈ resolver.localeFields base mode) :
    name = base ∨ Localizes base name := by
  rw [localeFields, Order.memDropRuns] at inside
  have onlyWithin (inside : name ∈ resolver.modeFields base .localeOnly) :=
    searchedWithin (modeFieldsWiden .unlocalized resolver base inside)
  cases mode with
  | exactLocale => exact onlyWithin (modeFieldsWiden .language resolver base inside)
  | localeOnly => exact onlyWithin inside
  | localeAndAll => exact searchedWithin inside
  | allLanguages =>
    rcases List.mem_append.mp inside with known | last
    · exact .inr (memIndexedLocales.mp known).2
    · exact .inl (List.mem_singleton.mp last)
  | allOnly => exact .inl (List.mem_singleton.mp inside)

theorem everyLanguage (resolver : FieldResolver) (base : String) :
    resolver.localeFields base .allLanguages =
      Order.dropRuns (resolver.indexedLocales base) ++ [base] :=
  Order.dropRunsFresh (resolver.baseNotIndexed base)

/- Sorting brings the repeats together, and they are dropped. -/
theorem knownSorted (resolver : FieldResolver) (base : String) :
    (Order.dropRuns (resolver.indexedLocales base)).Pairwise fun a b => bytes a < bytes b := by
  have sorted := (resolver.indexedSorted base).sublist (Order.dropRunsSublist _)
  have distinct := Order.nodupDropRuns le_antisymm (resolver.indexedSorted base)
  exact (sorted.and distinct).imp fun both => bytesLt.mpr (lt_of_le_of_ne both.1 both.2)

theorem localeFieldsByMode (resolver : FieldResolver) (base : String) :
    resolver.ByMode base (resolver.localeFields base) where
  within mode _ inside := localeFieldsWithin mode inside
  widens wider name inside := by
    rw [localeFields, Order.memDropRuns] at inside ⊢
    exact modeFieldsWiden wider resolver base inside
  every := by
    refine ⟨_, everyLanguage resolver base, knownSorted resolver base, fun name => ?_⟩
    rw [Order.memDropRuns, memIndexedLocales]
  present name inside indexed := by
    rw [everyLanguage, List.mem_append, Order.memDropRuns, memIndexedLocales]
    rcases localeFieldsWithin .localeOnly inside with rfl | localizes
    · exact .inr (List.mem_singleton_self _)
    · exact .inl ⟨indexed, localizes⟩

end FieldResolver

/- A name that is resolved in one mode is resolved in all of them, to the same property and type. -/
theorem resolvedByMode {resolver : FieldResolver} {logical : String} {asked : Option LanguageMode}
    {field : ResolvedField} (resolved : resolver.resolve logical asked = .ok field) :
    ∃ fields : LanguageMode → List String,
      (∀ mode, resolver.resolve logical mode =
        .ok { field with fields := fields (mode.getD resolver.mode) }) ∧
      (∀ mode, fields mode ≠ [] ∧ (fields mode).Nodup) ∧
      ∀ name, field.property = some name → field.type.isMultilingual = true →
        resolver.ByMode (propertyField name) fields := by
  cases FieldResolver.resolveIff.mp resolved with
  | reserved known =>
    refine ⟨fun _ => [logical], fun _ => FieldResolver.resolveIff.mpr (.reserved known), ?_, ?_⟩
    · exact fun _ => ⟨List.cons_ne_nil _ _, List.nodup_singleton _⟩
    · exact fun _ named => nomatch named
  | @property name type free reads defined =>
    refine ⟨resolver.fieldsOf name type,
      fun _ => FieldResolver.resolveIff.mpr (.property free reads defined), fun mode => ?_, ?_⟩
    · exact ⟨fieldsOfFilled resolver name type mode, resolver.fieldsOfDistinct name type mode⟩
    · intro other named multilingual
      cases named
      have fields : resolver.fieldsOf name type = resolver.localeFields (propertyField name) :=
        funext fun _ => if_pos multilingual
      rw [fields]
      exact FieldResolver.localeFieldsByMode resolver (propertyField name)

/- A locale that is not in lower case, and an index with repeats and without order. -/
def shelf : FieldResolver where
  dictionary := { properties := [(⟨"urn:c", "title"⟩, .mlText)] }
  namespaces := { entries := [("c", "urn:c")] }
  indexed := ["@\x7burn:c\x7dtitle.fr", "@\x7burn:c\x7dtitle.EN", "@\x7burn:c\x7dtitles",
    "@\x7burn:c\x7dtitle.fr"]
  mode := .localeOnly
  locale := ⟨"EN", none⟩

def shelfTitle : ResolvedField :=
  ⟨some ⟨"urn:c", "title"⟩, ["@\x7burn:c\x7dtitle.EN", "@\x7burn:c\x7dtitle.en"], .mlText⟩

theorem shelfTitleByMode :
    shelf.resolve "c:title" none = .ok shelfTitle ∧
      ∃ fields : LanguageMode → List String,
        (∀ mode, shelf.resolve "c:title" mode =
          .ok { shelfTitle with fields := fields (mode.getD .localeOnly) }) ∧
        (∀ mode, fields mode ≠ [] ∧ (fields mode).Nodup) ∧
        shelf.ByMode "@\x7burn:c\x7dtitle" fields := by
  have resolved : shelf.resolve "c:title" none = .ok shelfTitle := by decide +kernel
  have base : propertyField ⟨"urn:c", "title"⟩ = "@\x7burn:c\x7dtitle" := by decide
  obtain ⟨fields, answers, distinct, byMode⟩ := resolvedByMode resolved
  exact ⟨resolved, fields, answers, distinct, base ▸ byMode _ rfl rfl⟩

end QueryFederation.Compile
