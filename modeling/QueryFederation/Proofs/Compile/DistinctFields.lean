import Mathlib
import QueryFederation.Compile.Reading
import QueryFederation.Proofs.Compile.Resolution
import QueryFederation.Proofs.Order

/-! The fields of a property are all different, in every mode of reading its languages. -/
namespace QueryFederation.Compile
open Request Schema

namespace FieldResolver
variable (resolver : FieldResolver) (base : String)

theorem localeFieldLonger (locale : Request.Locale) : localeField base locale ≠ base := by
  intro same
  have size := congrArg String.length same
  have dot : ".".length = 1 := rfl
  simp only [localeField, String.length_append] at size
  omega

theorem baseNotIndexed : base ∉ resolver.indexedLocales base := by
  intro inside
  rw [indexedLocales, List.mem_mergeSort, List.mem_filter, List.isPrefixOf_iff_prefix] at inside
  have size := inside.2.length_le
  simp at size

theorem indexedSorted : (resolver.indexedLocales base).Pairwise (· ≤ ·) := by
  have transitive : ∀ a b c : String,
      decide (a ≤ b) = true → decide (b ≤ c) = true → decide (a ≤ c) = true := by
    simpa using fun a b c => le_trans
  have total : ∀ a b : String, (decide (a ≤ b) || decide (b ≤ a)) = true := by
    simpa using le_total
  have sorted := List.pairwise_mergeSort transitive total
    (resolver.indexed.filter fun field => (base ++ ".").toList.isPrefixOf field.toList)
  exact sorted.imp of_decide_eq_true

theorem localeFieldsDistinct (mode : LanguageMode) : (resolver.localeFields base mode).Nodup := by
  have two (first second : String) : (Order.dropRuns [first, second]).Nodup := by
    by_cases same : first = second <;> simp [Order.dropRuns, same]
  have longer (locale : Request.Locale) : base ≠ localeField base locale :=
    (localeFieldLonger base locale).symm
  cases mode with
  | exactLocale => exact List.nodup_singleton _
  | localeOnly => exact two _ _
  | localeAndAll => exact Order.nodupDropRunsFresh (by simp [longer]) (two _ _)
  | allLanguages =>
    exact Order.nodupDropRunsFresh (resolver.baseNotIndexed base)
      (Order.nodupDropRuns le_antisymm (resolver.indexedSorted base))
  | allOnly => exact List.nodup_singleton _

theorem fieldsOfDistinct (name : QualifiedName) (type : DataType) (mode : LanguageMode) :
    (resolver.fieldsOf name type mode).Nodup := by
  unfold fieldsOf
  split
  · exact resolver.localeFieldsDistinct _ mode
  · exact List.nodup_singleton _

end FieldResolver

theorem namesDistinct {context : Context} {property : String} {field : ResolvedField}
    (names : context.Names property field) : field.fields.Nodup := by
  cases FieldResolver.resolveIff.mp names with
  | reserved known => exact List.nodup_singleton property
  | property free reads defined => exact FieldResolver.fieldsOfDistinct _ _ _ _

end QueryFederation.Compile
