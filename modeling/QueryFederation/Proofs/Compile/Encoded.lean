import Mathlib
import QueryFederation.Compile.Reading
import QueryFederation.Proofs.Compile.Resolution
import QueryFederation.Proofs.Success

/-! Comparisons with a value that stands in the index as one encoded term. They are compiled to a
query on that term alone, or rejected for what is wrong with the value. -/
namespace QueryFederation.Compile
open Request Schema Index

/- Only titles and the like have more fields than one. -/
theorem namesOneField {context : Context} {property : String} {field : ResolvedField}
    (names : context.Names property field) (single : field.type.isMultilingual = false) :
    ∃ name, field.fields = [name] := by
  cases FieldResolver.resolveIff.mp names with
  | reserved known => exact ⟨property, rfl⟩
  | @property name type free reads defined =>
    exact ⟨propertyField name, if_neg (Bool.eq_false_iff.mp single)⟩

theorem acrossOne {field : ResolvedField} {name : String} (only : field.fields = [name])
    (build : String → Query) : field.across build = build name := by
  rw [ResolvedField.across, only]
  rfl

/- What is asked of the one field that holds the terms. -/
def comparisonQuery (name term : String) : Comparison → Query
  | .eq => .term name term
  | .ne => .boolean [(.must, .present name), (.mustNot, .term name term)] 0
  | .lt => .range name .unbounded (.excluded term)
  | .le => .range name .unbounded (.included term)
  | .gt => .range name (.excluded term) .unbounded
  | .ge => .range name (.included term) .unbounded

/- Types whose values are neither split into words nor left without an order. -/
structure Encodes (type : DataType) : Prop where
  bare : type.isTextual = false
  ranged : type.supportsRange = true

namespace Encodes
variable {type : DataType} (encodes : Encodes type)
include encodes

theorem single : type.isMultilingual = false := by
  cases type <;> first | rfl | exact absurd encodes.bare (by decide)

theorem equality : type.supportsEquality = true := by
  cases type <;> first | rfl | exact absurd encodes.bare (by decide)

theorem notText : type ≠ .text := by
  rintro rfl
  exact absurd encodes.bare (by decide)

end Encodes

section Comparing
variable {context : Context} {property : String} {field : ResolvedField} {value : Literal}

/- Nothing but the term of the value goes into the query. -/
theorem compareEncodes (encodes : Encodes field.type) {name : String}
    (only : field.fields = [name]) (op : Comparison) (node : Predicate) :
    Context.compare field op value node =
      (fun term => comparisonQuery name term op) <$> Context.encoded field value node := by
  have across := acrossOne only
  have equal : Context.equals field value node =
      Query.term name <$> Context.encoded field value node := by
    simp [Context.equals, encodes.equality, encodes.bare, across]
  have limit : Context.rangeTerm field value node = Context.encoded field value node :=
    if_neg encodes.notText
  cases op with
  | eq => exact equal
  | ne =>
    simp [Context.compare, equal, ResolvedField.without, ResolvedField.anyValue, across,
      comparisonQuery]
  | lt | le | gt | ge =>
    simp [Context.compare, Context.range, encodes.ranged, limit, across, comparisonQuery]

variable (names : context.Names property field) (encodes : Encodes field.type)
include names

theorem translateCompare (op : Comparison) :
    context.translate (.compare property op value) =
      Context.compare field op value (.compare property op value) := by
  have resolved : context.resolve property (.compare property op value) = .ok field := by
    rw [Context.resolve, names]
  rw [Context.translate, resolved]
  rfl

include encodes

theorem compareCoded {name term : String} (only : field.fields = [name])
    (coded : encode field.type value = .ok term) (op : Comparison) :
    context.translate (.compare property op value) = .ok (comparisonQuery name term op) := by
  rw [translateCompare names, compareEncodes encodes only, Context.encoded, coded]
  rfl

theorem compareFaulty {fault : EncodingFault} (faulty : encode field.type value = .error fault)
    (op : Comparison) :
    context.translate (.compare property op value) =
      .error (.node (.predicate (.compare property op value))
        (.encoding field.type value fault)) := by
  obtain ⟨name, only⟩ := namesOneField names encodes.single
  rw [translateCompare names, compareEncodes encodes only, Context.encoded, faulty]
  rfl

/- The comparison itself is never the reason for a rejection. -/
theorem compareSucceeds (op : Comparison) :
    (∃ query, context.translate (.compare property op value) = .ok query) ↔
      ∃ term, encode field.type value = .ok term := by
  obtain ⟨name, only⟩ := namesOneField names encodes.single
  cases coded : encode field.type value with
  | ok term =>
    exact iff_of_true ⟨_, compareCoded names encodes only coded op⟩ ⟨term, rfl⟩
  | error fault =>
    rw [compareFaulty names encodes coded op]
    simp

end Comparing

end QueryFederation.Compile
