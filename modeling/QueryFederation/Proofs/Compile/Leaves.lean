import Mathlib
import QueryFederation.Compile.Reading
import QueryFederation.Index.Leaves

/-! The leaves of the queries that conditions on a property are built from. -/
namespace QueryFederation.Compile
open Request Index

variable {field : ResolvedField}

theorem leafLeaves (leaf : Leaf) (name : String) : (leaf.on name).leaves = [leaf.on name] := by
  cases leaf <;> rfl

theorem acrossLeaves (leaf : Leaf) :
    (field.across leaf.on).leaves = field.fields.map leaf.on := by
  rw [ResolvedField.across, Query.leavesAnyOf, List.flatMap_map]
  simp only [leafLeaves]
  exact List.map_eq_flatMap.symm

theorem withoutLeaves (excluded : List Query) :
    (field.without excluded).leaves =
      field.fields.map .present ++ excluded.flatMap Query.leaves := by
  have anyValue : field.anyValue.leaves = field.fields.map .present := acrossLeaves .present
  rw [ResolvedField.without, Query.leavesBoolean, List.flatMap_cons, anyValue, List.flatMap_map]

theorem joinedLeaves (operator : TermOperator) {queries : List Query} (filled : queries ≠ []) :
    (Context.joinWords operator queries).leaves = queries.flatMap Query.leaves := by
  cases operator with
  | or => exact Query.leavesAnyOf queries
  | and => exact Query.leavesAllOf filled

end QueryFederation.Compile
