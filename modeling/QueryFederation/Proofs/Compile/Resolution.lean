import QueryFederation.Compile.Field

/-! What a name in a request stands for: a field of its own, or a property with the fields that a mode
of reading its languages gives it. -/
namespace QueryFederation.Compile.FieldResolver
open Request Schema

inductive Resolves (resolver : FieldResolver) (logical : String) (mode : Option LanguageMode) :
    ResolvedField → Prop where
  | reserved {field : ReservedField} (known : ReservedField.ofName? logical = some field) :
      Resolves resolver logical mode ⟨none, [logical], field.dataType⟩
  | property {name : QualifiedName} {type : DataType} (free : ReservedField.ofName? logical = none)
      (reads : QualifiedName.resolve resolver.namespaces logical = .ok name)
      (defined : resolver.dictionary.propertyType? name = some type) :
      Resolves resolver logical mode
        ⟨some name, resolver.fieldsOf name type (mode.getD resolver.mode), type⟩

theorem resolveIff {resolver : FieldResolver} {logical : String} {mode : Option LanguageMode}
    {field : ResolvedField} :
    resolver.resolve logical mode = .ok field ↔ resolver.Resolves logical mode field := by
  constructor
  · intro resolved
    unfold resolve at resolved
    split at resolved
    · rename_i reserved known
      cases resolved
      exact .reserved known
    rename_i free
    split at resolved
    · contradiction
    rename_i name reads
    split at resolved
    · contradiction
    rename_i type defined
    cases resolved
    exact .property free reads defined
  · intro resolves
    cases resolves with
    | reserved known => simp only [resolve, known]
    | property free reads defined => simp only [resolve, free, reads, defined]

end QueryFederation.Compile.FieldResolver
