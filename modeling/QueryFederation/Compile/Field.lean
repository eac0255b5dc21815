import QueryFederation.Order.Distinct
import QueryFederation.Request.Parameters
import QueryFederation.Schema.Dictionary
import QueryFederation.Text.Analyzer

/-! The index fields that a name in a request stands for. A property has one field, and a
multilingual property has one for each locale besides. -/
namespace QueryFederation.Compile
open Request Schema

inductive ReservedField where
  | text
  | id
  | type
  | parent
  | tenant
  | hidden
  deriving DecidableEq, Repr

namespace ReservedField

def name : ReservedField → String
  | .text => "TEXT"
  | .id => "ID"
  | .type => "TYPE"
  | .parent => "PARENT"
  | .tenant => "TENANT"
  | .hidden => "HIDDEN"

def dataType : ReservedField → DataType
  | .text => .content
  | _ => .id

def every : List ReservedField := [.text, .id, .type, .parent, .tenant, .hidden]

def ofName? (s : String) : Option ReservedField := every.find? fun field => field.name = s

end ReservedField

inductive ResolutionFault where
  | name (fault : NameFault)
  | unknownField (property : String)
  deriving DecidableEq, Repr

structure ResolvedField where
  property : Option QualifiedName
  fields : List String
  type : DataType
  deriving DecidableEq, Repr

def analyzerFor (type : DataType) : Text.Analyzer :=
  if type.isTextual then .standard else .keyword

def ResolvedField.analyzer (field : ResolvedField) : Text.Analyzer := analyzerFor field.type

def propertyField (name : QualifiedName) : String := "@" ++ name.text

structure FieldResolver where
  dictionary : Dictionary
  namespaces : Namespaces
  indexed : List String
  mode : LanguageMode
  locale : Request.Locale
  deriving DecidableEq, Repr

namespace FieldResolver

def localeField (base : String) (locale : Request.Locale) : String := base ++ "." ++ locale.text

def indexedLocales (resolver : FieldResolver) (base : String) : List String :=
  (resolver.indexed.filter fun field => (base ++ ".").toList.isPrefixOf field.toList).mergeSort
    fun a b => decide (a ≤ b)

def modeFields (resolver : FieldResolver) (base : String) : LanguageMode → List String
  | .exactLocale => [localeField base resolver.locale]
  | .localeOnly =>
    [localeField base resolver.locale, localeField base resolver.locale.languageOnly]
  | .localeAndAll =>
    [localeField base resolver.locale, localeField base resolver.locale.languageOnly, base]
  | .allLanguages => resolver.indexedLocales base ++ [base]
  | .allOnly => [base]

def localeFields (resolver : FieldResolver) (base : String) (mode : LanguageMode) : List String :=
  Order.dropRuns (resolver.modeFields base mode)

def fieldsOf (resolver : FieldResolver) (name : QualifiedName) (type : DataType)
    (mode : LanguageMode) : List String :=
  if type.isMultilingual then resolver.localeFields (propertyField name) mode
  else [propertyField name]

def resolve (resolver : FieldResolver) (logical : String) (mode : Option LanguageMode) :
    Except ResolutionFault ResolvedField :=
  match ReservedField.ofName? logical with
  | some field => .ok ⟨none, [logical], field.dataType⟩
  | none =>
    match QualifiedName.resolve resolver.namespaces logical with
    | .error fault => .error (.name fault)
    | .ok name =>
      match resolver.dictionary.propertyType? name with
      | none => .error (.unknownField logical)
      | some type =>
        .ok ⟨some name, resolver.fieldsOf name type (mode.getD resolver.mode), type⟩

end FieldResolver

end QueryFederation.Compile
