import QueryFederation.Schema.DataType
import QueryFederation.Schema.TypeHierarchy

/-! What is known of properties and types when a query is compiled. -/
namespace QueryFederation.Schema

structure Dictionary where
  types : TypeHierarchy := {}
  /- The latest definition comes first. -/
  properties : List (QualifiedName × DataType) := []
  deriving DecidableEq, Repr

namespace Dictionary

def define (dictionary : Dictionary) (name : QualifiedName) (type : DataType) : Dictionary :=
  { dictionary with properties := (name, type) :: dictionary.properties }

def defineAll (dictionary : Dictionary) (definitions : List (QualifiedName × DataType)) :
    Dictionary :=
  definitions.foldl (fun dictionary entry => dictionary.define entry.1 entry.2) dictionary

def propertyType? (dictionary : Dictionary) (name : QualifiedName) : Option DataType :=
  dictionary.properties.lookup name

end Dictionary

end QueryFederation.Schema
