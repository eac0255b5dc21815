import QueryFederation.Compile.Field
import QueryFederation.Index.Term
import QueryFederation.Request.Predicate

/-! Why a request cannot be compiled, and which part of it is to blame. -/
namespace QueryFederation.Compile
open Request Schema

inductive Reason where
  | name (fault : NameFault)
  | emptyDisjunction
  | emptyList
  | unsupported (op : Comparison) (type : DataType)
  | likeUnsupported (type : DataType)
  | encoding (type : DataType) (value : Literal) (fault : Index.EncodingFault)
  | noTerms
  | noFullTextTerms
  | leadingWildcard
  | unknownType (type : QualifiedName)
  | notSortable
  deriving DecidableEq, Repr

def Reason.message : Reason → String
  | .name fault => fault.message
  | .emptyDisjunction => "empty disjunction"
  | .emptyList => "empty IN list"
  | .unsupported op type =>
    "operator " ++ op.symbol ++ " is not supported for " ++ type.name ++ " properties"
  | .likeUnsupported type => "LIKE is not supported for " ++ type.name ++ " properties"
  | .encoding type value fault => fault.message type value
  | .noTerms => "literal produces no index terms"
  | .noFullTextTerms => "full-text expression produces no terms"
  | .leadingWildcard => "leading wildcards are not allowed"
  | .unknownType type => "unknown type " ++ type.text
  | .notSortable => "content properties are not sortable"

inductive Node where
  | predicate (tree : Predicate)
  | ordering (property : String)
  deriving Repr

def Node.render : Node → String
  | .predicate tree => tree.render
  | .ordering property => "ORDER BY " ++ property

inductive Rejection where
  | unknownField (property : String)
  | node (place : Node) (reason : Reason)
  deriving Repr

def Rejection.toFault : Rejection → Fault
  | .unknownField property => .unknownField property
  | .node place reason => .untranslatable place.render reason.message

def ResolutionFault.locate (place : Node) : ResolutionFault → Rejection
  | .name fault => .node place (.name fault)
  | .unknownField property => .unknownField property

end QueryFederation.Compile
