/-! The data type of a property. It decides how values are indexed and which comparisons make
sense. -/
namespace QueryFederation.Schema

inductive DataType where
  | text
  | mlText
  | content
  | id
  | boolean
  | int
  | long
  | float
  | double
  | date
  | dateTime
  deriving DecidableEq, Repr

namespace DataType

def name : DataType → String
  | .text => "text"
  | .mlText => "mltext"
  | .content => "content"
  | .id => "id"
  | .boolean => "boolean"
  | .int => "int"
  | .long => "long"
  | .float => "float"
  | .double => "double"
  | .date => "date"
  | .dateTime => "datetime"

def isTextual : DataType → Bool
  | .text | .mlText | .content => true
  | _ => false

def isMultilingual (type : DataType) : Bool := type == .mlText

def isNumeric : DataType → Bool
  | .int | .long | .float | .double => true
  | _ => false

def isTemporal : DataType → Bool
  | .date | .dateTime => true
  | _ => false

def supportsRange (type : DataType) : Bool :=
  type.isNumeric || type.isTemporal || type == .text || type == .id

def supportsLike : DataType → Bool
  | .text | .mlText | .id => true
  | _ => false

def supportsEquality (type : DataType) : Bool := type != .content

end DataType

end QueryFederation.Schema
