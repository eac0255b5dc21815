import QueryFederation.Request.Literal

/-! Predicates over the properties of entities, and how they are written in a statement. -/
namespace QueryFederation.Request

inductive Comparison where
  | eq
  | ne
  | lt
  | le
  | gt
  | ge
  deriving DecidableEq, Repr

def Comparison.symbol : Comparison → String
  | .eq => "="
  | .ne => "<>"
  | .lt => "<"
  | .le => "<="
  | .gt => ">"
  | .ge => ">="

inductive Predicate where
  | all (children : List Predicate)
  | any (children : List Predicate)
  | not (child : Predicate)
  | compare (property : String) (op : Comparison) (value : Literal)
  | oneOf (property : String) (values : List Literal) (negated : Bool)
  | like (property pattern : String) (negated : Bool)
  | present (property : String)
  | absent (property : String)
  | fullText (property : Option String) (text : String)
  | inFolder (folder : String)
  | isType (type : String)
  deriving Repr

def negation (negated : Bool) : String := if negated then "NOT " else ""

mutual
def Predicate.render : Predicate → String
  | .all children => "(" ++ " AND ".intercalate (renderAll children) ++ ")"
  | .any children => "(" ++ " OR ".intercalate (renderAll children) ++ ")"
  | .not child => "NOT " ++ child.render
  | .compare property op value => property ++ " " ++ op.symbol ++ " " ++ value.render
  | .oneOf property values negated =>
    property ++ " " ++ negation negated ++ "IN (" ++ ", ".intercalate (values.map Literal.render)
      ++ ")"
  | .like property pattern negated =>
    property ++ " " ++ negation negated ++ "LIKE '" ++ pattern ++ "'"
  | .present property => property ++ " IS NOT NULL"
  | .absent property => property ++ " IS NULL"
  | .fullText (some property) text => "CONTAINS(" ++ property ++ ", '" ++ text ++ "')"
  | .fullText none text => "CONTAINS('" ++ text ++ "')"
  | .inFolder folder => "IN_FOLDER('" ++ folder ++ "')"
  | .isType type => "IS_TYPE('" ++ type ++ "')"

def renderAll : List Predicate → List String
  | [] => []
  | child :: rest => child.render :: renderAll rest
end

inductive SortKey where
  | score
  | property (name : String)
  deriving DecidableEq, Repr

structure SortTerm where
  key : SortKey
  ascending : Bool
  deriving DecidableEq, Repr

end QueryFederation.Request
