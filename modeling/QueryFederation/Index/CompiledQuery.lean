import QueryFederation.Index.Rendering

/-! A query that is ready to be executed: with its order, and bound to one state of the index. -/
namespace QueryFederation.Index

inductive Direction where
  | ascending
  | descending
  deriving DecidableEq, Repr

def Direction.name : Direction → String
  | .ascending => "Asc"
  | .descending => "Desc"

inductive SortField where
  | score (direction : Direction)
  | field (name : String) (direction : Direction)
  deriving DecidableEq, Repr

def SortField.render : SortField → String
  | .score direction => "SCORE " ++ direction.name
  | .field name direction => name ++ " " ++ direction.name

structure CompiledQuery where
  query : Query
  sort : List SortField
  generation : Nat
  deriving DecidableEq, Repr

def CompiledQuery.render (compiled : CompiledQuery) : String :=
  if compiled.sort.isEmpty then compiled.query.render
  else
    compiled.query.render ++ " ORDER BY " ++
      ", ".intercalate (compiled.sort.map SortField.render)

end QueryFederation.Index
