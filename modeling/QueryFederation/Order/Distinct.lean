/-! Lists without repeats. -/
namespace QueryFederation.Order

def dropRuns {α : Type} [DecidableEq α] : List α → List α
  | [] => []
  | [x] => [x]
  | x :: y :: rest => if x = y then dropRuns (y :: rest) else x :: dropRuns (y :: rest)

def distinctFrom {α : Type} [DecidableEq α] (seen : List α) : List α → List α
  | [] => seen
  | x :: rest => distinctFrom (if x ∈ seen then seen else seen ++ [x]) rest

def distinct {α : Type} [DecidableEq α] (xs : List α) : List α := distinctFrom [] xs

end QueryFederation.Order
