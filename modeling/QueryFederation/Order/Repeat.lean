/-! The first repeated member of a list. -/
namespace QueryFederation.Order

def firstRepeatFrom {α : Type} [DecidableEq α] (seen : List α) : List α → Option α
  | [] => none
  | x :: rest => if x ∈ seen then some x else firstRepeatFrom (x :: seen) rest

def firstRepeat? {α : Type} [DecidableEq α] (xs : List α) : Option α := firstRepeatFrom [] xs

end QueryFederation.Order
