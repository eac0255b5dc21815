import Mathlib.Data.List.AList

/-! The places of the members of a list, as a map. A member that already has a place is refused. -/
namespace QueryFederation.Order

variable {α : Type} [DecidableEq α]

def placesFrom (found : AList fun _ : α => Nat) (next : Nat) :
    List α → Except α (AList fun _ : α => Nat)
  | [] => .ok found
  | x :: rest =>
    match found.lookup x with
    | some _ => .error x
    | none => placesFrom (found.insert x next) (next + 1) rest

def places (xs : List α) : Except α (AList fun _ : α => Nat) := placesFrom ∅ 0 xs

end QueryFederation.Order
