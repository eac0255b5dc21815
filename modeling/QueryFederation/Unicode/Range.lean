/-! Sets of code points and maps on them, given as runs in increasing order. -/
namespace QueryFederation.Unicode

abbrev CodeRange := Nat × Nat

/- The first run beyond the point ends the search. -/
def inRanges (point : Nat) : List CodeRange → Bool
  | [] => false
  | (first, last) :: rest => first ≤ point && (point ≤ last || inRanges point rest)

def valueAt {α : Type} (point : Nat) (fallback : α) : List (Nat × Nat × α) → α
  | [] => fallback
  | (first, last, value) :: rest =>
    if point < first then fallback
    else if point ≤ last then value
    else valueAt point fallback rest

end QueryFederation.Unicode
