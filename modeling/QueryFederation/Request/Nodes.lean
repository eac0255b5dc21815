import QueryFederation.Request.Predicate

/-! The nodes of a predicate: every condition in it, at any depth. -/
namespace QueryFederation.Request

namespace Predicate

def children : Predicate → List Predicate
  | .all children | .any children => children
  | .not child => [child]
  | _ => []

mutual
/- Depth first and from left to right, each node before those below it. -/
def nodes : Predicate → List Predicate
  | .all children => .all children :: nodesOfAll children
  | .any children => .any children :: nodesOfAll children
  | .not child => .not child :: child.nodes
  | leaf => [leaf]

def nodesOfAll : List Predicate → List Predicate
  | [] => []
  | child :: rest => child.nodes ++ nodesOfAll rest
end

/- The property that a node is about by itself. A search for words that names none is about the
one given. -/
def subject? (unnamed : String) : Predicate → Option String
  | .compare property _ _ | .oneOf property _ _ | .like property _ _ | .present property
  | .absent property => some property
  | .fullText property _ => some (property.getD unnamed)
  | _ => none

theorem nodesOfAllEq (children : List Predicate) : nodesOfAll children = children.flatMap nodes := by
  induction children with
  | nil => rfl
  | cons child rest ih => rw [nodesOfAll, ih, List.flatMap_cons]

theorem nodesEq (predicate : Predicate) :
    predicate.nodes = predicate :: predicate.children.flatMap nodes := by
  cases predicate with
  | all children | any children => simp [nodes, nodesOfAllEq, Predicate.children]
  | not child => simp [nodes, Predicate.children]
  | _ => rfl

/- Induction over predicates: a node may use what is known of each of its children. -/
@[elab_as_elim]
theorem inductBelow {motive : Predicate → Prop}
    (step : ∀ predicate, (∀ child ∈ predicate.children, motive child) → motive predicate)
    (predicate : Predicate) : motive predicate := by
  have leaf (predicate : Predicate) (none : predicate.children = []) : motive predicate :=
    step predicate (by simp [none])
  refine @Predicate.rec motive (fun children => ∀ child ∈ children, motive child)
    (fun children each => step _ each) (fun children each => step _ each)
    (fun child one => step _ (List.forall_mem_singleton.mpr one))
    (fun _ _ _ => leaf _ rfl) (fun _ _ _ => leaf _ rfl) (fun _ _ _ => leaf _ rfl)
    (fun _ => leaf _ rfl) (fun _ => leaf _ rfl) (fun _ _ => leaf _ rfl) (fun _ => leaf _ rfl)
    (fun _ => leaf _ rfl) ?_ ?_ predicate
  · simp
  · exact fun child rest one others => List.forall_mem_cons.mpr ⟨one, others⟩

end Predicate

end QueryFederation.Request
