import Mathlib
import QueryFederation.Index.Truth

/-! The shape of Boolean queries. One that is empty or made of exclusions alone finds nothing, and
one that asks for more options than it has does neither; the ways to build queries avoid them. -/
namespace QueryFederation.Index

/- Some one of its alternatives is to hold. -/
structure IsChoice (clauses : List (Occur × Query)) (minimum : Nat) : Prop where
  optional : ∀ clause ∈ clauses, clause.1 = .should
  one : minimum = 1

/- Each clause demands or excludes, and there is a demand. -/
structure IsDemand (clauses : List (Occur × Query)) (minimum : Nat) : Prop where
  strict : ∀ clause ∈ clauses, clause.1 ≠ .should
  demanding : ∃ clause ∈ clauses, clause.1 = .must
  nothing : minimum = 0

structure WellShaped (clauses : List (Occur × Query)) (minimum : Nat) : Prop where
  several : 2 ≤ clauses.length
  kind : Xor (IsChoice clauses minimum) (IsDemand clauses minimum)

def countOptions (clauses : List (Occur × Query)) : Nat :=
  clauses.countP fun clause => clause.1 = .should

section Shapes
variable {clauses : List (Occur × Query)} {minimum : Nat}

theorem wellShapedChoice (several : 2 ≤ clauses.length) (choice : IsChoice clauses minimum) :
    WellShaped clauses minimum :=
  ⟨several, .inl ⟨choice, fun demand => by
    have one := choice.one
    have nothing := demand.nothing
    omega⟩⟩

theorem wellShapedDemand (several : 2 ≤ clauses.length) (demand : IsDemand clauses minimum) :
    WellShaped clauses minimum :=
  ⟨several, .inr ⟨demand, fun choice => by
    have one := choice.one
    have nothing := demand.nothing
    omega⟩⟩

theorem shapedFilled (shaped : WellShaped clauses minimum) : clauses ≠ [] :=
  List.ne_nil_of_length_pos (by have several := shaped.several; omega)

theorem shapedAffirms (shaped : WellShaped clauses minimum) :
    ∃ clause ∈ clauses, clause.1 ≠ .mustNot := by
  rcases shaped.kind with ⟨choice, -⟩ | ⟨demand, -⟩
  · obtain ⟨clause, member⟩ := List.exists_mem_of_ne_nil clauses (shapedFilled shaped)
    exact ⟨clause, member, by simp [choice.optional clause member]⟩
  · obtain ⟨clause, member, must⟩ := demand.demanding
    exact ⟨clause, member, by simp [must]⟩

theorem shapedReachable (shaped : WellShaped clauses minimum) : minimum ≤ countOptions clauses := by
  rcases shaped.kind with ⟨choice, -⟩ | ⟨demand, -⟩
  · obtain ⟨clause, member⟩ := List.exists_mem_of_ne_nil clauses (shapedFilled shaped)
    rw [choice.one, countOptions, Nat.succ_le_iff, List.countP_pos_iff]
    exact ⟨clause, member, decide_eq_true (choice.optional clause member)⟩
  · rw [demand.nothing]
    exact Nat.zero_le _

end Shapes

namespace Query

/- Every Boolean query in it, at any depth, is well shaped. -/
def WellBuilt (query : Query) : Prop :=
  ∀ clauses minimum, .boolean clauses minimum ∈ query.parts → WellShaped clauses minimum

theorem memClauseParts {part : Query} {clauses : List (Occur × Query)} :
    part ∈ clauseParts clauses ↔ ∃ clause ∈ clauses, part ∈ clause.2.parts := by
  induction clauses with
  | nil => simp [clauseParts]
  | cons clause rest ih =>
    obtain ⟨occur, query⟩ := clause
    simp [clauseParts, ih]

theorem wellBuiltBoolean {clauses : List (Occur × Query)} {minimum : Nat}
    (shaped : WellShaped clauses minimum) (each : ∀ clause ∈ clauses, clause.2.WellBuilt) :
    (boolean clauses minimum).WellBuilt := by
  intro others least inside
  rcases List.mem_cons.mp inside with same | deeper
  · cases same
    exact shaped
  · obtain ⟨clause, member, part⟩ := memClauseParts.mp deeper
    exact each clause member _ _ part

/- Queries on one field have no Boolean query in them. -/
theorem wellBuiltLeaf {query : Query} (leaf : query.parts = [query])
    (simple : ∀ clauses minimum, query ≠ .boolean clauses minimum) : query.WellBuilt := by
  intro clauses minimum inside
  rw [leaf, List.mem_singleton] at inside
  exact absurd inside.symm (simple clauses minimum)

theorem wellBuiltMatchAll : matchAll.WellBuilt := wellBuiltLeaf rfl (by simp)

theorem wellBuiltTerm (field text : String) : (term field text).WellBuilt :=
  wellBuiltLeaf rfl (by simp)

theorem wellBuiltAnyOf {alternatives : List Query} (filled : alternatives ≠ [])
    (each : ∀ query ∈ alternatives, query.WellBuilt) : (anyOf alternatives).WellBuilt := by
  match alternatives with
  | [] => exact absurd rfl filled
  | [query] => exact each query List.mem_cons_self
  | first :: second :: rest =>
    refine wellBuiltBoolean (wellShapedChoice (by simp) ⟨?_, rfl⟩) ?_
    · intro clause member
      obtain ⟨query, -, rfl⟩ := List.mem_map.mp member
      rfl
    · intro clause member
      obtain ⟨query, inside, rfl⟩ := List.mem_map.mp member
      exact each query inside

theorem wellBuiltAllOf {queries : List Query} (each : ∀ query ∈ queries, query.WellBuilt) :
    (allOf queries).WellBuilt := by
  match queries with
  | [] => exact wellBuiltMatchAll
  | [query] => exact each query List.mem_cons_self
  | first :: second :: rest =>
    refine wellBuiltBoolean (wellShapedDemand (by simp) ⟨?_, ⟨_, List.mem_cons_self, rfl⟩, rfl⟩) ?_
    · intro clause member
      obtain ⟨query, -, rfl⟩ := List.mem_map.mp member
      exact Occur.noConfusion
    · intro clause member
      obtain ⟨query, inside, rfl⟩ := List.mem_map.mp member
      exact each query inside

/- A demand and what goes with it, which is not left to choice. -/
theorem wellBuiltAlong {query : Query} {others : List (Occur × Query)} (built : query.WellBuilt)
    (filled : others ≠ []) (strict : ∀ clause ∈ others, clause.1 ≠ .should)
    (each : ∀ clause ∈ others, clause.2.WellBuilt) :
    (boolean ((.must, query) :: others) 0).WellBuilt := by
  have several : 2 ≤ ((Occur.must, query) :: others).length := by
    have positive := List.length_pos_iff.mpr filled
    rw [List.length_cons]
    omega
  refine wellBuiltBoolean
    (wellShapedDemand several ⟨?_, ⟨_, List.mem_cons_self, rfl⟩, rfl⟩) ?_
  · exact List.forall_mem_cons.mpr ⟨Occur.noConfusion, strict⟩
  · exact List.forall_mem_cons.mpr ⟨built, each⟩

theorem wellBuiltNegate {excluded : Query} (built : excluded.WellBuilt) :
    (negate excluded).WellBuilt :=
  wellBuiltAlong wellBuiltMatchAll (by simp) (by simp) (by simpa using built)

end Query

end QueryFederation.Index
