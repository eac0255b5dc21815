import QueryFederation.Engine.Run
import QueryFederation.Proofs.Order
import QueryFederation.Proofs.Federation.Release

/-! The answers of a run and the columns over them: selectors share a slot if they ask the same
query, and read in it the answer to it. -/
namespace QueryFederation.Engine
open Index Result Federation

variable {ρ γ : Type}

theorem firstFaultEq (answers : List (Except Fault ρ)) :
    firstFault? answers = answers.findSome? faultOf? := by
  induction answers with
  | nil => rfl
  | cons answer rest ih =>
    cases answer with
    | error fault => rfl
    | ok result => exact ih

theorem producedEq (answers : List (Except Fault ρ)) :
    produced answers = answers.filterMap Except.toOption := by
  induction answers with
  | nil => rfl
  | cons answer rest ih =>
    cases answer with
    | error fault => exact ih
    | ok result => exact congrArg (List.cons result) ih

theorem producedAll {answers : List (Except Fault ρ)} (none : firstFault? answers = none) :
    answers = (produced answers).map .ok := by
  induction answers with
  | nil => rfl
  | cons answer rest ih =>
    cases answer with
    | error fault => contradiction
    | ok result => exact congrArg (List.cons (.ok result)) (ih none)

theorem producedSeen {view : ρ → γ} {answers : List (Except Fault ρ)}
    (none : firstFault? answers = none) :
    answers.map (Except.map view) = (produced answers).map fun result => .ok (view result) := by
  have all := congrArg (List.map (Except.map view)) (producedAll none)
  rw [List.map_map] at all
  exact all

theorem faultMapped (view : ρ → γ) (answer : Except Fault ρ) :
    faultOf? (answer.map view) = faultOf? answer := by
  cases answer <;> rfl

theorem valueMapped (view : ρ → γ) (answer : Except Fault ρ) :
    (answer.map view).toOption = answer.toOption.map view := by
  cases answer <;> rfl

theorem firstFaultMapped (view : ρ → γ) (answers : List (Except Fault ρ)) :
    firstFault? (answers.map (Except.map view)) = firstFault? answers := by
  rw [firstFaultEq, firstFaultEq, List.findSome?_map]
  exact congrArg (fun f => answers.findSome? f) (funext (faultMapped view))

/- The first fault among the distinct queries is that of the first selector with a fault. -/
theorem firstFaultPlan (plan : Plan) (answers : CompiledQuery → Except Fault ρ) :
    firstFault? (plan.queries.map answers) =
      plan.findSome? fun entry => faultOf? (answers entry.2) := by
  rw [firstFaultEq, List.findSome?_map, Plan.queries, Order.findSomeDistinct, List.findSome?_map]
  rfl

theorem memQueries {plan : Plan} {compiled : CompiledQuery} :
    compiled ∈ plan.queries ↔ compiled ∈ plan.map Prod.snd := Order.memDistinct

/- The slots of the queries, and what can be seen of the results in them. -/
structure Placed (view : ρ → γ) (plan : Plan) (answers : CompiledQuery → Except Fault γ)
    (results : List ρ) (slotOf : CompiledQuery → Fin results.length) : Prop where
  columns : plan.columns results.length = plan.map fun entry => ⟨entry.1, slotOf entry.2⟩
  own : ∀ compiled ∈ plan.map Prod.snd,
    answers compiled = .ok (view (results.toArray.toVector.get (slotOf compiled)))
  apart : ∀ one ∈ plan.map Prod.snd, ∀ other ∈ plan.map Prod.snd,
    slotOf one = slotOf other → one = other
  onto : ∀ slot, ∃ compiled ∈ plan.map Prod.snd, slotOf compiled = slot

section
variable {plan : Plan} {n : Nat} (size : plan.queries.length = n) (some : 0 < n)

def seat (plan : Plan) {n : Nat} (some : 0 < n) (compiled : CompiledQuery) : Fin n :=
  if known : plan.queries.idxOf compiled < n then ⟨_, known⟩ else ⟨0, some⟩

include size

theorem seatKnown {compiled : CompiledQuery} (member : compiled ∈ plan.map Prod.snd) :
    plan.queries.idxOf compiled < n := by
  rw [← size]
  exact List.idxOf_lt_length_of_mem (memQueries.mpr member)

theorem seatPlace {compiled : CompiledQuery} (member : compiled ∈ plan.map Prod.snd) :
    (seat plan some compiled).val = plan.queries.idxOf compiled := by
  rw [seat, dif_pos (seatKnown size member)]

theorem seatFinds {compiled : CompiledQuery} (member : compiled ∈ plan.map Prod.snd) :
    plan.queries[(seat plan some compiled).val]? = Option.some compiled := by
  have bound := List.idxOf_lt_length_of_mem (memQueries.mpr member)
  rw [seatPlace size some member, List.getElem?_eq_getElem bound, List.getElem_idxOf]

theorem seatColumns :
    plan.columns n = plan.map fun entry => ⟨entry.1, seat plan some entry.2⟩ := by
  rw [Plan.columns, ← List.filterMap_eq_map]
  refine List.filterMap_congr fun entry member => ?_
  have known := seatKnown size (List.mem_map_of_mem member)
  simp only [Function.comp_apply, dif_pos known, seat]

theorem seatApart {one other : CompiledQuery} (first : one ∈ plan.map Prod.snd)
    (second : other ∈ plan.map Prod.snd) (same : seat plan some one = seat plan some other) :
    one = other := by
  have left := seatFinds size some first
  rw [same, seatFinds size some second] at left
  exact (Option.some.inj left).symm

theorem seatOnto (slot : Fin n) :
    ∃ compiled ∈ plan.map Prod.snd, seat plan some compiled = slot := by
  have bound : slot.val < plan.queries.length := Nat.lt_of_lt_of_eq slot.isLt size.symm
  have member : plan.queries[slot.val] ∈ plan.map Prod.snd :=
    memQueries.mp (List.getElem_mem bound)
  refine ⟨plan.queries[slot.val], member, Fin.ext ?_⟩
  rw [seatPlace size some member]
  exact List.Nodup.idxOf_getElem (Order.nodupDistinct _) slot.val bound

end

theorem placed {view : ρ → γ} {plan : Plan} {answers : CompiledQuery → Except Fault γ}
    {results : List ρ} (some : plan ≠ [])
    (all : plan.queries.map answers = results.map fun result => .ok (view result)) :
    ∃ slotOf, Placed view plan answers results slotOf := by
  have size : plan.queries.length = results.length := by simpa using congrArg List.length all
  have positive : 0 < results.length := by
    obtain ⟨first, member⟩ := List.exists_mem_of_ne_nil plan some
    exact Nat.lt_of_le_of_lt (Nat.zero_le _) (seatKnown size (List.mem_map_of_mem member))
  refine ⟨seat plan positive, seatColumns size positive, ?_, ?_, seatOnto size positive⟩
  · intro compiled member
    have answered : (plan.queries.map answers)[(seat plan positive compiled).val]? =
        Option.some (answers compiled) := by
      rw [List.getElem?_map, seatFinds size positive member]
      rfl
    rw [all, List.getElem?_map, List.getElem?_eq_getElem (seat plan positive compiled).isLt]
      at answered
    exact (Option.some.inj answered).symm
  · intro one first other second
    exact seatApart size positive first second

end QueryFederation.Engine
