import Mathlib.Data.List.Basic
import QueryFederation.Engine.LifeCycle
import QueryFederation.Engine.Separate

/-! Whatever the order in which queries are executed, each of them is executed once and gets its
own answer. -/
namespace QueryFederation.Engine
open Index Result

section
variable {α β : Type}

theorem rangeGets (xs : List α) : (List.range xs.length).filterMap (xs[·]?) = xs := by
  induction xs with
  | nil => rfl
  | cons x rest ih =>
    rw [List.length_cons, List.range_succ_eq_map, List.filterMap_cons, List.filterMap_map]
    exact congrArg (List.cons x) ih

theorem gets {order : List Nat} {xs : List α} (inside : ∀ place ∈ order, place < xs.length)
    (turn : Nat) : (order.filterMap (xs[·]?))[turn]? = order[turn]?.bind (xs[·]?) := by
  induction order generalizing turn with
  | nil => rfl
  | cons place rest ih =>
    have bound : place < xs.length := inside place List.mem_cons_self
    have here : xs[place]? = some xs[place] := List.getElem?_eq_getElem bound
    rw [List.filterMap_cons, here]
    cases turn with
    | zero => exact here.symm
    | succ turn =>
      exact ih (fun other later => inside other (List.mem_cons_of_mem place later)) turn

def arranged (schedule : Schedule) (xs : List α) : List α :=
  (schedule.order xs.length).filterMap (xs[·]?)

theorem arrangedPerm (schedule : Schedule) (xs : List α) : (arranged schedule xs).Perm xs := by
  have each := (schedule.complete xs.length).filterMap (xs[·]?)
  rwa [rangeGets] at each

/- A query finds its answer where the order had put the query. -/
theorem arrangedBack (schedule : Schedule) (xs : List α) (f : α → β) :
    (List.range xs.length).filterMap
      (fun place => ((arranged schedule xs).map f)[(schedule.order xs.length).idxOf place]?) =
        xs.map f := by
  have complete := schedule.complete xs.length
  have inside : ∀ place ∈ schedule.order xs.length, place < xs.length := fun place member =>
    List.mem_range.mp (complete.mem_iff.mp member)
  have back : ∀ place ∈ List.range xs.length,
      ((arranged schedule xs).map f)[(schedule.order xs.length).idxOf place]? =
        (xs[place]?).map f := by
    intro place member
    have turn : (schedule.order xs.length)[(schedule.order xs.length).idxOf place]? =
        some place := by
      have found := List.idxOf_lt_length_of_mem (complete.mem_iff.mpr member)
      rw [List.getElem?_eq_getElem found, List.getElem_idxOf]
    rw [List.getElem?_map, arranged, gets inside, turn]
    rfl
  rw [List.filterMap_congr back, ← List.map_filterMap, rangeGets]

end

section
variable {ε ρ : Type} [Executor ε ρ] {skip max : Nat}

/- What is seen of the answers is that of each query, whatever the order was. -/
theorem scheduledAnswers {δ : Type} (see : Except Fault ρ → δ) {schedule : Schedule}
    {queries : List CompiledQuery} {executor : ε} {answers : CompiledQuery → δ}
    (ran : (executeAll skip max (arranged schedule queries) executor).1.map see =
      (arranged schedule queries).map answers) :
    (executeScheduled schedule skip max queries executor).1.map see = queries.map answers := by
  have each : (executeScheduled schedule skip max queries executor).1 =
      (List.range queries.length).filterMap fun place =>
        (executeAll skip max (arranged schedule queries) executor).1[
          (schedule.order queries.length).idxOf place]? := rfl
  rw [each, List.map_filterMap, ← arrangedBack schedule queries answers, ← ran]
  simp only [List.getElem?_map]

theorem reachedAfter {executor later : ε} (query : CompiledQuery) (skip max : Nat)
    (reached : Reached (Executor.execute query skip max executor).2 later) :
    Reached executor later := by
  induction reached with
  | start => exact .execute query skip max .start
  | execute other skip max _ ih => exact .execute other skip max ih

theorem executeAllAnswers {γ : Type} {view : ρ → γ} {answer : Call → Except Fault γ} {executor : ε}
    (steady : AnswersByQuery view answer executor) (skip max : Nat)
    (queries : List CompiledQuery) :
    (executeAll skip max queries executor).1.map (Except.map view) =
      queries.map fun query => answer ⟨query, skip, max⟩ := by
  induction queries generalizing executor with
  | nil => rfl
  | cons query rest ih =>
    have others := ih fun later reached => steady later (reachedAfter query skip max reached)
    have first := steady executor .start ⟨query, skip, max⟩
    rw [List.map_cons, ← others, ← first]
    rfl

/- What is known of a run on a watched executor. -/
structure Recorded (executor : ε) (skip max : Nat) (queries : List CompiledQuery)
    (answers : CompiledQuery → Except Fault ρ) (before : Journal ρ)
    (run : List (Except Fault (Counted ρ)) × Watched ε ρ) : Prop where
  answered : run.1 = queries.map fun query => (answers query).map Counted.fresh
  journal : run.2.journal =
    (queries.map fun query => (⟨query, skip, max⟩, answers query)).reverse ++ before
  given : ∀ query ∈ queries, ∃ later, Reached executor later ∧
    (Executor.execute query skip max later).1 = answers query

/- Queries that differ may be answered one after the other: no answer replaces another one. -/
theorem recorded (skip max : Nat) {queries : List CompiledQuery} (unique : queries.Nodup)
    (watched : Watched ε ρ) :
    ∃ answers, Recorded watched.executor skip max queries answers watched.journal
      (executeAll skip max queries watched) := by
  induction queries generalizing watched with
  | nil => exact ⟨fun _ => .error .closed, rfl, rfl, by simp⟩
  | cons query rest ih =>
    obtain ⟨fresh, unique⟩ := List.nodup_cons.mp unique
    let answer := (Executor.execute query skip max watched.executor).1
    let after : Watched ε ρ := (Executor.execute query skip max watched).2
    obtain ⟨others, answered, journal, given⟩ := ih unique after
    let answers := Function.update others query answer
    have first : answers query = answer := Function.update_self query answer others
    have same : ∀ other ∈ rest, answers other = others other := by
      intro other member
      have different : other ≠ query := fun equal => fresh (equal ▸ member)
      exact Function.update_of_ne different answer others
    refine ⟨answers, ?_, ?_, ?_⟩
    · have later : rest.map (fun other => (answers other).map Counted.fresh) =
          rest.map fun other => (others other).map Counted.fresh :=
        List.map_congr_left fun other member => by rw [same other member]
      rw [List.map_cons, later, ← answered, first]
      rfl
    · have later : rest.map (fun other => ((⟨other, skip, max⟩ : Call), answers other)) =
          rest.map fun other => (⟨other, skip, max⟩, others other) :=
        List.map_congr_left fun other member => by rw [same other member]
      rw [List.map_cons, List.reverse_cons, later, List.append_assoc, first]
      exact journal
    · intro other member
      rcases List.mem_cons.mp member with rfl | later
      · exact ⟨watched.executor, .start, first.symm⟩
      · obtain ⟨state, reached, ran⟩ := given other later
        rw [same other later]
        exact ⟨state, reachedAfter query skip max reached, ran⟩

end

end QueryFederation.Engine
