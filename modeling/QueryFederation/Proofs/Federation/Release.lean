import QueryFederation.Proofs.Order
import QueryFederation.Proofs.Federation.Frame
import QueryFederation.Result.Faulty

/-! Closing a federation releases each of its results once, whatever was read before and whichever
releases fail. No other operation releases anything. -/
namespace QueryFederation
open Entity Result Number

namespace Federation

variable {ρ : Type} {n : Nat} [ResultSet ρ]

def faultOf? {α : Type} : Except Fault α → Option Fault
  | .ok _ => none
  | .error fault => some fault

def answerOf : Option Fault → Except Fault Unit
  | none => .ok ()
  | some fault => .error fault

def releaseFault? (results : Vector ρ n) (slot : Fin n) : Option Fault :=
  faultOf? (ResultSet.release (results.get slot)).1

/- The results of the slots after their release; all others are as they were. -/
def released (slots : List (Fin n)) (results : Vector ρ n) : Vector ρ n :=
  Vector.ofFn fun slot =>
    if slot ∈ slots then (ResultSet.release (results.get slot)).2 else results.get slot

theorem getReleased (slots : List (Fin n)) (results : Vector ρ n) (slot : Fin n) :
    (released slots results).get slot =
      if slot ∈ slots then (ResultSet.release (results.get slot)).2 else results.get slot :=
  Vector.get_ofFn _ slot

def releaseOne (slot : Fin n) (set : Federation ρ n) : Federation ρ n :=
  { set with results :=
      set.results.set slot.val (ResultSet.release (set.results.get slot)).2 slot.isLt }

theorem releaseOneFault {slot other : Fin n} (set : Federation ρ n) (different : slot ≠ other) :
    releaseFault? (releaseOne slot set).results other = releaseFault? set.results other := by
  simp only [releaseFault?, releaseOne, getSet, if_neg different]

/- A result is released as it was found, since no other slot holds it. -/
theorem releasedCons {slot : Fin n} {rest : List (Fin n)} (fresh : slot ∉ rest)
    (set : Federation ρ n) :
    released rest (releaseOne slot set).results = released (slot :: rest) set.results := by
  refine getExt fun other => ?_
  simp only [getReleased, releaseOne, getSet, List.mem_cons]
  by_cases same : slot = other
  · subst same
    simp [fresh]
  · simp [same, Ne.symm same]

theorem releaseAllCons (slot : Fin n) (rest : List (Fin n)) (set : Federation ρ n) :
    releaseAll (slot :: rest) set =
      (answerOf ((releaseFault? set.results slot).or
          (faultOf? (releaseAll rest (releaseOne slot set)).1)),
        (releaseAll rest (releaseOne slot set)).2) := by
  simp only [releaseAll, Access.bindApply, Access.attempt, releaseFault?]
  have one : onResult slot ResultSet.release set =
      ((ResultSet.release (set.results.get slot)).1, releaseOne slot set) := rfl
  rw [one]
  rcases (ResultSet.release (set.results.get slot)).1 with _ | _ <;>
    rcases releaseAll rest (releaseOne slot set) with ⟨_ | _, last⟩ <;> rfl

theorem releaseAllEq {slots : List (Fin n)} (unique : slots.Nodup) (set : Federation ρ n) :
    releaseAll slots set =
      (answerOf (slots.findSome? (releaseFault? set.results)),
        { set with results := released slots set.results }) := by
  induction slots generalizing set with
  | nil =>
    have same : released [] set.results = set.results :=
      getExt fun slot => by simp [getReleased]
    rw [same]
    rfl
  | cons slot rest ih =>
    obtain ⟨fresh, unique⟩ := List.nodup_cons.mp unique
    have later : rest.findSome? (releaseFault? (releaseOne slot set).results) =
        rest.findSome? (releaseFault? set.results) := by
      have same : rest.map (releaseFault? (releaseOne slot set).results) =
          rest.map (releaseFault? set.results) :=
        List.map_congr_left fun other member =>
          releaseOneFault set fun equal => fresh (equal ▸ member)
      simpa only [List.findSome?_map, Function.id_comp] using congrArg (List.findSome? id) same
    rw [releaseAllCons, ih unique, later, releasedCons fresh, List.findSome?_cons]
    cases releaseFault? set.results slot <;>
      cases rest.findSome? (releaseFault? set.results) <;> rfl

def used (set : Federation ρ n) : List (Fin n) := set.columns.map Column.slot

theorem closeOpen {set : Federation ρ n} (opened : set.closed = false) :
    close set =
      (answerOf (set.used.findSome? (releaseFault? set.results)),
        { set with closed := true, results := released set.used set.results }) := by
  have same : released set.slots set.results = released set.used set.results :=
    getExt fun slot => by simp only [getReleased, slots, used, Order.memDistinct]
  have unique : set.slots.Nodup := Order.nodupDistinct _
  have all : close set = releaseAll set.slots { set with closed := true } := by
    simp only [close, Access.bindApply, Access.look, opened]
    rfl
  rw [all, releaseAllEq unique, same, slots, Order.findSomeDistinct]
  rfl

theorem closeClosed {set : Federation ρ n} (closed : set.closed = true) :
    close set = (.ok (), set) := by
  simp only [close, Access.bindApply, Access.look, closed]
  rfl

/- How often the results were released, in place of the results. -/
def tally (set : Federation (Counted ρ) n) : Federation Nat n := set.map Counted.releases

def tallyClosed (counts : Federation Nat n) : Federation Nat n :=
  if counts.closed then counts
  else
    { counts with
      closed := true
      results := Vector.ofFn fun slot =>
        if slot ∈ counts.used then counts.results.get slot + 1 else counts.results.get slot }

omit [ResultSet ρ] in
theorem getTally (set : Federation (Counted ρ) n) (slot : Fin n) :
    set.tally.results.get slot = (set.results.get slot).releases := Vector.get_map _ _ _

theorem releasedTally (set : Federation (Counted ρ) n) :
    (released set.used set.results).map Counted.releases =
      Vector.ofFn fun slot =>
        if slot ∈ set.used then set.tally.results.get slot + 1 else set.tally.results.get slot := by
  refine getExt fun slot => ?_
  rw [Vector.get_map, getReleased, Vector.get_ofFn, getTally]
  split <;> rfl

theorem closeTally (set : Federation (Counted ρ) n) :
    (close set).2.tally = tallyClosed set.tally := by
  cases closed : set.closed with
  | true =>
    rw [closeClosed closed, tallyClosed, if_pos]
    exact closed
  | false =>
    rw [closeOpen closed, tallyClosed, if_neg (by simpa [tally, map] using closed)]
    simp only [tally, map, releasedTally]
    rfl

theorem tallyClosedTwice (counts : Federation Nat n) :
    tallyClosed (tallyClosed counts) = tallyClosed counts := by
  cases closed : counts.closed <;> simp [tallyClosed, closed]

theorem tallyClosedColumns (counts : Federation Nat n) :
    (tallyClosed counts).columns = counts.columns := by
  unfold tallyClosed
  split <;> rfl

theorem tallyClosedClosed (counts : Federation Nat n) : (tallyClosed counts).closed = true := by
  unfold tallyClosed
  split
  · assumption
  · rfl

theorem getTallyClosed (counts : Federation Nat n) (slot : Fin n) :
    (tallyClosed counts).results.get slot =
      if counts.closed = false ∧ slot ∈ counts.used then counts.results.get slot + 1
      else counts.results.get slot := by
  unfold tallyClosed
  cases counts.closed <;> simp

namespace Session

theorem performTally (operation : Operation) (session : Session (Counted ρ) n) :
    (perform operation session).2.set.tally =
      if operation = .close then tallyClosed session.set.tally else session.set.tally := by
  split
  · rename_i closing
    subst closing
    exact closeTally session.set
  · rename_i read
    exact performKeeps countedReadsKeep read session

/- The run lemma: of all that is done, one close counts. -/
theorem runTally (operations : List Operation) (session : Session (Counted ρ) n) :
    (run operations session).2.set.tally =
      if .close ∈ operations then tallyClosed session.set.tally else session.set.tally := by
  induction operations generalizing session with
  | nil => rfl
  | cons operation rest ih =>
    change (run rest (perform operation session).2).2.set.tally = _
    rw [ih, performTally]
    by_cases closing : operation = .close <;> by_cases later : Operation.close ∈ rest <;>
      simp [closing, later, tallyClosedTwice, eq_comm]

theorem closeAfter (session : Session (Counted ρ) n) :
    perform .close session =
      if session.set.closed then (.ok (), session)
      else
        (answerOf (session.set.used.findSome? (releaseFault? session.set.results)),
          { session with
            set := { session.set with
              closed := true
              results := released session.set.used session.set.results } }) := by
  have whole : perform .close session =
      ((close session.set).1, { session with set := (close session.set).2 }) := rfl
  cases closed : session.set.closed with
  | true => rw [whole, closeClosed closed, if_pos rfl]
  | false =>
    rw [whole, closeOpen closed]
    rfl

section
variable (set : Federation ρ n) (operations : List Operation)

theorem lastTally :
    (run operations (start (set.map Counted.fresh))).2.set.tally =
      if .close ∈ operations then tallyClosed (set.map Counted.fresh).tally
      else (set.map Counted.fresh).tally :=
  runTally operations (start (set.map Counted.fresh))

theorem lastColumns :
    (run operations (start (set.map Counted.fresh))).2.set.columns = set.columns := by
  have kept := congrArg Federation.columns (lastTally set operations)
  split at kept
  · exact kept.trans (tallyClosedColumns _)
  · exact kept

theorem lastReleases (slot : Fin n) :
    ((run operations (start (set.map Counted.fresh))).2.set.results.get slot).releases =
      if set.closed = false ∧ .close ∈ operations ∧ slot ∈ set.used then 1 else 0 := by
  have zero : (set.map Counted.fresh).tally.results.get slot = 0 := by
    rw [getTally, map, Vector.get_map]
    rfl
  rw [← getTally, lastTally]
  by_cases closing : Operation.close ∈ operations
  · rw [if_pos closing, getTallyClosed, zero]
    simp only [closing, true_and]
    rfl
  · simp [closing, zero]

theorem lastClosed :
    (run operations (start (set.map Counted.fresh))).2.set.closed = true ↔
      set.closed = true ∨ .close ∈ operations := by
  have closed := congrArg Federation.closed (lastTally set operations)
  by_cases closing : Operation.close ∈ operations
  · rw [if_pos closing, tallyClosedClosed] at closed
    exact iff_of_true closed (.inr closing)
  · rw [if_neg closing] at closed
    rw [or_iff_left closing]
    exact Bool.eq_iff_iff.mp closed

end

theorem releasedOnce (set : Federation ρ n) (operations : List Operation) :
    let last := (run operations (start (set.map Counted.fresh))).2
    (∀ slot, (last.set.results.get slot).releases =
      if set.closed = false ∧ .close ∈ operations ∧ slot ∈ set.used then 1 else 0) ∧
    (last.set.closed = true ↔ set.closed = true ∨ .close ∈ operations) ∧
    (∀ operation, operation ≠ .close →
      (perform operation last).2.set.tally = last.set.tally) ∧
    perform .close last =
      if last.set.closed then (.ok (), last)
      else
        (answerOf (set.used.findSome? (releaseFault? last.set.results)),
          { last with
            set := { last.set with
              closed := true
              results := released set.used last.set.results } }) := by
  intro last
  refine ⟨lastReleases set operations, lastClosed set operations, ?_, ?_⟩
  · intro operation read
    exact performKeeps countedReadsKeep read last
  · have used : last.set.used = set.used :=
      congrArg (List.map Column.slot) (lastColumns set operations)
    rw [← used]
    exact closeAfter last

/- The first and the last selector share a result. The release of the other one fails. -/
def around : Federation Faulty 2 :=
  { columns := [⟨"first", 0⟩, ⟨"middle", 1⟩, ⟨"last", 0⟩]
    rows := 1
    options := {}
    lookup := Register.lookup {}
    results := #v[{ hits := Hits.ofRows [⟨⟨"file"⟩, ⟨0⟩⟩] false },
      { hits := Hits.ofRows [⟨⟨"file"⟩, ⟨1⟩⟩] false,
        plan := { release := some (.external "lost") } }] }

theorem aroundReleasedOnce :
    let last := (run [.entityId 0, .close, .score 0, .close] (start (around.map Counted.fresh))).2
    (∀ slot, (last.set.results.get slot).releases = 1) ∧ last.set.closed = true ∧
      Operation.page ≠ .close ∧ (perform .page last).2.set.tally = last.set.tally ∧
      perform .close last = (.ok (), last) := by
  obtain ⟨counts, closed, reads, again⟩ :=
    releasedOnce around [.entityId 0, .close, .score 0, .close]
  have done := closed.mpr (.inr (by decide))
  refine ⟨?_, done, by decide, reads .page (by decide), again.trans (if_pos done)⟩
  intro slot
  have used : slot ∈ around.used := by
    revert slot
    decide
  rw [counts slot, if_pos ⟨rfl, by decide, used⟩]

end Session

end Federation

end QueryFederation
