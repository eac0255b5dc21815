import Mathlib
import QueryFederation.Engine.Separate
import QueryFederation.Proofs.Engine.Columns
import QueryFederation.Proofs.Engine.Plan
import QueryFederation.Proofs.Engine.Schedule
import QueryFederation.Proofs.Federation.Join
import QueryFederation.Proofs.Federation.Mirror

/-! Selectors that share an execution cannot be told apart from selectors that are executed one by
one. -/
namespace QueryFederation.Engine
open Index Compile Result Federation

variable {ρ γ : Type} {view : ρ → γ} {made : Plan} {answers : CompiledQuery → Except Fault γ}

/- The name of a column, and what its selector sees. -/
def sight {n : Nat} (view : ρ → γ) (results : Vector ρ n) (column : Column n) :
    String × Except Fault γ :=
  (column.name, .ok (view (results.get column.slot)))

theorem sharedSight {results : List ρ} {slotOf : CompiledQuery → Fin results.length}
    (own : Placed view made answers results slotOf) :
    (made.columns results.length).map (sight view results.toArray.toVector) =
      made.map fun entry => (entry.1, answers entry.2) := by
  rw [own.columns, List.map_map]
  refine List.map_congr_left fun entry member => ?_
  exact congrArg (Prod.mk entry.1) (own.own entry.2 (List.mem_map_of_mem member)).symm

theorem ownSight {results : List ρ}
    (all : (made.map Prod.snd).map answers = results.map fun result => .ok (view result)) :
    (made.ownColumns results.length).map (sight view results.toArray.toVector) =
      made.map fun entry => (entry.1, answers entry.2) := by
  have size : made.length = results.length := by simpa using congrArg List.length all
  refine List.ext_getElem (by simp [Plan.ownColumns, size]) fun place here there => ?_
  have inside : place < made.length := by simpa using there
  have known : place < results.length := size ▸ inside
  have found : answers made[place].2 = .ok (view results[place]) := by
    have both := congrArg (fun list => list[place]?) all
    simpa [inside, known] using both
  simp [Plan.ownColumns, sight, found]

theorem pairedSight {n m : Nat} {results : Vector ρ n} {others : Vector ρ m}
    {columns : List (Column n)} {mirror : List (Column m)}
    (same : columns.map (sight view results) = mirror.map (sight view others)) :
    Paired (results.map view) (others.map view) columns mirror := by
  rw [← List.forall₂_eq_eq_eq, List.forall₂_map_left_iff, List.forall₂_map_right_iff] at same
  refine same.imp fun column other equal => ?_
  obtain ⟨name, seen⟩ := Prod.mk.inj equal
  rw [entry, entry, Vector.get_map, Vector.get_map, name, Except.ok.inj seen]

theorem sheetSelectors {n : Nat} (set : Federation ρ n) :
    set.selectors = (set.map view).sheet.columns.map Prod.fst := by
  rw [sheet, List.map_map]
  rfl

theorem federateAlike [ResultSet ρ] (settled : Settled view) (some : made ≠ [])
    {shared separate : List ρ}
    (left : made.queries.map answers = shared.map fun result => .ok (view result))
    (right : (made.map Prod.snd).map answers = separate.map fun result => .ok (view result))
    (options : Options) (lookup : Entity.Lookup) :
    Outcome.Alike (federate made options lookup shared)
      (federateSeparately made options lookup separate) := by
  obtain ⟨slotOf, own⟩ := placed some left
  have paired := pairedSight ((sharedSight own).trans (ownSight right).symm)
  obtain ⟨-, joined⟩ := joinAlike settled.rowCount paired options lookup
    shared.toArray.toVector separate.toArray.toVector ⟨rfl, rfl⟩
  unfold federate federateSeparately
  generalize join (made.columns shared.length) options lookup shared.toArray.toVector =
    ended at joined
  generalize join (made.ownColumns separate.length) options lookup separate.toArray.toVector =
    plain at joined
  obtain ⟨answer, results⟩ := ended
  obtain ⟨mirror, others⟩ := plain
  cases joined with
  | error fault => exact .failed fault _ _
  | @ok set plain sheets =>
    refine .federated ?_ (congrArg Sheet.options sheets) fun operations => ?_
    · rw [sheetSelectors set, sheetSelectors plain, sheets]
    · exact Session.runMirrors settled operations ⟨sheets, rfl⟩

theorem sharingUnseen {ε : Type} [Executor ε ρ] [ResultSet ρ] (settled : Settled view)
    {answer : Call → Except Fault γ} {executor : ε} (steady : AnswersByQuery view answer executor)
    (engine : Engine) (schedule : Schedule) (context : Context) (query : FederatedQuery) :
    Outcome.Alike (engine.execute schedule context query executor).1
      (engine.executeSeparately context query executor).1 := by
  unfold execute executeSeparately
  cases compiled : plan context query with
  | error fault => exact .failed fault [] []
  | ok made =>
    have left := scheduledAnswers (Except.map view)
      (executeAllAnswers steady (engine.options query).skip (engine.options query).maxItems
        (arranged (engine.effective schedule) made.queries))
    have right := executeAllAnswers steady (engine.options query).skip
      (engine.options query).maxItems (made.map Prod.snd)
    dsimp only
    generalize executeScheduled (engine.effective schedule) (engine.options query).skip
      (engine.options query).maxItems made.queries executor = shared at left ⊢
    generalize executeAll (engine.options query).skip (engine.options query).maxItems
      (made.map Prod.snd) executor = separate at right ⊢
    have faults : firstFault? shared.1 = firstFault? separate.1 := by
      rw [← firstFaultMapped view shared.1, ← firstFaultMapped view separate.1, left, right,
        firstFaultPlan, firstFaultEq, List.findSome?_map, List.findSome?_map]
      rfl
    rw [faults]
    cases failed : firstFault? separate.1 with
    | some fault => exact .failed fault _ _
    | none =>
      exact federateAlike settled (plannedSome (planned compiled))
        (left.symm.trans (producedSeen (faults.trans failed)))
        (right.symm.trans (producedSeen failed)) _ _

/- Executing a query changes nothing in the table. -/
theorem tableReached {table later : TableExecutor} (reached : Reached table later) :
    later.hits = table.hits ∧ later.failures = table.failures := by
  induction reached with
  | start => exact ⟨rfl, rfl⟩
  | execute query skip max _ ih => exact ih

def tableAnswer (table : TableExecutor) (call : Call) : Except Fault Hits :=
  table.answer call.query call.skip call.max

theorem tableAnswersByQuery (table : TableExecutor) :
    AnswersByQuery (id : Hits → Hits) (tableAnswer table) table := by
  intro later reached call
  obtain ⟨hits, failures⟩ := tableReached reached
  have same : later.answer call.query call.skip call.max = tableAnswer table call := by
    unfold tableAnswer TableExecutor.answer
    rw [hits, failures]
  change (later.answer call.query call.skip call.max).map id = tableAnswer table call
  rw [same]
  cases tableAnswer table call <;> rfl

/- The score of the only row is no number. Two of the three selectors ask the same query. -/
def twins : FederatedQuery :=
  { statement := "twins"
    selectors := [⟨"left", none, .inFolder "one", []⟩, ⟨"right", none, .inFolder "one", []⟩,
      ⟨"other", none, .inFolder "two", []⟩]
    skip := 0
    maxItems := some 5 }

def twinTable : TableExecutor :=
  ({} : TableExecutor).addHits (.term "PARENT" "one") [⟨⟨"file"⟩, ⟨0x7fc00000⟩⟩]
    |>.addHits (.term "PARENT" "two") [⟨⟨"file"⟩, ⟨0x7fc00001⟩⟩]

def twinEngine : Engine := ⟨{}, Entity.Register.lookup {}⟩

def twinContext : Context := Context.new {} {} .single {} .localeAndAll {}

def foundIn (score : Number.Binary32) : Hits := Hits.ofRows [⟨⟨"file"⟩, score⟩] false

def twinsShared : Federation Hits 2 :=
  { columns := [⟨"left", ⟨0, Nat.zero_lt_two⟩⟩, ⟨"right", ⟨0, Nat.zero_lt_two⟩⟩,
      ⟨"other", ⟨1, Nat.one_lt_two⟩⟩]
    rows := 1
    options := ⟨"twins", 0, 5⟩
    lookup := Entity.Register.lookup {}
    results := #v[foundIn ⟨0x7fc00000⟩, foundIn ⟨0x7fc00001⟩] }

def twinsApart : Federation Hits 3 :=
  { twinsShared with
    columns := [⟨"left", 0⟩, ⟨"right", 1⟩, ⟨"other", 2⟩]
    results := #v[foundIn ⟨0x7fc00000⟩, foundIn ⟨0x7fc00000⟩, foundIn ⟨0x7fc00001⟩] }

/- Two executions here and three there. -/
theorem twinsUnseen :
    Settled (id : Hits → Hits) ∧ AnswersByQuery id (tableAnswer twinTable) twinTable ∧
      (∀ schedule,
        Outcome.Alike (twinEngine.execute schedule twinContext twins twinTable).1
          (twinEngine.executeSeparately twinContext twins twinTable).1) ∧
      twinEngine.execute .inTurn twinContext twins twinTable =
        (.federated 2 twinsShared, { twinTable with executions := 2 }) ∧
      twinEngine.executeSeparately twinContext twins twinTable =
        (.federated 3 twinsApart, { twinTable with executions := 3 }) := by
  have steady := tableAnswersByQuery twinTable
  have alike (schedule : Schedule) :=
    sharingUnseen hitsSettled steady twinEngine schedule twinContext twins
  exact ⟨hitsSettled, steady, alike, by cbv, by cbv⟩

end QueryFederation.Engine
