import QueryFederation.Proofs.Engine.Columns
import QueryFederation.Proofs.Engine.Plan
import QueryFederation.Proofs.Engine.Schedule
import QueryFederation.Proofs.Federation.Join

/-! A run executes its plan once for each query, and ends with a federation of all the results or
with the release of all of them. -/
namespace QueryFederation.Engine
open Index Compile Result Federation

section
variable {ρ : Type}

theorem producedFresh (queries : List CompiledQuery) (answers : CompiledQuery → Except Fault ρ) :
    produced (queries.map fun query => (answers query).map Counted.fresh) =
      (queries.filterMap fun query => (answers query).toOption).map Counted.fresh := by
  rw [producedEq, List.filterMap_map, List.map_filterMap]
  exact List.filterMap_congr fun query _ => valueMapped Counted.fresh (answers query)

end

variable {engine : Engine} {context : Context} {query : FederatedQuery} {made : Plan}
  {answers : CompiledQuery → Except Fault Hits} {journal : Journal Hits}

/- Answers are open results or faults. -/
def Opened (made : Plan) (answers : CompiledQuery → Except Fault Hits) : Prop :=
  ∀ compiled ∈ made.map Prod.snd, ∀ hits, answers compiled = .ok hits → hits.rows ≠ none

theorem findsOpened {answer : Except Fault Hits}
    (opened : ∀ hits, answer = .ok hits → hits.rows ≠ none) (ok : faultOf? answer = none) :
    ∃ count, Finds answer count := by
  cases answer with
  | error fault => contradiction
  | ok hits =>
    obtain ⟨_ | rows, more⟩ := hits
    · exact absurd rfl (opened _ rfl)
    · exact ⟨rows.length, rows, more, rfl, rfl⟩

/- Whatever the order of the calls, the journal is that of the plan. -/
theorem journalExecuted {called : List CompiledQuery} (each : called.Perm made.queries)
    (recorded : journal =
      (called.map fun compiled => (pageOf engine query compiled, answers compiled)).reverse) :
    Executed engine query made answers journal := by
  have unique : called.Nodup := each.nodup_iff.mpr (Order.nodupDistinct _)
  subst recorded
  constructor
  · rw [List.map_reverse, List.map_map, List.nodup_reverse]
    refine unique.map fun one other same => ?_
    exact congrArg Call.query same
  · intro call answer
    simp only [List.mem_reverse, List.mem_map (l := called), Prod.mk.injEq]
    constructor
    · rintro ⟨compiled, member, rfl, rfl⟩
      exact ⟨compiled, memQueries.mp (each.mem_iff.mp member), rfl, rfl⟩
    · rintro ⟨compiled, member, rfl, rfl⟩
      exact ⟨compiled, each.mem_iff.mpr (memQueries.mpr member), rfl, rfl⟩

theorem journalSuccesses {called : List CompiledQuery} {callOf : CompiledQuery → Call}
    (each : called.Perm made.queries)
    (recorded : journal =
      (called.map fun compiled => (callOf compiled, answers compiled)).reverse) :
    (made.queries.filterMap fun compiled => (answers compiled).toOption).Perm
      journal.successes := by
  subst recorded
  have turned : (Journal.successes (called.map fun compiled =>
      (callOf compiled, answers compiled)).reverse).Perm
        (called.filterMap fun compiled => (answers compiled).toOption) := by
    refine ((List.reverse_perm _).filterMap _).trans ?_
    rw [List.filterMap_map]
    exact .refl _
  exact (turned.trans (each.filterMap _)).symm

theorem releasesEach {results : List Hits} {released : List (Counted Hits)}
    (same : released.Perm (results.map Counted.fresh)) :
    (releaseEach released).Perm (results.map discarded) := by
  have each := same.map fun result => (ResultSet.release result).2
  rw [List.map_map] at each
  exact each

/- A failing run: the fault is that of the first selector whose query fails. -/
theorem failingEnds {fault : Fault} {released : List (Counted Hits)}
    (planned : Planned context query made) (executed : Executed engine query made answers journal)
    (opened : Opened made answers)
    (failed : firstFault? (made.queries.map fun compiled =>
      (answers compiled).map Counted.fresh) = some fault)
    (kept : released.Perm (journal.successes.map Counted.fresh)) :
    Ended engine context query (.failed fault (releaseEach released)) journal := by
  rw [firstFaultPlan] at failed
  simp only [faultMapped] at failed
  obtain ⟨before, ⟨name, compiled⟩, rest, split, here, none⟩ :=
    List.findSome?_eq_some_iff.mp failed
  have found : ∀ entry ∈ before, ∃ count, Finds (answers entry.2) count := by
    intro entry member
    have known : entry ∈ made := by
      rw [split]
      exact List.mem_append_left _ member
    exact findsOpened (opened entry.2 (List.mem_map_of_mem known)) (none entry member)
  have error : answers compiled = .error fault := by
    cases answer : answers compiled with
    | error other =>
      rw [answer] at here
      exact congrArg Except.error (Option.some.inj here)
    | ok hits =>
      rw [answer] at here
      contradiction
  exact .failing planned executed split found error (releasesEach kept)

def rowsIn (counted : Counted Hits) : Nat := (counted.result.rows.getD []).length

theorem countsFresh {rows : List Row} {more : Bool} :
    ResultSet.rowCount (Counted.fresh (Hits.ofRows rows more)) =
      (.ok (rowsIn (.fresh (Hits.ofRows rows more))), .fresh (Hits.ofRows rows more)) := rfl

/- The result that a selector reads holds the rows that its query has found. -/
theorem countsOwn {results : List (Counted Hits)} {slotOf : CompiledQuery → Fin results.length}
    (opened : Opened made answers)
    (own : Placed id made (fun compiled => (answers compiled).map Counted.fresh) results slotOf)
    {compiled : CompiledQuery} (member : compiled ∈ made.map Prod.snd) :
    ∃ rows more, answers compiled = .ok (Hits.ofRows rows more) ∧
      results.toArray.toVector.get (slotOf compiled) = .fresh (Hits.ofRows rows more) := by
  have answered := own.own compiled member
  cases answer : answers compiled with
  | error fault =>
    rw [answer] at answered
    contradiction
  | ok hits =>
    obtain ⟨_ | rows, more⟩ := hits
    · exact absurd rfl (opened compiled member _ answer)
    · rw [answer] at answered
      exact ⟨rows, more, rfl, (Except.ok.inj answered).symm⟩

theorem countedOwn {results : List (Counted Hits)}
    {slotOf : CompiledQuery → Fin results.length} (opened : Opened made answers)
    (own : Placed id made (fun compiled => (answers compiled).map Counted.fresh) results slotOf) :
    Countable (fun slot => rowsIn (results.toArray.toVector.get slot)) results.toArray.toVector ∧
      ∀ entry ∈ made,
        Finds (answers entry.2) (rowsIn (results.toArray.toVector.get (slotOf entry.2))) := by
  constructor
  · intro slot
    obtain ⟨compiled, member, rfl⟩ := own.onto slot
    obtain ⟨rows, more, -, found⟩ := countsOwn opened own member
    simp only [found]
    exact countsFresh
  · intro entry member
    obtain ⟨rows, more, answer, found⟩ := countsOwn opened own (List.mem_map_of_mem member)
    refine ⟨rows, more, answer, ?_⟩
    simp only [found]
    rfl

theorem zipColumns {n : Nat} {columnOf : String × CompiledQuery → Column n} {pair}
    (member : pair ∈ (made.map columnOf).zip made) :
    ∃ entry ∈ made, pair = (columnOf entry, entry) := by
  have each : (made.map columnOf).zip made = made.map fun entry => (columnOf entry, entry) := by
    simpa using List.zip_map' (l := made) (f := columnOf) (g := id)
  rw [each] at member
  obtain ⟨entry, known, rfl⟩ := List.mem_map.mp member
  exact ⟨entry, known, rfl⟩

/- All queries have found as many rows as the first one. -/
theorem alignedEnds {results : List (Counted Hits)} {slotOf : CompiledQuery → Fin results.length}
    {rows : Nat} (planned : Planned context query made)
    (executed : Executed engine query made answers journal)
    (own : Placed id made (fun compiled => (answers compiled).map Counted.fresh) results slotOf)
    (aligned : ∀ entry ∈ made, Finds (answers entry.2) rows)
    (kept : results.Perm (journal.successes.map Counted.fresh)) :
    Ended engine context query
      (.federated results.length ⟨made.map fun entry => ⟨entry.1, slotOf entry.2⟩, rows,
        engine.options query, engine.lookup, results.toArray.toVector, false⟩) journal := by
  refine .federated planned executed aligned ?_ ?_ ?_ kept rfl rfl rfl
  · rw [List.map_map]
    refine List.map_congr_left fun entry member => ?_
    exact congrArg (Prod.mk entry.1) (own.own entry.2 (List.mem_map_of_mem member)).symm
  · intro one first other second
    obtain ⟨left, known, rfl⟩ := zipColumns first
    obtain ⟨right, also, rfl⟩ := zipColumns second
    constructor
    · exact own.apart left.2 (List.mem_map_of_mem known) right.2 (List.mem_map_of_mem also)
    · exact congrArg slotOf
  · intro slot
    obtain ⟨compiled, member, same⟩ := own.onto slot
    obtain ⟨entry, known, rfl⟩ := List.mem_map.mp member
    exact List.mem_map.mpr ⟨_, List.mem_map_of_mem known, same⟩

/- The first query whose count differs from that of the very first one. -/
theorem misalignedEnds {before rest : Plan} {name : String} {compiled : CompiledQuery}
    {first : String × CompiledQuery} {results : List (Counted Hits)} (count : CompiledQuery → Nat)
    (planned : Planned context query (first :: before ++ (name, compiled) :: rest))
    (executed : Executed engine query (first :: before ++ (name, compiled) :: rest) answers journal)
    (counted : ∀ entry ∈ first :: before ++ (name, compiled) :: rest,
      Finds (answers entry.2) (count entry.2))
    (agree : ∀ entry ∈ before, count entry.2 = count first.2)
    (different : count compiled ≠ count first.2)
    (kept : results.Perm (journal.successes.map Counted.fresh)) :
    Ended engine context query
      (.failed (.rowCountMismatch name (count first.2) (count compiled)) (releaseEach results))
      journal := by
  have aligned : ∀ entry ∈ first :: before, Finds (answers entry.2) (count first.2) := by
    intro entry member
    have known := counted entry (List.mem_append_left _ member)
    rcases List.mem_cons.mp member with rfl | later
    · exact known
    · exact agree entry later ▸ known
  have last := counted (name, compiled) (List.mem_append_right _ List.mem_cons_self)
  exact .misaligned planned executed (fun entry member => ⟨_, counted entry member⟩) rfl
    (List.cons_ne_nil first before) aligned last different (releasesEach kept)

theorem federateEnds {results : List (Counted Hits)} (planned : Planned context query made)
    (executed : Executed engine query made answers journal) (opened : Opened made answers)
    (all : made.queries.map (fun compiled => (answers compiled).map Counted.fresh) =
      results.map .ok)
    (kept : results.Perm (journal.successes.map Counted.fresh)) :
    Ended engine context query (federate made (engine.options query) engine.lookup results)
      journal := by
  obtain ⟨slotOf, own⟩ := placed (plannedSome planned) all
  let count : Fin results.length → Nat := fun slot => rowsIn (results.toArray.toVector.get slot)
  obtain ⟨steady, counted⟩ := countedOwn opened own
  have unique : ((made.map fun entry => (⟨entry.1, slotOf entry.2⟩ : Column results.length)).map
      Column.name).Nodup := by
    have names := planned.names
    rw [← compiledNames planned.compiled] at names
    rw [List.map_map]
    exact names
  unfold federate
  rw [own.columns]
  cases made with
  | nil => exact absurd rfl (plannedSome planned)
  | cons first others =>
    rw [List.map_cons] at unique ⊢
    rw [joinSteady steady unique]
    cases odd : odd? count (count (slotOf first.2))
        (others.map fun entry => (⟨entry.1, slotOf entry.2⟩ : Column results.length)) with
    | none =>
      have aligned : ∀ entry ∈ first :: others,
          Finds (answers entry.2) (count (slotOf first.2)) := by
        intro entry member
        rcases List.mem_cons.mp member with rfl | later
        · exact counted _ member
        · have same := List.find?_eq_none.mp odd _ (List.mem_map_of_mem later)
          have equal : count (slotOf entry.2) = count (slotOf first.2) := by simpa using same
          exact equal ▸ counted entry member
      exact alignedEnds planned executed own aligned kept
    | some column =>
      rw [odd?, List.find?_map] at odd
      obtain ⟨⟨name, compiled⟩, found, rfl⟩ := Option.map_eq_some_iff.mp odd
      obtain ⟨differs, agreeing, rest, rfl, agree⟩ := List.find?_eq_some_iff_append.mp found
      have different : count (slotOf compiled) ≠ count (slotOf first.2) := by simpa using differs
      have alike : ∀ entry ∈ agreeing, count (slotOf entry.2) = count (slotOf first.2) := by
        intro entry member
        simpa using agree entry member
      exact misalignedEnds (fun compiled => count (slotOf compiled)) planned executed counted alike
        different kept

theorem executeEnds {ε : Type} [Executor ε Hits] {executor : ε} (opened : HandsOutOpen executor)
    (engine : Engine) (schedule : Schedule) (context : Context) (query : FederatedQuery) :
    let ran := engine.execute schedule context query ({ executor := executor } : Watched ε Hits)
    Ended engine context query ran.1 ran.2.journal := by
  unfold execute
  cases compiled : plan context query with
  | error fault => exact unplanned compiled
  | ok made =>
    have each := arrangedPerm (engine.effective schedule) made.queries
    have unique := each.nodup_iff.mpr (Order.nodupDistinct _)
    obtain ⟨answers, answered, journal, given⟩ :=
      recorded (engine.options query).skip (engine.options query).maxItems unique
        ({ executor := executor } : Watched ε Hits)
    rw [List.append_nil] at journal
    have executed : Executed engine query made answers _ := journalExecuted each journal
    have handed : Opened made answers := by
      intro compiled member hits answer
      obtain ⟨later, reached, ran⟩ := given compiled (each.mem_iff.mpr (memQueries.mpr member))
      exact opened later reached compiled _ _ hits (ran.trans answer)
    have kept := (journalSuccesses each journal).map Counted.fresh
    rw [← producedFresh] at kept
    have scheduled := scheduledAnswers id ((List.map_id _).trans answered)
    rw [List.map_id] at scheduled
    dsimp only
    rw [scheduled]
    split
    · rename_i fault failed
      exact failingEnds (planned compiled) executed handed failed kept
    · rename_i none
      exact federateEnds (planned compiled) executed handed (producedAll none) kept

theorem tableHandsOutOpen (table : TableExecutor) : HandsOutOpen table := by
  intro later _ query skip max hits answer
  change later.answer query skip max = .ok hits at answer
  unfold TableExecutor.answer at answer
  split at answer
  · contradiction
  · cases answer
    exact Option.some_ne_none _

def folder (name : String) : Selector := ⟨name, none, .inFolder name, []⟩

/- Two selectors look into the first folder, and another folder cannot be searched. -/
def folders : FederatedQuery :=
  { statement := "all folders"
    selectors := [folder "one", ⟨"again", none, .inFolder "one", []⟩, folder "two"]
    skip := 0
    maxItems := none }

def folderTable : TableExecutor :=
  ({} : TableExecutor).addHits (.term "PARENT" "one") [⟨⟨"file"⟩, ⟨0⟩⟩]
    |>.addFailure (.term "PARENT" "two") "offline"

theorem foldersEnd :
    HandsOutOpen folderTable ∧ ∀ schedule,
      let context := Context.new {} {} .single {} .localeAndAll {}
      let ran := Engine.execute ⟨{}, Entity.Register.lookup {}⟩ schedule context folders
        ({ executor := folderTable } : Watched TableExecutor Hits)
      Ended ⟨{}, Entity.Register.lookup {}⟩ context folders ran.1 ran.2.journal := by
  have opened : HandsOutOpen folderTable := tableHandsOutOpen folderTable
  exact ⟨opened, fun schedule => executeEnds opened _ schedule _ folders⟩

end QueryFederation.Engine
