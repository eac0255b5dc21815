import QueryFederation.Proofs.Failure
import QueryFederation.Proofs.Federation.Join
import QueryFederation.Proofs.Federation.RowReads

/-! Results are joined exactly if their selectors have different names and they all count alike. As
long as nothing but the federation closes them, each row of a federation over hits can then be read
through every selector, and no other row can. -/
namespace QueryFederation.Federation
open Entity Result Number

section Counting
variable {ρ : Type} {n : Nat} [ResultSet ρ]

/- What the results answer if they are counted, column after column. -/
def countsOf : List (Column n) → Vector ρ n → List (Except Fault Nat)
  | [], _ => []
  | column :: rest, results =>
    let (answer, after) := onSlot column.slot ResultSet.rowCount results
    answer :: countsOf rest after

/- What keeps a column from being joined to the first one: it cannot be counted, or counts
otherwise. -/
inductive Misaligned (first : Except Fault Nat) : Column n × Except Fault Nat → Fault → Prop where
  | uncounted {column} (fault : Fault) : Misaligned first (column, .error fault) fault
  | differs {column expected actual} (counted : first = .ok expected) (apart : actual ≠ expected) :
      Misaligned first (column, .ok actual) (.rowCountMismatch column.name expected actual)

theorem alignedPasses {column : Column n} {count : Nat} (other : Fault) :
    ¬ Misaligned (.ok count) (column, .ok count) other := by
  intro misaligned
  cases misaligned with
  | differs counted apart => exact apart (Except.ok.inj counted)

theorem uncountedSingle {first : Except Fault Nat} {column : Column n} {fault : Fault}
    (other : Fault) (misaligned : Misaligned first (column, .error fault) other) : fault = other := by
  cases misaligned with
  | uncounted => rfl

theorem differsSingle {column : Column n} {expected actual : Nat} (other : Fault)
    (misaligned : Misaligned (.ok expected) (column, .ok actual) other) :
    .rowCountMismatch column.name expected actual = other := by
  cases misaligned with
  | differs counted apart =>
    cases counted
    rfl

variable {columns : List (Column n)} {results : Vector ρ n} {expected : Nat}

theorem checkCountsOk : (checkCounts expected columns results).1 = .ok () ↔
    ∀ answer ∈ countsOf columns results, answer = .ok expected := by
  induction columns generalizing results with
  | nil => simp [checkCounts, countsOf, Access.pureApply]
  | cons column rest ih =>
    rw [checkCounts, Access.bindApply, countsOf]
    rcases onSlot column.slot ResultSet.rowCount results with ⟨fault | actual, after⟩
    · simp
    · simp only [List.forall_mem_cons, Except.ok.injEq]
      by_cases same : actual = expected
      · simp [same, ih]
      · simp [same, Access.fail]

theorem checkCountsFails {fault : Fault} : (checkCounts expected columns results).1 = .error fault ↔
    FirstFault (Misaligned (.ok expected)) (columns.zip (countsOf columns results)) fault := by
  induction columns generalizing results with
  | nil => exact ⟨fun done => (nomatch done), fun first => (nomatch first)⟩
  | cons column rest ih =>
    rw [checkCounts, Access.bindApply, countsOf]
    rcases onSlot column.slot ResultSet.rowCount results with ⟨early | actual, after⟩
    · rw [List.zip_cons_cons, firstFaultHere (.uncounted early) uncountedSingle]
      simp
    · by_cases same : actual = expected
      · subst same
        rw [List.zip_cons_cons, firstFaultPass alignedPasses, ← ih]
        simp
      · rw [List.zip_cons_cons, firstFaultHere (.differs rfl same) differsSingle]
        simp [same, Access.fail]

theorem alignedCountOk : (alignedCount columns results).1 = .ok expected ↔
    (columns = [] → expected = 0) ∧ ∀ answer ∈ countsOf columns results, answer = .ok expected := by
  cases columns with
  | nil => simp [alignedCount, countsOf, Access.pureApply, eq_comm]
  | cons first rest =>
    simp only [alignedCount, Access.bindOk, Access.pureApply, Except.ok.injEq, countsOf,
      List.forall_mem_cons, reduceCtorEq, false_implies, true_and]
    constructor
    · rintro ⟨count, counted, _, checked, rfl⟩
      exact ⟨counted, checkCountsOk.mp checked⟩
    · rintro ⟨counted, others⟩
      exact ⟨expected, counted, (), checkCountsOk.mpr others, rfl⟩

theorem alignedCountFails {fault : Fault} : (alignedCount columns results).1 = .error fault ↔
    ∃ first, (countsOf columns results).head? = some first ∧
      FirstFault (Misaligned first) (columns.zip (countsOf columns results)) fault := by
  cases columns with
  | nil => simp [alignedCount, countsOf, Access.pureApply]
  | cons column rest =>
    simp only [alignedCount, Access.bindError, checkCountsFails, Access.pureApply, reduceCtorEq,
      and_false, exists_false, or_false, countsOf, List.head?_cons, Option.some.injEq,
      exists_eq_left', List.zip_cons_cons]
    rcases onSlot column.slot ResultSet.rowCount results with ⟨early | count, after⟩
    · simp [firstFaultHere (.uncounted early) uncountedSingle]
    · simp [firstFaultPass alignedPasses]

/- Counting changes no more of the results than a count does. -/
theorem checkCountsKeeps {γ : Type} {view : ρ → γ}
    (keeps : (ResultSet.rowCount : Access ρ Nat).Keeps view) (expected : Nat)
    (columns : List (Column n)) :
    (checkCounts expected columns : Access (Vector ρ n) Unit).Keeps (Vector.map view) := by
  induction columns with
  | nil => exact Access.keepsPure ()
  | cons column rest ih =>
    refine Access.keepsBind (onSlotKeeps keeps column.slot) fun actual => ?_
    split
    · exact ih
    · exact Access.keepsFail _

theorem alignedCountKeeps {γ : Type} {view : ρ → γ}
    (keeps : (ResultSet.rowCount : Access ρ Nat).Keeps view) (columns : List (Column n)) :
    (alignedCount columns : Access (Vector ρ n) Nat).Keeps (Vector.map view) := by
  cases columns with
  | nil => exact Access.keepsPure 0
  | cons first rest =>
    refine Access.keepsBind (onSlotKeeps keeps first.slot) fun count => ?_
    exact Access.keepsBind (checkCountsKeeps keeps count rest) fun _ => Access.keepsPure count

end Counting

section Joining
variable {ρ : Type} {n : Nat} [ResultSet ρ] {columns : List (Column n)} {results : Vector ρ n}
  {options : Options} {lookup : Lookup}

theorem joinUnique (unique : (columns.map Column.name).Nodup) :
    (join columns options lookup : Access (Vector ρ n) (Federation ρ n)) = (do
      let rows ← alignedCount columns
      Access.look fun results => ⟨columns, rows, options, lookup, results, false⟩) := by
  rw [join, Order.firstRepeatNone.mpr unique]

theorem joinOk {set : Federation ρ n} (unique : (columns.map Column.name).Nodup) :
    (join columns options lookup results).1 = .ok set ↔
      ∃ rows, (alignedCount columns results).1 = .ok rows ∧
        set = ⟨columns, rows, options, lookup, (alignedCount columns results).2, false⟩ := by
  simp only [joinUnique unique, Access.bindOk, Access.look, Except.ok.injEq]
  exact exists_congr fun rows => and_congr_right fun _ => eq_comm

theorem joinFails {fault : Fault} (unique : (columns.map Column.name).Nodup) :
    (join columns options lookup results).1 = .error fault ↔
      (alignedCount columns results).1 = .error fault := by
  simp only [joinUnique unique, Access.bindError, Access.look, reduceCtorEq, and_false,
    exists_false, or_false]

theorem joinRepeated (twice : ¬ (columns.map Column.name).Nodup) :
    ∃ before name after, columns.map Column.name = before ++ name :: after ∧ before.Nodup ∧
      name ∈ before ∧ ∀ results : Vector ρ n,
        join columns options lookup results = (.error (.duplicateSelector name), results) := by
  cases repeated : Order.firstRepeat? (columns.map Column.name) with
  | none => exact absurd (Order.firstRepeatNone.mp repeated) twice
  | some name =>
    obtain ⟨before, after, split, unique, member⟩ := Order.firstRepeatSome repeated
    refine ⟨before, name, after, split, unique, member, fun results => ?_⟩
    unfold join
    rw [repeated]
    rfl

/- What joining comes to. Selectors with one name are refused whatever the results are, and none of
the results is touched. -/
structure JoinsAligned (columns : List (Column n)) (options : Options) (lookup : Lookup)
    (results : Vector ρ n) : Prop where
  accepted : (∃ set, (join columns options lookup results).1 = .ok set) ↔
    (columns.map Column.name).Nodup ∧
      ∃ count, ∀ answer ∈ countsOf columns results, answer = .ok count
  built : ∀ set, (join columns options lookup results).1 = .ok set →
    set.columns = columns ∧ set.options = options ∧ set.lookup = lookup ∧ set.closed = false ∧
      ∀ answer ∈ countsOf columns results, answer = .ok set.rows
  repeated : ¬ (columns.map Column.name).Nodup →
    ∃ before name after, columns.map Column.name = before ++ name :: after ∧ before.Nodup ∧
      name ∈ before ∧ ∀ results : Vector ρ n,
        join columns options lookup results = (.error (.duplicateSelector name), results)
  misaligned : (columns.map Column.name).Nodup → ∀ fault,
    (join columns options lookup results).1 = .error fault ↔
      ∃ first, (countsOf columns results).head? = some first ∧
        FirstFault (Misaligned first) (columns.zip (countsOf columns results)) fault

theorem joinedUnique {set : Federation ρ n}
    (joined : (join columns options lookup results).1 = .ok set) :
    (columns.map Column.name).Nodup := by
  by_contra twice
  obtain ⟨_, _, _, _, _, _, refused⟩ := @joinRepeated ρ n _ columns options lookup twice
  rw [refused results] at joined
  contradiction

theorem joinsAligned : JoinsAligned columns options lookup results where
  accepted := by
    constructor
    · rintro ⟨set, joined⟩
      have unique := joinedUnique joined
      obtain ⟨rows, counted, -⟩ := (joinOk unique).mp joined
      exact ⟨unique, rows, (alignedCountOk.mp counted).2⟩
    · rintro ⟨unique, count, counted⟩
      cases columns with
      | nil => exact ⟨_, (joinOk unique).mpr ⟨0, rfl, rfl⟩⟩
      | cons first rest =>
        have aligned : (alignedCount (first :: rest) results).1 = .ok count :=
          alignedCountOk.mpr ⟨by simp, counted⟩
        exact ⟨_, (joinOk unique).mpr ⟨count, aligned, rfl⟩⟩
  built set joined := by
    obtain ⟨rows, counted, rfl⟩ := (joinOk (joinedUnique joined)).mp joined
    exact ⟨rfl, rfl, rfl, rfl, (alignedCountOk.mp counted).2⟩
  repeated := joinRepeated
  misaligned unique fault := (joinFails unique).trans alignedCountFails

end Joining

section Rows
variable {n : Nat} {columns : List (Column n)} {results : Vector Hits n} {row : Nat}

/- What the results of the selectors hold in a row. -/
def HoldsRow (columns : List (Column n)) (results : Vector Hits n) (row : Nat)
    (held : Fin n → Row) : Prop :=
  ∀ column ∈ columns, ∃ rows,
    (results.get column.slot).rows = some rows ∧ rows[row]? = some (held column.slot)

/- A row is answered through every selector from its own result. -/
structure AnswersRow (columns : List (Column n)) (row : Nat) (held : Fin n → Row)
    (set : Federation Hits n) : Prop where
  view : (Federation.row row set).1 = .ok ⟨row⟩
  entityIdOf : ∀ column ∈ columns,
    (RowView.entityIdOf ⟨row⟩ column.name set).1 = .ok (some (held column.slot).entity)
  scoreOf : ∀ column ∈ columns,
    (RowView.scoreOf ⟨row⟩ column.name set).1 = .ok (some (held column.slot).score)
  unknown : ∀ name, name ∉ columns.map Column.name →
    (RowView.entityIdOf ⟨row⟩ name set).1 = .ok none ∧ (RowView.scoreOf ⟨row⟩ name set).1 = .ok none
  entityIds : (RowView.entityIds ⟨row⟩ set).1 =
    .ok (columns.map fun column => (column.name, (held column.slot).entity))
  scores : (RowView.scores ⟨row⟩ set).1 =
    .ok (columns.map fun column => (column.name, (held column.slot).score))
  entityId : ∀ fault, (entityId row set).1 = .error fault → fault = .ambiguous row .entityId
  score : ∀ fault, (score row set).1 = .error fault → fault = .ambiguous row .score

theorem hitsCounted {hits : Hits} {count : Nat} :
    (ResultSet.rowCount hits).1 = .ok count ↔
      ∃ rows, hits.rows = some rows ∧ rows.length = count := by
  change (do return (← hits.held).length : Except Fault Nat) = .ok count ↔ _
  rw [Hits.held]
  cases hits.rows with
  | none => simp [bind, Except.bind]
  | some rows => simp [bind, Except.bind, pure, Except.pure]

theorem countsHeld (columns : List (Column n)) (results : Vector Hits n) :
    countsOf columns results =
      columns.map fun column => (ResultSet.rowCount (results.get column.slot)).1 := by
  induction columns with
  | nil => rfl
  | cons column rest ih =>
    have steady : onSlot column.slot ResultSet.rowCount results =
        ((ResultSet.rowCount (results.get column.slot)).1, results) := onSlotSteady rfl
    rw [countsOf, steady, List.map_cons, ← ih]

theorem hitRead {hits : Hits} {rows : List Row} {found : Row} (held : hits.rows = some rows)
    (inside : rows[row]? = some found) :
    (ResultSet.entityId row hits).1 = .ok found.entity ∧
      (ResultSet.score row hits).1 = .ok found.score := by
  have answered : hits.row row = .ok found := by
    simp [Hits.row, Hits.held, held, inside, bind, Except.bind]
  simp [ResultSet.entityId, ResultSet.score, Hits.read, answered, bind, Except.bind, pure,
    Except.pure]

/- What is joined has as many rows as each of its results. -/
theorem joinedHolds {options : Options} {lookup : Lookup} {set : Federation Hits n}
    (joined : (join columns options lookup results).1 = .ok set) (inside : row < set.rows) :
    ∃ held, HoldsRow columns results row held := by
  have counted := (joinsAligned.built set joined).2.2.2.2
  rw [countsHeld, List.forall_mem_map] at counted
  have every (column : Column n) (member : column ∈ columns) : ∃ rows found,
      (results.get column.slot).rows = some rows ∧ rows[row]? = some found := by
    obtain ⟨rows, held, length⟩ := hitsCounted.mp (counted column member)
    exact ⟨rows, rows[row], held, List.getElem?_eq_getElem (length ▸ inside)⟩
  let held (slot : Fin n) : Row := ((results.get slot).rows.getD [])[row]?.getD ⟨⟨""⟩, ⟨0⟩⟩
  refine ⟨held, fun column member => ?_⟩
  obtain ⟨rows, found, known, there⟩ := every column member
  exact ⟨rows, known, by simp [held, known, there]⟩

section Answers
variable {set : Federation Hits n} (opened : set.closed = false) (filled : set.columns ≠ [])
include opened filled

theorem answersRow (unique : (set.columns.map Column.name).Nodup) (inside : row < set.rows)
    {held : Fin n → Row} (holds : HoldsRow set.columns set.results row held) :
    AnswersRow set.columns row held set := by
  have here := perusedStart set
  have counted := openCount opened filled
  have byRow (column : Column n) (_ : column ∈ set.columns) :=
    hitsAnswerByRow set.results column.slot
  have identities := steadyIds byRow row
  have values := steadyScores byRow row
  have ids (column : Column n) (member : column ∈ set.columns) :
      heldIds set.results column.slot row = .ok (held column.slot).entity := by
    obtain ⟨rows, known, there⟩ := holds column member
    exact (hitRead known there).1
  have scores (column : Column n) (member : column ∈ set.columns) :
      heldScores set.results column.slot row = .ok (held column.slot).score := by
    obtain ⟨rows, known, there⟩ := holds column member
    exact (hitRead known there).2
  constructor
  case view =>
    have view : (Federation.row row : Access (Federation Hits n) RowView).Gives (Perused set)
        ⟨row⟩ := Access.givesBind (checkRowPerused counted inside) (Access.givesPure _)
    exact (view set here).2
  case entityIdOf =>
    intro column member
    refine (readOfAnswers opened identities unique member set here).2.trans ?_
    rw [ids column member]
    rfl
  case scoreOf =>
    intro column member
    refine (readOfAnswers opened values unique member set here).2.trans ?_
    rw [scores column member]
    rfl
  case unknown => exact fun name unknown => ⟨readOfUnknown unknown _, readOfUnknown unknown _⟩
  case entityIds => exact (readAllAnswers opened identities set here).2.trans (namedOk ids)
  case scores => exact (readAllAnswers opened values set here).2.trans (namedOk scores)
  case entityId =>
    intro fault failed
    rw [entityIdVerdict byRow opened filled inside] at failed
    exact verdictAmbiguous filled (fun column member => ⟨_, ids column member⟩) failed
  case score =>
    intro fault failed
    rw [scoreVerdict byRow opened filled inside] at failed
    exact verdictAmbiguous filled (fun column member => ⟨_, scores column member⟩) failed

end Answers

end Rows

section Beyond
variable {ρ α : Type} {n : Nat} {set : Federation ρ n} {row : Nat}

/- No read of a row that there is not comes to the results. -/
theorem checkRowBeyond (opened : set.closed = false) (filled : set.columns ≠ [])
    (beyond : set.rows ≤ row) :
    (checkRow row).Answers (fun later => later = set) (.error (.rowOutOfRange row set.rows)) := by
  have counted :
      (rowCount : Access (Federation ρ n) Nat).Gives (fun later => later = set) set.rows := by
    rintro later rfl
    exact ⟨by rw [rowCountEq], openCount opened filled⟩
  refine Access.answersAfter counted ?_
  rw [if_neg (not_lt.mpr beyond)]
  exact Access.answersFail _

theorem beyondRows [ResultSet ρ] (opened : set.closed = false) (filled : set.columns ≠ [])
    (beyond : set.rows ≤ row) :
    (Federation.row row set).1 = .error (.rowOutOfRange row set.rows) ∧
      (entityId row set).1 = .error (.rowOutOfRange row set.rows) ∧
      (score row set).1 = .error (.rowOutOfRange row set.rows) := by
  have refused := checkRowBeyond opened filled beyond
  exact ⟨(Access.answersFault refused set rfl).2, (Access.answersFault refused set rfl).2,
    (Access.answersFault refused set rfl).2⟩

end Beyond

theorem mapId {ρ : Type} {n : Nat} (set : Federation ρ n) : set.map id = set := by
  simp only [map, Vector.map_id]

namespace Session

/- The run lemma: what reads of results keep is kept until there is a close. -/
theorem runKeeps {ρ γ : Type} {n : Nat} [ResultSet ρ] {view : ρ → γ} (keeps : ReadsKeep view)
    {operations : List Operation} (reads : .close ∉ operations) (session : Session ρ n) :
    (run operations session).2.set.map view = session.set.map view := by
  induction operations generalizing session with
  | nil => rfl
  | cons operation rest ih =>
    obtain ⟨read, later⟩ := List.ne_and_not_mem_of_not_mem_cons reads
    exact (ih later _).trans (performKeeps keeps read.symm session)

theorem hitsUnchanged {n : Nat} {operations : List Operation} (reads : .close ∉ operations)
    (set : Federation Hits n) : (run operations (start set)).2.set = set := by
  have kept := runKeeps hitsReadsKeep reads (start set)
  rwa [mapId, mapId] at kept

end Session

theorem joinedResults {n : Nat} {columns : List (Column n)} {options : Options} {lookup : Lookup}
    {results : Vector Hits n} {set : Federation Hits n}
    (joined : (join columns options lookup results).1 = .ok set) : set.results = results := by
  obtain ⟨rows, -, rfl⟩ := (joinOk (joinedUnique joined)).mp joined
  simpa only [Vector.map_id] using alignedCountKeeps hitsReadsKeep.rowCount columns results

theorem joinedAddressable {ρ : Type} [ResultSet ρ] {n : Nat} (columns : List (Column n))
    (options : Options) (lookup : Lookup) :
    (∀ results : Vector ρ n, JoinsAligned columns options lookup results) ∧
    ∀ (results : Vector Hits n) (set : Federation Hits n),
      (join columns options lookup results).1 = .ok set → columns ≠ [] →
      ∀ operations, .close ∉ operations →
        let now := (Session.run operations (Session.start set)).2.set
        (rowCount now).1 = .ok set.rows ∧
        (∀ row < set.rows, ∃ held,
          HoldsRow columns results row held ∧ AnswersRow columns row held now) ∧
        ∀ row, set.rows ≤ row →
          (Federation.row row now).1 = .error (.rowOutOfRange row set.rows) ∧
            (entityId row now).1 = .error (.rowOutOfRange row set.rows) ∧
            (score row now).1 = .error (.rowOutOfRange row set.rows) := by
  refine ⟨fun results => joinsAligned, fun results set joined filled operations reads => ?_⟩
  have unique := joinedUnique joined
  obtain ⟨rfl, -, -, opened, -⟩ := joinsAligned.built set joined
  have same := joinedResults joined
  intro now
  have unchanged : now = set := Session.hitsUnchanged reads set
  rw [unchanged]
  refine ⟨openCount opened filled, fun row inside => ?_, fun row beyond => ?_⟩
  · obtain ⟨held, holds⟩ := joinedHolds joined inside
    exact ⟨held, holds, answersRow opened filled unique inside (same ▸ holds)⟩
  · exact beyondRows opened filled beyond

def trioJoined : Federation Hits 2 := ⟨trio, 2, {}, Register.lookup {}, trioResults, false⟩

theorem trioAddressable :
    (join trio {} (Register.lookup {}) trioResults).1 = .ok trioJoined ∧ trio ≠ [] ∧
      Operation.close ∉ [.page, .entityId 1] ∧
      let now := (Session.run [.page, .entityId 1] (Session.start trioJoined)).2.set
      (rowCount now).1 = .ok 2 ∧
      (∃ held, HoldsRow trio trioResults 1 held ∧ AnswersRow trio 1 held now) ∧
      (entityId 2 now).1 = .error (.rowOutOfRange 2 2) := by
  have joined : (join trio {} (Register.lookup {}) trioResults).1 = .ok trioJoined := by rfl
  have filled : trio ≠ [] := List.cons_ne_nil _ _
  have reads : Operation.close ∉ [.page, .entityId 1] := by decide
  obtain ⟨counted, inside, beyond⟩ := (joinedAddressable (ρ := Hits) trio {} (Register.lookup {})).2
    trioResults trioJoined joined filled [.page, .entityId 1] reads
  exact ⟨joined, filled, reads, counted, inside 1 (by decide), (beyond 2 (by decide)).2.1⟩

end QueryFederation.Federation
