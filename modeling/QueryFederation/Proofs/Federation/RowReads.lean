import QueryFederation.Proofs.Federation.Agreement

/-! The reads of single selectors in a row, for one selector and for all of them in their order. -/
namespace QueryFederation.Federation
open Entity Result Number

variable {ρ α : Type} {n : Nat}

section Named
variable {answer : Column n → Except Fault α}

/- An answer under the name of its selector. -/
def named (answer : Column n → Except Fault α) (column : Column n) : Except Fault (String × α) := do
  return (column.name, ← answer column)

theorem namedSucceeds {column : Column n} {found : String × α} :
    named answer column = .ok found ↔ found.1 = column.name ∧ answer column = .ok found.2 := by
  simp only [named, bindSucceeds, pureSucceeds]
  constructor
  · rintro ⟨value, answered, rfl⟩
    exact ⟨rfl, answered⟩
  · rintro ⟨name, answered⟩
    exact ⟨found.2, answered, Prod.ext name.symm rfl⟩

theorem namedAll {columns : List (Column n)} :
    (∃ found, columns.mapM (named answer) = .ok found) ↔
      ∀ column ∈ columns, ∃ value, answer column = .ok value := by
  simp only [mapAllSucceed, named, buildSucceeds]

theorem namedOk {columns : List (Column n)} {f : Column n → α}
    (each : ∀ column ∈ columns, answer column = .ok (f column)) :
    columns.mapM (named answer) = .ok (columns.map fun column => (column.name, f column)) := by
  rw [mapSucceeds, List.forall₂_map_right_iff, List.forall₂_same]
  exact fun column member => namedSucceeds.mpr ⟨rfl, each column member⟩

end Named

section Verdicts
variable [DecidableEq α] {row : Nat} {what : Agreed} {columns : List (Column n)}
  {answer : Column n → Except Fault α} (filled : columns ≠ [])
  (unfailing : ∀ column ∈ columns, ∃ value, answer column = .ok value)
include filled unfailing

/- Where no selector fails, all that can come of them is that they differ. -/
theorem verdictAmbiguous {fault : Fault}
    (failed : verdict row what (columns.map answer) = .error fault) :
    fault = .ambiguous row what := by
  rcases (verdictFault (mt List.map_eq_nil_iff.mp filled)).mp failed with
    ⟨-, ambiguous⟩ | ⟨-, first⟩
  · exact ambiguous
  · rw [unfailingFaults (List.forall_mem_map.mpr unfailing)] at first
    contradiction

end Verdicts

variable {set : Federation ρ n}

theorem rowCountOpen (opened : set.closed = false) (filled : set.columns ≠ []) :
    rowCount set = (.ok set.rows, set) := by
  rw [rowCountEq, opened, if_neg Bool.false_ne_true, if_neg filled]

theorem openCount (opened : set.closed = false) (filled : set.columns ≠ []) :
    (rowCount set).1 = .ok set.rows := congrArg Prod.fst (rowCountOpen opened filled)

/- A name leads to the one selector that has it. -/
theorem columnNamed (unique : (set.columns.map Column.name).Nodup) {column : Column n}
    (member : column ∈ set.columns) : set.column? column.name = some column := by
  cases found : set.column? column.name with
  | none =>
    have absent := List.find?_eq_none.mp found column member
    simp at absent
  | some other =>
    have same : other.name = column.name := by simpa using List.find?_some found
    exact congrArg some
      (List.inj_on_of_nodup_map unique (List.mem_of_find?_eq_some found) member same)

theorem columnUnknown {name : String} (unknown : name ∉ set.columns.map Column.name) :
    set.column? name = none := by
  refine List.find?_eq_none.mpr fun column member => ?_
  simpa using fun same : column.name = name => unknown (same ▸ List.mem_map_of_mem member)

variable [ResultSet ρ]

theorem ensureOpenPerused (opened : set.closed = false) :
    (ensureOpen : Access (Federation ρ n) Unit).Gives (Perused set) () := by
  refine Access.givesBind (Access.givesLook fun _ perused => perused.closed.trans opened) ?_
  exact Access.givesPure ()

section Reads
variable {get : Access ρ α} {answer : Fin n → Except Fault α}

theorem readThroughAnswers (opened : set.closed = false) (steady : Steady set get answer)
    {column : Column n} (member : column ∈ set.columns) :
    (readThrough get column).Answers (Perused set) (answer column.slot) :=
  Access.answersAfter (ensureOpenPerused opened) (onResultAnswers steady member)

theorem readAllAnswers (opened : set.closed = false) (steady : Steady set get answer) :
    (RowView.readAll get).Answers (Perused set)
      (set.columns.mapM (named fun column => answer column.slot)) := by
  refine Access.answersAfter (Access.givesLook fun _ perused => perused.columns) ?_
  refine Access.answersMapM fun column member => ?_
  refine Access.answersBind (readThroughAnswers opened steady member) fun value _ => ?_
  exact Access.answersOk (Access.givesPure (column.name, value))

theorem readOfAnswers (opened : set.closed = false) (steady : Steady set get answer)
    (unique : (set.columns.map Column.name).Nodup) {column : Column n}
    (member : column ∈ set.columns) :
    (RowView.readOf get column.name).Answers (Perused set) (some <$> answer column.slot) := by
  have found : (Access.look fun later : Federation ρ n => later.column? column.name).Gives
      (Perused set) (some column) :=
    Access.givesLook fun later perused => by
      rw [column?, perused.columns]
      exact columnNamed unique member
  exact Access.answersAfter found (Access.answersMap some (readThroughAnswers opened steady member))

omit [ResultSet ρ] in
theorem readOfUnknown {name : String} (unknown : name ∉ set.columns.map Column.name)
    (get : Access ρ α) : (RowView.readOf get name set).1 = .ok none := by
  simp only [RowView.readOf, Access.bindApply, Access.look, columnUnknown unknown, Access.pureApply]

end Reads

section Rows
variable {ids : Fin n → Nat → Except Fault EntityId} {scores : Fin n → Nat → Except Fault Binary32}
  (byRow : ∀ column ∈ set.columns,
    AnswersByRow (set.results.get column.slot) (ids column.slot) (scores column.slot))
include byRow

theorem steadyIds (row : Nat) :
    Steady set (ResultSet.entityId row) fun slot => ids slot row where
  reads _ _ earlier := .entityId earlier row
  answers column member later read := (byRow column member).entityId later read row

theorem steadyScores (row : Nat) :
    Steady set (ResultSet.score row) fun slot => scores slot row where
  reads _ _ earlier := .score earlier row
  answers column member later read := (byRow column member).score later read row

section
variable (opened : set.closed = false) (filled : set.columns ≠ []) {row : Nat}
  (below : row < set.rows)
include opened filled below

theorem entityIdVerdict : (entityId row set).1 =
    verdict row .entityId (set.columns.map fun column => ids column.slot row) :=
  (agreedAnswers (steadyIds byRow row) (openCount opened filled) below set (perusedStart set)).2

theorem scoreVerdict : (score row set).1 =
    verdict row .score (set.columns.map fun column => scores column.slot row) :=
  (agreedAnswers (steadyScores byRow row) (openCount opened filled) below set (perusedStart set)).2

end

end Rows

/- The first and the last selector share a result. They agree with the middle one on what the first
row is and on the score of the second one. -/
def trio : List (Column 2) :=
  [⟨"first", ⟨0, Nat.zero_lt_two⟩⟩, ⟨"middle", ⟨1, Nat.one_lt_two⟩⟩, ⟨"last", ⟨0, Nat.zero_lt_two⟩⟩]

def trioResults : Vector Hits 2 :=
  #v[Hits.ofRows [⟨⟨"a"⟩, ⟨0⟩⟩, ⟨⟨"b"⟩, ⟨5⟩⟩] false, Hits.ofRows [⟨⟨"a"⟩, ⟨1⟩⟩, ⟨⟨"c"⟩, ⟨5⟩⟩] true]

end QueryFederation.Federation
