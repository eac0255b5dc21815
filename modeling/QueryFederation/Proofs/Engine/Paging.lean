import Mathlib
import QueryFederation.Engine.Executor

/-! Pages of a stored list of rows. A client that goes on from page to page until there is no more
comes to an end, and has read every row once and in order. -/
namespace QueryFederation.Engine
open Index Result

section
variable {ε ρ : Type} [Executor ε ρ] [ResultSet ρ]

def readRow (index : Nat) : Access ρ Row := do
  return ⟨← ResultSet.entityId index, ← ResultSet.score index⟩

def readPage : Access ρ (List Row × Bool) := do
  let count ← ResultSet.rowCount
  let rows ← (List.range count).mapM readRow
  return (rows, ← ResultSet.hasMore)

/- The pages that a client reads, each as long as the one before says that there is more. -/
inductive PagesFrom (query : CompiledQuery) (size : Nat) : Nat → ε → List (List Row) → Prop where
  | last {skip executor result after rows}
      (executed : Executor.execute query skip size executor = (.ok result, after))
      (read : (readPage result).1 = .ok (rows, false)) :
      PagesFrom query size skip executor [rows]
  | next {skip executor result after rows pages}
      (executed : Executor.execute query skip size executor = (.ok result, after))
      (read : (readPage result).1 = .ok (rows, true))
      (later : PagesFrom query size (skip + size) after pages) :
      PagesFrom query size skip executor (rows :: pages)

end

section
variable (rows : List Row) (more : Bool)

theorem readRowHeld {index : Nat} {row : Row} (held : rows[index]? = some row) :
    readRow index (Hits.ofRows rows more) = (.ok row, Hits.ofRows rows more) := by
  have found : (Hits.ofRows rows more).row index = .ok row := by
    simp [Hits.row, Hits.held, Hits.ofRows, held, bind, Except.bind]
  simp [readRow, ResultSet.entityId, ResultSet.score, Hits.read, found, bind, Except.bind, pure,
    Except.pure]

theorem readRowsHeld {left : List Row} {first : Nat} (rest : rows.drop first = left) :
    (List.range' first left.length).mapM readRow (Hits.ofRows rows more) =
      (.ok left, Hits.ofRows rows more) := by
  induction left generalizing first with
  | nil => rfl
  | cons row others ih =>
    have held : rows[first]? = some row := by
      rw [← List.head?_drop, rest, List.head?_cons]
    have later : rows.drop (first + 1) = others := by
      rw [← List.tail_drop, rest, List.tail_cons]
    simp only [List.length_cons, List.range'_succ, List.mapM_cons, Access.bindApply,
      readRowHeld rows more held, ih later, Access.pureApply]

theorem readPageHeld :
    readPage (Hits.ofRows rows more) = (.ok (rows, more), Hits.ofRows rows more) := by
  have read := readRowsHeld rows more List.drop_zero
  have counted : ResultSet.rowCount (Hits.ofRows rows more) =
      (.ok rows.length, Hits.ofRows rows more) := rfl
  have told : ResultSet.hasMore (Hits.ofRows rows more) = (.ok more, Hits.ofRows rows more) := rfl
  simp only [readPage, Access.bindApply, counted, List.range_eq_range', read, told,
    Access.pureApply]

end

variable {rows : List Row} {more : Bool}

theorem pageRows (fits : rows.length < UInt64.size) (skip max : Nat) :
    TableExecutor.page rows skip max =
      Hits.ofRows ((rows.drop skip).take max) (decide (max < rows.length - skip)) := by
  have stop : min (addCounts (min skip rows.length) max) rows.length =
      min (min skip rows.length + max) rows.length := by
    unfold addCounts
    omega
  have start : rows.drop (min skip rows.length) = rows.drop skip := by
    rw [List.drop_eq_drop_iff]
    omega
  have count : (rows.drop skip).take (min (min skip rows.length + max) rows.length -
      min skip rows.length) = (rows.drop skip).take max := by
    rw [List.take_eq_take_iff, List.length_drop]
    omega
  have beyond : min (min skip rows.length + max) rows.length < rows.length ↔
      max < rows.length - skip := by omega
  simp only [TableExecutor.page, stop, start, count, beyond]

/- What a table has stored for a query that it does not fail. The rows of a query without an entry
are none; a stored list is no longer than a word can count. -/
structure Stores (table : TableExecutor) (query : CompiledQuery) (rows : List Row) : Prop where
  unfailing : table.failures.lookup query.query = none
  stored : (table.hits.lookup query.query).getD [] = rows
  fits : rows.length < UInt64.size

variable {table : TableExecutor} {query : CompiledQuery}

theorem executeStored (stores : Stores table query rows) (skip max : Nat) :
    Executor.execute query skip max table =
      (.ok (Hits.ofRows ((rows.drop skip).take max) (decide (max < rows.length - skip))),
        { table with executions := table.executions + 1 }) := by
  have answered : table.answer query skip max =
      .ok (Hits.ofRows ((rows.drop skip).take max) (decide (max < rows.length - skip))) := by
    simp only [TableExecutor.answer, stores.unfailing, stores.stored, pageRows stores.fits]
  simp only [Executor.execute, answered]

theorem storesLater (stores : Stores table query rows) (executions : Nat) :
    Stores { table with executions := executions } query rows :=
  ⟨stores.unfailing, stores.stored, stores.fits⟩

/- Each page brings the client nearer to the end, if there is something on a page. -/
theorem pagesEnd {size : Nat} (positive : 0 < size) (stores : Stores table query rows)
    (skip : Nat) : ∃ pages, PagesFrom query size skip table pages := by
  induction left : rows.length - skip using Nat.strong_induction_on generalizing skip table with
  | _ left ih =>
    have executed := executeStored stores skip size
    have read := congrArg Prod.fst
      (readPageHeld ((rows.drop skip).take size) (decide (size < rows.length - skip)))
    by_cases more : size < rows.length - skip
    · obtain ⟨pages, later⟩ := ih (rows.length - (skip + size)) (by omega)
        (storesLater stores (table.executions + 1)) (skip + size) rfl
      rw [decide_eq_true more] at executed read
      exact ⟨_, .next executed read later⟩
    · rw [decide_eq_false more] at executed read
      exact ⟨_, .last executed read⟩

/- What a client has read of one page. -/
theorem pageRead {skip size : Nat} {result : Hits} {after : TableExecutor} {page : List Row}
    (stores : Stores table query rows)
    (executed : Executor.execute query skip size table = (.ok result, after))
    (read : (readPage result).1 = .ok (page, more)) :
    page = (rows.drop skip).take size ∧ more = decide (size < rows.length - skip) ∧
      Stores after query rows := by
  rw [executeStored stores] at executed
  cases executed
  rw [readPageHeld] at read
  cases read
  exact ⟨rfl, rfl, storesLater stores _⟩

theorem pagesRest {size skip : Nat} {pages : List (List Row)}
    (paged : PagesFrom query size skip table pages) (stores : Stores table query rows) :
    pages.flatten = rows.drop skip := by
  induction paged with
  | last executed read =>
    obtain ⟨rfl, ended, -⟩ := pageRead stores executed read
    have all : rows.length - _ ≤ size := Nat.not_lt.mp (of_decide_eq_false ended.symm)
    rw [← List.length_drop] at all
    simp [List.take_of_length_le all]
  | next executed read later ih =>
    obtain ⟨rfl, -, still⟩ := pageRead stores executed read
    rw [List.flatten_cons, ih still, ← List.drop_drop, List.take_append_drop]

/- A page holds the rows that it is asked for, also where the sum of both counts fits into no word.
Pages of any size, one after the other, are all the rows. -/
theorem pagesLossless (stores : Stores table query rows) :
    (∀ skip max, (Executor.execute query skip max table).1 =
      .ok (Hits.ofRows ((rows.drop skip).take max) (decide (max < rows.length - skip)))) ∧
    ∀ size, 0 < size → (∃ pages, PagesFrom query size 0 table pages) ∧
      ∀ pages, PagesFrom query size 0 table pages → pages.flatten = rows := by
  refine ⟨fun skip max => congrArg Prod.fst (executeStored stores skip max), ?_⟩
  intro size positive
  exact ⟨pagesEnd positive stores 0, fun pages paged => pagesRest paged stores⟩

def threeFiles : List Row := [⟨⟨"one"⟩, ⟨0x3f800000⟩⟩, ⟨⟨"two"⟩, ⟨0⟩⟩, ⟨⟨"three"⟩, ⟨0x7fc00001⟩⟩]

def fileTable : TableExecutor :=
  ({} : TableExecutor).addHits (.term "PARENT" "folder") threeFiles
    |>.addFailure (.term "PARENT" "other") "offline"

def filesQuery : CompiledQuery := ⟨.term "PARENT" "folder", [], 0⟩

theorem threeFilesPaged :
    Stores fileTable filesQuery threeFiles ∧
      (Executor.execute filesQuery 1 (UInt64.size - 1) fileTable).1 =
        .ok (Hits.ofRows threeFiles.tail false) ∧
      0 < 2 ∧ ∃ pages, PagesFrom filesQuery 2 0 fileTable pages ∧ pages.flatten = threeFiles := by
  have stores : Stores fileTable filesQuery threeFiles := ⟨by decide, by decide, by decide⟩
  obtain ⟨page, whole⟩ := pagesLossless stores
  obtain ⟨⟨pages, paged⟩, all⟩ := whole 2 (by decide)
  refine ⟨stores, ?_, by decide, pages, paged, all pages paged⟩
  rw [page]
  rfl

end QueryFederation.Engine
