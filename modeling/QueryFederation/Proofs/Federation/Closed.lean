import QueryFederation.Proofs.Federation.Traversal

/-! A closed federation answers no read, be it a read of its own or one of a row view that was
obtained while it was open. What it knows without its results stays as it was. -/
namespace QueryFederation
open Entity Result Number

namespace Federation

section
variable {ρ α : Type} {n : Nat} {columns : List (Column n)}

def ClosedWith (columns : List (Column n)) (set : Federation ρ n) : Prop :=
  set.closed = true ∧ set.columns = columns

/- Every read looks first whether the set is open. -/
theorem ensureOpenClosed :
    (ensureOpen : Access (Federation ρ n) Unit).Answers (ClosedWith columns) (.error .closed) :=
  Access.answersAfter (Access.givesLook fun _ known => known.1) (Access.answersFail .closed)

theorem rowCountClosed :
    (rowCount : Access (Federation ρ n) Nat).Answers (ClosedWith columns) (.error .closed) :=
  Access.answersFault ensureOpenClosed

theorem checkRowClosed (row : Nat) :
    (checkRow row : Access (Federation ρ n) Unit).Answers (ClosedWith columns) (.error .closed) :=
  Access.answersFault rowCountClosed

theorem agreedClosed [DecidableEq α] (row : Nat) (what : Agreed) (get : Access ρ α) :
    (agreed row what get : Access (Federation ρ n) α).Answers (ClosedWith columns)
      (.error .closed) :=
  Access.answersFault (checkRowClosed row)

theorem readThroughClosed (get : Access ρ α) (column : Column n) :
    (readThrough get column).Answers (ClosedWith columns) (.error .closed) :=
  Access.answersFault ensureOpenClosed

theorem readOfClosed (get : Access ρ α) {name : String} (known : name ∈ columns.map Column.name) :
    (RowView.readOf get name).Answers (ClosedWith columns) (.error .closed) := by
  have named : ∃ column, columns.find? (fun column => column.name = name) = some column := by
    obtain ⟨column, member, same⟩ := List.mem_map.mp known
    exact Option.isSome_iff_exists.mp
      (List.find?_isSome.mpr ⟨column, member, decide_eq_true same⟩)
  obtain ⟨column, found⟩ := named
  have looked : (Access.look fun set : Federation ρ n => set.column? name).Gives
      (ClosedWith columns) (some column) :=
    Access.givesLook fun _ here => by rw [column?, here.2, found]
  exact Access.answersAfter looked (Access.answersFault (readThroughClosed get column))

theorem readAllClosed (get : Access ρ α) (filled : columns ≠ []) :
    (RowView.readAll get).Answers (ClosedWith columns) (.error .closed) := by
  refine Access.answersAfter (Access.givesLook fun _ here => here.2) ?_
  cases columns with
  | nil => contradiction
  | cons first rest =>
    rw [List.mapM_cons]
    exact Access.answersFault (Access.answersFault (readThroughClosed get first))

end

/- The reads of a federation with these selectors, and those of these row views. A view can be
asked for every selector, or for one of those there are. -/
inductive Operation.Reading (selectors : List String) (views : List RowView) : Operation → Prop where
  | rowCount : Reading selectors views .rowCount
  | isEmpty : Reading selectors views .isEmpty
  | hasMore : Reading selectors views .hasMore
  | row (row : Nat) : Reading selectors views (.row row)
  | entityId (row : Nat) : Reading selectors views (.entityId row)
  | score (row : Nat) : Reading selectors views (.score row)
  | primaryParent (row : Nat) : Reading selectors views (.primaryParent row)
  | entityIds : Reading selectors views .entityIds
  | primaryParents : Reading selectors views .primaryParents
  | page : Reading selectors views .page
  | openCursor : Reading selectors views .openCursor
  | viewEntityIdOf {view selector} (obtained : view ∈ views) (known : selector ∈ selectors) :
      Reading selectors views (.viewEntityIdOf view selector)
  | viewScoreOf {view selector} (obtained : view ∈ views) (known : selector ∈ selectors) :
      Reading selectors views (.viewScoreOf view selector)
  | viewEntityIds {view} (obtained : view ∈ views) : Reading selectors views (.viewEntityIds view)
  | viewScores {view} (obtained : view ∈ views) : Reading selectors views (.viewScores view)
  | viewEntityId {view} (obtained : view ∈ views) : Reading selectors views (.viewEntityId view)
  | viewScore {view} (obtained : view ∈ views) : Reading selectors views (.viewScore view)

def Event.view? : Event → Option RowView
  | ⟨.row _, .ok view⟩ => some view
  | ⟨.advance _, .ok (some (.ok view))⟩ => some view
  | _ => none

def obtained (events : List Event) : List RowView := events.filterMap Event.view?

namespace Session

variable {ρ : Type} {n : Nat} [ResultSet ρ]

theorem performClosed {session : Session ρ n} (closed : session.set.closed = true)
    {views : List RowView} (filled : views ≠ [] → session.set.columns ≠ []) {operation : Operation}
    (reading : operation.Reading session.set.selectors views) :
    (perform operation session).1 = .error .closed := by
  have here : ClosedWith session.set.columns session.set := ⟨closed, rfl⟩
  cases reading with
  | rowCount => exact (rowCountClosed session.set here).2
  | isEmpty => exact (Access.answersFault rowCountClosed session.set here).2
  | hasMore => exact (Access.answersFault ensureOpenClosed session.set here).2
  | row row => exact (Access.answersFault (checkRowClosed row) session.set here).2
  | entityId row => exact (agreedClosed row _ _ session.set here).2
  | score row => exact (agreedClosed row _ _ session.set here).2
  | primaryParent row =>
    exact (Access.answersFault (agreedClosed row _ (ResultSet.entityId row)) session.set here).2
  | entityIds => exact (Access.answersFault rowCountClosed session.set here).2
  | primaryParents => exact (Access.answersFault rowCountClosed session.set here).2
  | page => exact (Access.answersFault rowCountClosed session.set here).2
  | openCursor => rw [openCursorEq, if_pos closed]
  | viewEntityIdOf obtained known => exact (readOfClosed _ known session.set here).2
  | viewScoreOf obtained known => exact (readOfClosed _ known session.set here).2
  | viewEntityIds obtained =>
    exact (readAllClosed _ (filled (List.ne_nil_of_mem obtained)) session.set here).2
  | viewScores obtained =>
    exact (readAllClosed _ (filled (List.ne_nil_of_mem obtained)) session.set here).2
  | viewEntityId obtained => exact (agreedClosed _ _ _ session.set here).2
  | viewScore obtained => exact (agreedClosed _ _ _ session.set here).2

/- A federation without selectors hands out no row views: it has no rows, and no cursor can be
opened on it. -/
theorem performWithout {session : Session ρ n} (without : session.set.columns = [])
    (unopened : session.cursors = []) (operation : Operation) :
    (perform operation session).2.cursors = [] ∧
      Event.view? ⟨operation, (perform operation session).1⟩ = none := by
  have counted : ∃ fault, rowCount session.set = (.error fault, session.set) := by
    rw [rowCountEq, if_pos without]
    cases session.set.closed
    · exact ⟨_, rfl⟩
    · exact ⟨_, rfl⟩
  obtain ⟨fault, counted⟩ := counted
  cases operation with
  | row row =>
    have failed : perform (.row row) session = (.error fault, session) := by
      simp only [perform, onSet, Federation.row, checkRow, Access.bindApply, counted]
      rfl
    rw [failed]
    exact ⟨unopened, rfl⟩
  | openCursor =>
    refine ⟨?_, rfl⟩
    rw [openCursorEq, if_pos without]
    split <;> exact unopened
  | advance number =>
    have nothing : perform (.advance number) session = (.ok none, session) := by
      simp only [perform, advanceCursor, unopened, List.getElem?_nil]
      rfl
    rw [nothing]
    exact ⟨unopened, rfl⟩
  | _ => exact ⟨unopened, rfl⟩

theorem runWithout (operations : List Operation) {session : Session ρ n}
    (without : session.set.columns = []) (unopened : session.cursors = []) :
    obtained (run operations session).1 = [] := by
  induction operations generalizing session with
  | nil => rfl
  | cons operation rest ih =>
    obtain ⟨still, unseen⟩ := performWithout without unopened operation
    have columns : (perform operation session).2.set.columns = [] :=
      (runColumns [operation] session).trans without
    change obtained (⟨operation, (perform operation session).1⟩ :: _) = []
    rw [obtained, List.filterMap_cons, unseen]
    exact ih columns still

theorem closedAbsorbs (set : Federation ρ n) {operations : List Operation}
    (closes : .close ∈ operations) :
    let events := (run operations (start set)).1
    let last := (run operations (start set)).2
    (∀ operation : Operation, operation.Reading set.selectors (obtained events) →
      (perform operation last).1 = .error .closed) ∧
    last.set.closed = true ∧ last.set.start = set.start ∧ last.set.maxItems = set.maxItems ∧
    last.set.options = set.options ∧ last.set.selectors = set.selectors ∧
    last.set.metadata = set.metadata ∧ last.set.shape = set.shape := by
  intro events last
  have columns : last.set.columns = set.columns := runColumns operations (start set)
  have options : last.set.options = set.options := runOptions operations (start set)
  have closed : last.set.closed = true := runClosed operations (start set) closes
  have filled : obtained events ≠ [] → last.set.columns ≠ [] := by
    intro seen without
    exact seen (runWithout operations (columns.symm.trans without) rfl)
  have selectors : last.set.selectors = set.selectors := congrArg (List.map Column.name) columns
  have shape : last.set.shape = set.shape := congrArg Shape.of columns
  refine ⟨fun operation reading => ?_, closed, congrArg Options.skip options,
    congrArg Options.maxItems options, options, selectors, ?_, shape⟩
  · rw [← selectors] at reading
    exact performClosed closed filled reading
  · rw [metadata, metadata, selectors, shape, options]

/- A row view and a cursor are obtained before the close, which fails to release a result. -/
theorem aroundAbsorbs :
    let operations : List Operation := [.row 0, .openCursor, .close, .advance 0]
    let events := (run operations (start around)).1
    let last := (run operations (start around)).2
    .close ∈ operations ∧
      (Operation.viewScores ⟨0⟩).Reading around.selectors (obtained events) ∧
      (perform (.viewScores ⟨0⟩) last).1 = .error .closed ∧ last.set.closed = true ∧
      last.set.metadata = around.metadata := by
  intro operations events last
  have closes : .close ∈ operations := by decide
  have reading : (Operation.viewScores ⟨0⟩).Reading around.selectors (obtained events) :=
    .viewScores (List.mem_of_getElem? (i := 0) rfl)
  obtain ⟨reads, closed, -, -, -, -, metadata, -⟩ := closedAbsorbs around closes
  exact ⟨closes, reading, reads _ reading, closed, metadata⟩

/- Whether it is closed is the one thing of these that a federation answers anew. -/
theorem closingIsSeen :
    let operations : List Operation := [.close]
    .close ∈ operations ∧ (run operations (start twoRows)).2.set.closed ≠ twoRows.closed := by
  intro operations
  exact ⟨List.mem_cons_self, Bool.noConfusion⟩

end Session

end Federation

end QueryFederation
