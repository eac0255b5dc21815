import QueryFederation.Proofs.Federation.Release
import QueryFederation.Proofs.Federation.Sheet

/-! Federations with the same sheet cannot be told apart by what is done with them. -/
namespace QueryFederation
open Entity Result Number

namespace Federation

variable {ρ γ α β : Type} {n m : Nat} {view : ρ → γ} {picture : Federation γ n}
  {image : Federation γ m}

theorem lookAlike {look : Federation ρ n → α} {mirror : Federation ρ m → α} (f : Sheet γ → α)
    (same : picture.sheet = image.sheet) (left : ∀ set, look set = f (set.map view).sheet)
    (right : ∀ set, mirror set = f (set.map view).sheet) :
    Access.Alike (Both view picture image) Eq (Access.look look) (Access.look mirror) := by
  refine Access.alikeLook fun set other known => ?_
  obtain ⟨shown, mirrored⟩ := known
  rw [left set, right other, shown, mirrored, same]

theorem lookColumns :
    Access.Alike (Both view picture image)
      (fun columns others => columns = picture.columns ∧ others = image.columns)
      (Access.look Federation.columns) (Access.look Federation.columns) := by
  refine Access.alikeLook fun set other known => ?_
  obtain ⟨shown, mirrored⟩ := known
  exact ⟨congrArg Federation.columns shown, congrArg Federation.columns mirrored⟩

section
variable (same : picture.sheet = image.sheet)
include same

theorem ensureOpenAlike :
    Access.Alike (Both view picture image) Eq (ensureOpen : Access (Federation ρ n) Unit)
      ensureOpen := by
  refine Access.alikeBind (lookAlike Sheet.closed same (fun _ => rfl) fun _ => rfl) ?_
  intro closed _ equal
  subst equal
  split
  · exact Access.alikeFail _
  · exact Access.alikePure rfl

theorem rowCountAlike :
    Access.Alike (Both view picture image) Eq (rowCount : Access (Federation ρ n) Nat)
      rowCount := by
  have empty {k : Nat} (set : Federation ρ k) :
      set.columns.isEmpty = (set.map view).sheet.columns.isEmpty := by
    simp [sheet, map]
  refine Access.alikeBind (ensureOpenAlike same) fun _ _ _ => ?_
  have looked := lookAlike (fun sheet => sheet.columns.isEmpty) same
    (fun set : Federation ρ n => empty set) fun set : Federation ρ m => empty set
  refine Access.alikeBind looked fun none _ equal => ?_
  subst equal
  split
  · exact Access.alikeFail _
  · exact lookAlike Sheet.rows same (fun _ => rfl) fun _ => rfl

theorem isEmptyAlike :
    Access.Alike (Both view picture image) Eq (isEmpty : Access (Federation ρ n) Bool) isEmpty :=
  Access.alikeBind (rowCountAlike same) fun _ _ equal =>
    Access.alikePure (congrArg (fun count => count == 0) equal)

theorem checkRowAlike (row : Nat) :
    Access.Alike (Both view picture image) Eq (checkRow row : Access (Federation ρ n) Unit)
      (checkRow row) := by
  refine Access.alikeBind (rowCountAlike same) fun count _ equal => ?_
  subst equal
  split
  · exact Access.alikePure rfl
  · exact Access.alikeFail _

theorem rowAlike (row : Nat) :
    Access.Alike (Both view picture image) Eq
      (Federation.row row : Access (Federation ρ n) RowView) (Federation.row row) :=
  Access.alikeBind (checkRowAlike same row) fun _ _ _ => Access.alikePure rfl

theorem cursorAlike :
    Access.Alike (Both view picture image) Eq (cursor : Access (Federation ρ n) Cursor) cursor :=
  Access.alikeBind (rowCountAlike same) fun _ _ equal =>
    Access.alikePure (congrArg (fun count => (⟨0, count⟩ : Cursor)) equal)

theorem eachRowAlike {each : Nat → Access (Federation ρ n) α}
    {mirror : Nat → Access (Federation ρ m) α}
    (alike : ∀ row, Access.Alike (Both view picture image) Eq (each row) (mirror row)) :
    Access.Alike (Both view picture image) Eq
      (do (List.range (← rowCount)).mapM each) (do (List.range (← rowCount)).mapM mirror) := by
  refine Access.alikeBind (rowCountAlike same) fun count _ equal => ?_
  subst equal
  exact Access.alikeMapM (List.forall₂_same.mpr fun row _ => alike row)

omit same in
theorem unlessAmbiguousAlike {access : Access (Federation ρ n) α}
    {mirror : Access (Federation ρ m) α}
    (alike : Access.Alike (Both view picture image) Eq access mirror) :
    Access.Alike (Both view picture image) Eq (unlessAmbiguous access)
      (unlessAmbiguous mirror) := by
  refine Access.alikeBind (Access.alikeAttempt alike) fun answer _ equal => ?_
  subst equal
  split
  · exact Access.alikePure rfl
  · exact Access.alikePure rfl
  · exact Access.alikeFail _

theorem pairedSheet : Paired picture.results image.results picture.columns image.columns :=
  pairedColumns.mpr (congrArg Sheet.columns same)

section
variable {get : Access ρ α}

theorem readThroughAlike (clear : Clear view get) {column : Column n} {other : Column m}
    (equal : entry picture.results column = entry image.results other) :
    Access.Alike (Both view picture image) Eq (readThrough get column)
      (readThrough get other) :=
  Access.alikeBind (ensureOpenAlike same) fun _ _ _ =>
    onResultAlike clear (Prod.mk.inj equal).2

theorem readAllAlike (clear : Clear view get) :
    Access.Alike (Both view picture image) Eq
      (RowView.readAll get : Access (Federation ρ n) (List (String × α)))
      (RowView.readAll get) := by
  refine Access.alikeBind lookColumns fun columns others known => ?_
  obtain ⟨rfl, rfl⟩ := known
  refine Access.alikeMapM ((pairedSheet same).imp fun column other equal => ?_)
  refine Access.alikeBind (readThroughAlike same clear equal) fun value _ read => ?_
  rw [read, (Prod.mk.inj equal).1]
  exact Access.alikePure rfl

theorem readOfAlike (clear : Clear view get) (name : String) :
    Access.Alike (Both view picture image) Eq
      (RowView.readOf get name : Access (Federation ρ n) (Option α))
      (RowView.readOf get name) := by
  have named {k : Nat} (set : Federation γ k) :
      (set.column? name).map (entry set.results) =
        set.sheet.columns.find? fun column => column.1 = name := by
    rw [sheet, List.find?_map]
    rfl
  have found : Access.Alike (Both view picture image)
      (fun column other => column.map (entry picture.results) = other.map (entry image.results))
      (Access.look fun set : Federation ρ n => set.column? name)
      (Access.look fun set : Federation ρ m => set.column? name) := by
    refine Access.alikeLook fun set other known => ?_
    obtain ⟨rfl, rfl⟩ := known
    exact ((named (set.map view)).trans (by rw [same])).trans (named (other.map view)).symm
  refine Access.alikeBind found fun column other known => ?_
  cases column with
  | none =>
    cases other with
    | none => exact Access.alikePure rfl
    | some other => contradiction
  | some column =>
    cases other with
    | none => contradiction
    | some other =>
      exact Access.alikeMap some (readThroughAlike same clear (Option.some.inj known))

omit same in
theorem comparedGives [DecidableEq α] (clear : Clear view get) {row : Nat} {what : Agreed}
    {value : α} {columns : List (Column n)} {result : γ} (decided : Reads view get result value)
    (uniform : Uniform picture result columns) :
    Access.Gives (Shows view picture)
      (do
        if ← Access.look fun set : Federation ρ n => decide (set.shape = some .join) then
          compareRest row what get value columns
        return value) value := by
  have shape : (Access.look fun set : Federation ρ n => decide (set.shape = some .join)).Gives
      (Shows view picture) (decide (picture.shape = some .join)) :=
    Access.givesLook fun set shown => by rw [← shown]; rfl
  refine Access.givesBind shape ?_
  split
  · exact Access.givesBind (compareRestGives clear decided uniform) (Access.givesPure value)
  · exact Access.givesPure value

/- Selectors of one result are not compared. Comparing them would find nothing. -/
theorem agreedAlike [DecidableEq α] (clear : Clear view get) (row : Nat) (what : Agreed) :
    Access.Alike (Both view picture image) Eq
      (agreed row what get : Access (Federation ρ n) α) (agreed row what get) := by
  refine Access.alikeBind (checkRowAlike same row) fun _ _ _ => ?_
  refine Access.alikeBind lookColumns fun columns others known => ?_
  obtain ⟨here, there⟩ := known
  have paired := pairedSheet same
  rw [← here, ← there] at paired
  cases paired with
  | nil => exact Access.alikeFail _
  | @cons first other rest more equal later =>
    refine Access.alikeBind (onResultReads clear (Prod.mk.inj equal).2) fun value _ read => ?_
    obtain ⟨rfl, decided⟩ := read
    have results : picture.results.get first.slot = image.results.get other.slot :=
      (Prod.mk.inj equal).2
    by_cases uniform : Uniform picture (picture.results.get first.slot) rest
    · exact Access.alikeGives (comparedGives clear decided uniform)
        (comparedGives clear decided ((pairedUniform later).mp uniform))
    · have joined : picture.shape = some .join := by
        rw [shape, ← here]
        exact Classical.not_not.mp fun unjoined => uniform (unjoinedUniform unjoined)
      have mirrored : image.shape = some .join := by
        rw [shape, ← there]
        refine Classical.not_not.mp fun unjoined => uniform ((pairedUniform later).mpr ?_)
        rw [results]
        exact unjoinedUniform unjoined
      have both : Access.Alike (Both view picture image) Eq
          (Access.look fun set : Federation ρ n => decide (set.shape = some .join))
          (Access.look fun set : Federation ρ m => decide (set.shape = some .join)) := by
        refine Access.alikeLook fun set plain known => ?_
        obtain ⟨rfl, rfl⟩ := known
        exact (decide_eq_true joined).trans (decide_eq_true mirrored).symm
      refine Access.alikeBind both fun compares _ same => ?_
      subst same
      split
      · exact Access.alikeBind (compareRestAlike clear row what value later) fun _ _ _ =>
          Access.alikePure rfl
      · exact Access.alikePure rfl

end

section
variable [ResultSet ρ] (settled : Settled view)
include settled

theorem hasMoreAlike :
    Access.Alike (Both view picture image) Eq (hasMore : Access (Federation ρ n) Bool) hasMore := by
  refine Access.alikeBind (ensureOpenAlike same) fun _ _ _ => ?_
  refine Access.alikeBind lookColumns fun columns others known => ?_
  obtain ⟨rfl, rfl⟩ := known
  exact anyMoreAlike settled.hasMore (pairedSheet same)

theorem entityIdAlike (row : Nat) :
    Access.Alike (Both view picture image) Eq
      (entityId row : Access (Federation ρ n) EntityId) (entityId row) :=
  agreedAlike same (settled.entityId row) row .entityId

theorem scoreAlike (row : Nat) :
    Access.Alike (Both view picture image) Eq
      (score row : Access (Federation ρ n) Binary32) (score row) :=
  agreedAlike same (settled.score row) row .score

theorem primaryParentAlike (row : Nat) :
    Access.Alike (Both view picture image) Eq
      (primaryParent row : Access (Federation ρ n) (Option ParentLink)) (primaryParent row) := by
  refine Access.alikeBind (entityIdAlike same settled row) fun id _ equal => ?_
  subst equal
  refine Access.alikeBind (lookAlike Sheet.lookup same (fun _ => rfl) fun _ => rfl) ?_
  intro lookup _ equal
  subst equal
  refine Access.alikeBind (Access.alikeOfExcept _) fun known _ equal => ?_
  subst equal
  split
  · exact Access.alikeOfExcept _
  · exact Access.alikeFail _

theorem pageRowAlike (row : Nat) :
    Access.Alike (Both view picture image) Eq
      (pageRow row : Access (Federation ρ n) PageRow) (pageRow row) := by
  refine Access.alikeBind (readAllAlike same (settled.entityId row)) fun ids _ equal => ?_
  subst equal
  refine Access.alikeBind (readAllAlike same (settled.score row)) fun scores _ equal => ?_
  subst equal
  refine Access.alikeBind (unlessAmbiguousAlike (entityIdAlike same settled row)) ?_
  intro id _ equal
  subst equal
  refine Access.alikeBind (unlessAmbiguousAlike (scoreAlike same settled row)) ?_
  intro score _ equal
  subst equal
  exact Access.alikePure rfl

theorem pageAlike :
    Access.Alike (Both view picture image) Eq (page : Access (Federation ρ n) Page) page := by
  refine Access.alikeBind (rowCountAlike same) fun count _ equal => ?_
  subst equal
  refine Access.alikeBind
    (Access.alikeMapM (List.forall₂_same.mpr fun row _ => pageRowAlike same settled row)) ?_
  intro rows _ equal
  subst equal
  refine Access.alikeBind (hasMoreAlike same settled) fun more _ equal => ?_
  subst equal
  refine Access.alikeBind (lookAlike (fun sheet => sheet.options.skip) same (fun _ => rfl)
    fun _ => rfl) ?_
  intro start _ equal
  subst equal
  exact Access.alikePure rfl

end

end

section
variable [ResultSet ρ] (settled : Settled view) {set : Federation ρ n} {plain : Federation ρ m}
include settled

theorem releaseFaultAlike {slot : Fin n} {other : Fin m}
    (equal : (set.map view).results.get slot = (plain.map view).results.get other) :
    releaseFault? set.results slot = releaseFault? plain.results other := by
  have seen : (set.results.map view).get slot = (plain.results.map view).get other := equal
  rw [Vector.get_map, Vector.get_map] at seen
  exact congrArg faultOf? (settled.release _ _ seen).1

theorem firstReleaseAlike {columns : List (Column n)} {others : List (Column m)}
    (paired : Paired (set.results.map view) (plain.results.map view) columns others) :
    (columns.map Column.slot).findSome? (releaseFault? set.results) =
      (others.map Column.slot).findSome? (releaseFault? plain.results) := by
  induction paired with
  | nil => rfl
  | cons first later ih =>
    rw [List.map_cons, List.map_cons, List.findSome?_cons, List.findSome?_cons, ih,
      releaseFaultAlike settled (Prod.mk.inj first).2]

theorem releasedAlike {columns : List (Column n)} {others : List (Column m)}
    (paired : Paired (set.results.map view) (plain.results.map view) columns others)
    (left : ∀ column ∈ columns, column.slot ∈ set.used)
    (right : ∀ column ∈ others, column.slot ∈ plain.used) :
    columns.map (entry ((released set.used set.results).map view)) =
      others.map (entry ((released plain.used plain.results).map view)) := by
  induction paired with
  | nil => rfl
  | @cons column other rest more first later ih =>
    obtain ⟨here, below⟩ := List.forall_mem_cons.mp left
    obtain ⟨there, under⟩ := List.forall_mem_cons.mp right
    have seen : (set.results.map view).get column.slot = (plain.results.map view).get other.slot :=
      (Prod.mk.inj first).2
    rw [Vector.get_map, Vector.get_map] at seen
    have after := (settled.release _ _ seen).2
    have one : entry ((released set.used set.results).map view) column =
        entry ((released plain.used plain.results).map view) other := by
      simp only [entry, Vector.get_map, getReleased, if_pos here, if_pos there, after,
        (Prod.mk.inj first).1]
    rw [List.map_cons, List.map_cons, ih below under, one]

theorem closeAlike (same : (set.map view).sheet = (plain.map view).sheet) :
    (close set).1 = (close plain).1 ∧
      ((close set).2.map view).sheet = ((close plain).2.map view).sheet := by
  have alike : set.closed = plain.closed := congrArg Sheet.closed same
  cases closed : set.closed with
  | true =>
    rw [closeClosed closed, closeClosed (alike.symm.trans closed)]
    exact ⟨rfl, same⟩
  | false =>
    rw [closeOpen closed, closeOpen (alike.symm.trans closed)]
    have paired : Paired (set.results.map view) (plain.results.map view) set.columns
        plain.columns := pairedSheet same
    have inside {k : Nat} (set : Federation ρ k) : ∀ column ∈ set.columns, column.slot ∈ set.used :=
      fun column member => List.mem_map_of_mem member
    refine ⟨congrArg answerOf (firstReleaseAlike settled paired), ?_⟩
    have columns := releasedAlike settled paired (inside set) (inside plain)
    have rows : set.rows = plain.rows := congrArg Sheet.rows same
    have options : set.options = plain.options := congrArg Sheet.options same
    have lookup : set.lookup = plain.lookup := congrArg Sheet.lookup same
    simp only [sheet, map, columns, rows, options, lookup]

end

namespace Session

/- Sessions over federations with the same sheet, and with the same cursors. -/
structure Mirrors (view : ρ → γ) (session : Session ρ n) (other : Session ρ m) : Prop where
  sheet : (session.set.map view).sheet = (other.set.map view).sheet
  cursors : session.cursors = other.cursors

theorem onSetMirrors {access : Access (Federation ρ n) α} {mirror : Access (Federation ρ m) α}
    (alike : ∀ (picture : Federation γ n) (image : Federation γ m), picture.sheet = image.sheet →
      Access.Alike (Both view picture image) Eq access mirror) :
    Access.Alike (Mirrors view) Eq (onSet access) (onSet mirror) := by
  intro session other mirrors
  obtain ⟨⟨left, right⟩, answers⟩ :=
    alike _ _ mirrors.sheet session.set other.set ⟨rfl, rfl⟩
  refine ⟨⟨?_, mirrors.cursors⟩, answers⟩
  exact (congrArg sheet left).trans (mirrors.sheet.trans (congrArg sheet right).symm)

theorem keepCursorMirrors (cursor : Cursor) :
    Access.Alike (Mirrors view) Eq (keepCursor cursor : Access (Session ρ n) Nat)
      (keepCursor cursor : Access (Session ρ m) Nat) := by
  intro session other mirrors
  unfold keepCursor
  rw [mirrors.cursors]
  exact ⟨⟨mirrors.sheet, rfl⟩, .ok rfl⟩

theorem advanceCursorMirrors (number : Nat) :
    Access.Alike (Mirrors view) Eq
      (advanceCursor number : Access (Session ρ n) (Option (Except Fault RowView)))
      (advanceCursor number : Access (Session ρ m) (Option (Except Fault RowView))) := by
  intro session other mirrors
  have closed : session.set.closed = other.set.closed := congrArg Sheet.closed mirrors.sheet
  unfold advanceCursor
  rw [mirrors.cursors]
  cases other.cursors[number]? with
  | none => exact ⟨mirrors, .ok rfl⟩
  | some cursor =>
    have same : cursor.advance session.set = cursor.advance other.set := by
      unfold Cursor.advance
      rw [closed]
    simp only [same]
    exact ⟨⟨mirrors.sheet, rfl⟩, .ok rfl⟩

variable [ResultSet ρ] (settled : Settled view)
include settled

theorem closeMirrors :
    Access.Alike (Mirrors view) Eq (onSet Federation.close : Access (Session ρ n) Unit)
      (onSet Federation.close : Access (Session ρ m) Unit) := by
  intro session other mirrors
  obtain ⟨answers, sheets⟩ := closeAlike settled mirrors.sheet
  exact ⟨⟨sheets, mirrors.cursors⟩, Access.matchingEq.mpr answers⟩

/- The step lemma: no operation tells the federations apart. -/
theorem performMirrors (operation : Operation) :
    Access.Alike (Mirrors view) Eq (perform operation : Access (Session ρ n) operation.Answer)
      (perform operation : Access (Session ρ m) operation.Answer) := by
  cases operation with
  | rowCount => exact onSetMirrors fun _ _ same => rowCountAlike same
  | isEmpty => exact onSetMirrors fun _ _ same => isEmptyAlike same
  | hasMore => exact onSetMirrors fun _ _ same => hasMoreAlike same settled
  | row row => exact onSetMirrors fun _ _ same => rowAlike same row
  | entityId row => exact onSetMirrors fun _ _ same => entityIdAlike same settled row
  | score row => exact onSetMirrors fun _ _ same => scoreAlike same settled row
  | primaryParent row => exact onSetMirrors fun _ _ same => primaryParentAlike same settled row
  | entityIds =>
    exact onSetMirrors fun _ _ same => eachRowAlike same (entityIdAlike same settled)
  | primaryParents =>
    exact onSetMirrors fun _ _ same => eachRowAlike same (primaryParentAlike same settled)
  | page => exact onSetMirrors fun _ _ same => pageAlike same settled
  | viewEntityIdOf view selector =>
    exact onSetMirrors fun _ _ same => readOfAlike same (settled.entityId view.row) selector
  | viewScoreOf view selector =>
    exact onSetMirrors fun _ _ same => readOfAlike same (settled.score view.row) selector
  | viewEntityIds view =>
    exact onSetMirrors fun _ _ same => readAllAlike same (settled.entityId view.row)
  | viewScores view =>
    exact onSetMirrors fun _ _ same => readAllAlike same (settled.score view.row)
  | viewEntityId view => exact onSetMirrors fun _ _ same => entityIdAlike same settled view.row
  | viewScore view => exact onSetMirrors fun _ _ same => scoreAlike same settled view.row
  | openCursor =>
    refine Access.alikeBind (onSetMirrors fun _ _ same => cursorAlike same) ?_
    intro cursor _ equal
    subst equal
    exact keepCursorMirrors cursor
  | advance cursor => exact advanceCursorMirrors cursor
  | close => exact closeMirrors settled

/- The run lemma. -/
theorem runMirrors (operations : List Operation) {session : Session ρ n} {other : Session ρ m}
    (mirrors : Mirrors view session other) :
    (run operations session).1 = (run operations other).1 := by
  induction operations generalizing session other with
  | nil => rfl
  | cons operation rest ih =>
    obtain ⟨after, answers⟩ := performMirrors settled operation session other mirrors
    have first := Access.matchingEq.mp answers
    have later := ih after
    have event : (⟨operation, (perform operation session).1⟩ : Event) =
        ⟨operation, (perform operation other).1⟩ := by rw [first]
    exact congr (congrArg List.cons event) later

end Session

end Federation

end QueryFederation
