import Mathlib
import QueryFederation.Federation.Session
import QueryFederation.Proofs.Access
import QueryFederation.Result.Counted

/-! Reads of a federation change nothing of it but the results, and of a result nothing that the
reads of results keep. -/
namespace QueryFederation
open Entity Result Number

namespace Result

/- What all reads of a result keep, whether they fail or not. Releasing is no read. -/
structure ReadsKeep {ρ γ : Type} [ResultSet ρ] (view : ρ → γ) : Prop where
  rowCount : (ResultSet.rowCount : Access ρ Nat).Keeps view
  hasMore : (ResultSet.hasMore : Access ρ Bool).Keeps view
  entityId : ∀ row, (ResultSet.entityId row : Access ρ EntityId).Keeps view
  score : ∀ row, (ResultSet.score row : Access ρ Binary32).Keeps view

theorem countedReadsKeep {ρ : Type} [ResultSet ρ] :
    ReadsKeep (Counted.releases : Counted ρ → Nat) :=
  ⟨fun _ => rfl, fun _ => rfl, fun _ _ => rfl, fun _ _ => rfl⟩

theorem hitsReadsKeep : ReadsKeep (id : Hits → Hits) :=
  ⟨fun _ => rfl, fun _ => rfl, fun _ _ => rfl, fun _ _ => rfl⟩

end Result

namespace Federation

variable {ρ γ α : Type} {n : Nat}

theorem getSet (results : Vector ρ n) (slot other : Fin n) (result : ρ) :
    (results.set slot.val result slot.isLt).get other =
      if slot = other then result else results.get other := by
  simp only [Fin.ext_iff]
  exact Vector.getElem_set slot.isLt other.isLt

theorem getExt {results others : Vector ρ n} (same : ∀ slot, results.get slot = others.get slot) :
    results = others :=
  Vector.ext fun position inside => same ⟨position, inside⟩

theorem onSlotKeeps {view : ρ → γ} {access : Access ρ α} (keeps : access.Keeps view)
    (slot : Fin n) : (onSlot slot access).Keeps (Vector.map view) := by
  intro results
  refine getExt fun other => ?_
  simp only [onSlot, Vector.get_map, getSet]
  split
  · rename_i same
    rw [← same]
    exact keeps (results.get slot)
  · rfl

theorem onResultKeeps {view : ρ → γ} {access : Access ρ α} (keeps : access.Keeps view)
    (slot : Fin n) : (onResult slot access).Keeps (map view) := by
  intro set
  have kept := onSlotKeeps keeps slot set.results
  unfold onResult map
  dsimp only
  rw [kept]

section
variable {view : ρ → γ}

theorem ensureOpenKeeps : (ensureOpen : Access (Federation ρ n) Unit).Keeps (map view) := by
  refine Access.keepsBind (Access.keepsLook _) fun closed => ?_
  split
  · exact Access.keepsFail _
  · exact Access.keepsPure ()

theorem rowCountKeeps : (rowCount : Access (Federation ρ n) Nat).Keeps (map view) := by
  refine Access.keepsBind ensureOpenKeeps fun _ => Access.keepsBind (Access.keepsLook _) ?_
  intro empty
  split
  · exact Access.keepsFail _
  · exact Access.keepsLook _

theorem isEmptyKeeps : (isEmpty : Access (Federation ρ n) Bool).Keeps (map view) :=
  Access.keepsBind rowCountKeeps fun _ => Access.keepsPure _

theorem checkRowKeeps (row : Nat) :
    (checkRow row : Access (Federation ρ n) Unit).Keeps (map view) := by
  refine Access.keepsBind rowCountKeeps fun count => ?_
  split
  · exact Access.keepsPure ()
  · exact Access.keepsFail _

theorem rowKeeps (row : Nat) :
    (Federation.row row : Access (Federation ρ n) RowView).Keeps (map view) :=
  Access.keepsBind (checkRowKeeps row) fun _ => Access.keepsPure _

theorem cursorKeeps : (cursor : Access (Federation ρ n) Cursor).Keeps (map view) :=
  Access.keepsBind rowCountKeeps fun _ => Access.keepsPure _

theorem readThroughKeeps {access : Access ρ α} (keeps : access.Keeps view) (column : Column n) :
    (readThrough access column).Keeps (map view) :=
  Access.keepsBind ensureOpenKeeps fun _ => onResultKeeps keeps column.slot

theorem compareRestKeeps [DecidableEq α] {get : Access ρ α} (keeps : get.Keeps view) (row : Nat)
    (what : Agreed) (value : α) (columns : List (Column n)) :
    (compareRest row what get value columns).Keeps (map view) := by
  induction columns with
  | nil => exact Access.keepsPure ()
  | cons column rest ih =>
    refine Access.keepsBind (onResultKeeps keeps column.slot) fun other => ?_
    split
    · exact ih
    · exact Access.keepsFail _

theorem agreedKeeps [DecidableEq α] {get : Access ρ α} (keeps : get.Keeps view) (row : Nat)
    (what : Agreed) : (agreed row what get : Access (Federation ρ n) α).Keeps (map view) := by
  refine Access.keepsBind (checkRowKeeps row) fun _ => Access.keepsBind (Access.keepsLook _) ?_
  intro columns
  cases columns with
  | nil => exact Access.keepsFail _
  | cons first rest =>
    refine Access.keepsBind (onResultKeeps keeps first.slot) fun value => ?_
    refine Access.keepsBind (Access.keepsLook _) fun joined => ?_
    split
    · exact Access.keepsBind (compareRestKeeps keeps row what value rest) fun _ =>
        Access.keepsPure value
    · exact Access.keepsPure value

theorem readOfKeeps {get : Access ρ α} (keeps : get.Keeps view) (name : String) :
    (RowView.readOf get name : Access (Federation ρ n) (Option α)).Keeps (map view) := by
  refine Access.keepsBind (Access.keepsLook _) fun column => ?_
  cases column with
  | none => exact Access.keepsPure none
  | some column => exact Access.keepsMap some (readThroughKeeps keeps column)

theorem readAllKeeps {get : Access ρ α} (keeps : get.Keeps view) :
    (RowView.readAll get : Access (Federation ρ n) (List (String × α))).Keeps (map view) := by
  refine Access.keepsBind (Access.keepsLook _) fun columns => Access.keepsMapM ?_ columns
  intro column
  exact Access.keepsBind (readThroughKeeps keeps column) fun _ => Access.keepsPure _

theorem unlessAmbiguousKeeps {access : Access (Federation ρ n) α}
    (keeps : access.Keeps (map view)) : (unlessAmbiguous access).Keeps (map view) := by
  refine Access.keepsBind (Access.keepsAttempt keeps) fun answer => ?_
  split
  · exact Access.keepsPure _
  · exact Access.keepsPure _
  · exact Access.keepsFail _

end

section
variable [ResultSet ρ] {view : ρ → γ} (keeps : ReadsKeep view)
include keeps

theorem anyMoreKeeps (columns : List (Column n)) : (anyMore columns).Keeps (map view) := by
  induction columns with
  | nil => exact Access.keepsPure false
  | cons column rest ih =>
    refine Access.keepsBind (onResultKeeps keeps.hasMore column.slot) fun more => ?_
    split
    · exact Access.keepsPure true
    · exact ih

theorem hasMoreKeeps : (hasMore : Access (Federation ρ n) Bool).Keeps (map view) :=
  Access.keepsBind ensureOpenKeeps fun _ =>
    Access.keepsBind (Access.keepsLook _) (anyMoreKeeps keeps)

theorem entityIdKeeps (row : Nat) :
    (entityId row : Access (Federation ρ n) EntityId).Keeps (map view) :=
  agreedKeeps (keeps.entityId row) row .entityId

theorem scoreKeeps (row : Nat) : (score row : Access (Federation ρ n) Binary32).Keeps (map view) :=
  agreedKeeps (keeps.score row) row .score

theorem primaryParentKeeps (row : Nat) :
    (primaryParent row : Access (Federation ρ n) (Option ParentLink)).Keeps (map view) := by
  refine Access.keepsBind (entityIdKeeps keeps row) fun id => ?_
  refine Access.keepsBind (Access.keepsLook _) fun lookup => ?_
  refine Access.keepsBind (Access.keepsOfExcept _) fun known => ?_
  split
  · exact Access.keepsOfExcept _
  · exact Access.keepsFail _

theorem pageRowKeeps (row : Nat) :
    (pageRow row : Access (Federation ρ n) PageRow).Keeps (map view) := by
  refine Access.keepsBind (readAllKeeps (keeps.entityId row)) fun ids => ?_
  refine Access.keepsBind (readAllKeeps (keeps.score row)) fun scores => ?_
  refine Access.keepsBind (unlessAmbiguousKeeps (entityIdKeeps keeps row)) fun id => ?_
  exact Access.keepsBind (unlessAmbiguousKeeps (scoreKeeps keeps row)) fun _ => Access.keepsPure _

theorem pageKeeps : (page : Access (Federation ρ n) Page).Keeps (map view) := by
  refine Access.keepsBind rowCountKeeps fun count => ?_
  refine Access.keepsBind (Access.keepsMapM (pageRowKeeps keeps) _) fun rows => ?_
  refine Access.keepsBind (hasMoreKeeps keeps) fun more => ?_
  exact Access.keepsBind (Access.keepsLook _) fun _ => Access.keepsPure _

end

namespace Session

variable {ρ γ : Type} {n : Nat}

theorem onSetKeeps {α : Type} {view : ρ → γ} {access : Access (Federation ρ n) α}
    (keeps : access.Keeps (Federation.map view)) :
    (onSet access).Keeps (fun session : Session ρ n => session.set.map view) :=
  fun session => keeps session.set

theorem keepCursorKeeps {view : ρ → γ} (cursor : Cursor) :
    (keepCursor cursor).Keeps (fun session : Session ρ n => session.set.map view) := fun _ => rfl

theorem advanceCursorKeeps {view : ρ → γ} (number : Nat) :
    (advanceCursor number).Keeps (fun session : Session ρ n => session.set.map view) := by
  intro session
  unfold advanceCursor
  cases session.cursors[number]? <;> rfl

/- The step lemma: whatever is done, apart from closing, is a read. -/
theorem performKeeps [ResultSet ρ] {view : ρ → γ} (keeps : ReadsKeep view) {operation : Operation}
    (read : operation ≠ .close) :
    (perform operation).Keeps (fun session : Session ρ n => session.set.map view) := by
  cases operation with
  | rowCount => exact onSetKeeps rowCountKeeps
  | isEmpty => exact onSetKeeps isEmptyKeeps
  | hasMore => exact onSetKeeps (hasMoreKeeps keeps)
  | row row => exact onSetKeeps (rowKeeps row)
  | entityId row => exact onSetKeeps (entityIdKeeps keeps row)
  | score row => exact onSetKeeps (scoreKeeps keeps row)
  | primaryParent row => exact onSetKeeps (primaryParentKeeps keeps row)
  | entityIds =>
    exact onSetKeeps (Access.keepsBind rowCountKeeps fun _ =>
      Access.keepsMapM (entityIdKeeps keeps) _)
  | primaryParents =>
    exact onSetKeeps (Access.keepsBind rowCountKeeps fun _ =>
      Access.keepsMapM (primaryParentKeeps keeps) _)
  | page => exact onSetKeeps (pageKeeps keeps)
  | viewEntityIdOf view selector =>
    exact onSetKeeps (readOfKeeps (keeps.entityId view.row) selector)
  | viewScoreOf view selector => exact onSetKeeps (readOfKeeps (keeps.score view.row) selector)
  | viewEntityIds view => exact onSetKeeps (readAllKeeps (keeps.entityId view.row))
  | viewScores view => exact onSetKeeps (readAllKeeps (keeps.score view.row))
  | viewEntityId view => exact onSetKeeps (entityIdKeeps keeps view.row)
  | viewScore view => exact onSetKeeps (scoreKeeps keeps view.row)
  | openCursor =>
    exact Access.keepsBind (onSetKeeps cursorKeeps) fun cursor => keepCursorKeeps cursor
  | advance cursor => exact advanceCursorKeeps cursor
  | close => contradiction

end Session

end Federation

end QueryFederation
