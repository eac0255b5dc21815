import QueryFederation.Federation.Positions
import QueryFederation.Proofs.Federation.Outline
import QueryFederation.Proofs.Places

/-! Columns found by their positions. The map of a federation finds the column that a search by the
name finds, also after any operations, since none of them moves a column. -/
namespace QueryFederation.Federation
open Entity Result

namespace Positioned

variable {ρ α : Type} {n : Nat} {positions : AList fun _ : String => Nat}

/- The map has each selector at the first of the columns with its name. -/
def Locates (positions : AList fun _ : String => Nat) (columns : List (Column n)) : Prop :=
  ∀ name, positions.lookup name = (columns.map Column.name).idxOf? name

theorem columnLocated {set : Federation ρ n} (locates : Locates positions set.columns)
    (name : String) : columnAt? positions name set = set.column? name := by
  rw [columnAt?, locates]
  exact Order.findPlaced Column.name set.columns name

theorem readLocated {set : Federation ρ n} (locates : Locates positions set.columns)
    (get : Access ρ α) (name : String) :
    readAt positions get name set = RowView.readOf get name set := by
  cases column : set.column? name <;>
    simp only [readAt, RowView.readOf, Access.bindApply, Access.look, columnLocated locates, column]

variable [ResultSet ρ]

theorem performLocated {session : Session ρ n} (locates : Locates positions session.set.columns)
    (operation : Operation) :
    perform positions operation session = Session.perform operation session := by
  cases operation with
  | viewEntityIdOf view selector =>
    simp only [perform, Session.perform, Session.onSet, RowView.entityIdOf, readLocated locates]
  | viewScoreOf view selector =>
    simp only [perform, Session.perform, Session.onSet, RowView.scoreOf, readLocated locates]
  | _ => rfl

theorem runLocated {session : Session ρ n} (locates : Locates positions session.set.columns)
    (operations : List Operation) :
    runFrom positions operations session = Session.run operations session := by
  induction operations generalizing session with
  | nil => rfl
  | cons operation rest ih =>
    have columns : (Session.perform operation session).2.set.columns = session.set.columns :=
      Session.runColumns [operation] session
    have still : Locates positions (Session.perform operation session).2.set.columns :=
      columns ▸ locates
    simp only [runFrom, Session.run, performLocated locates, ih still]

/- Joined with a map or without one, results are refused for the same fault, or they give the same
federation, in which every session goes the same way. -/
theorem joinLocated (columns : List (Column n)) (options : Options) (lookup : Lookup) :
    Access.Alike Eq
      (fun (positioned : Positioned ρ n) (set : Federation ρ n) => positioned.set = set ∧
        positioned.column? = set.column? ∧
        ∀ operations, positioned.run operations = Session.run operations (Session.start set))
      (join columns options lookup) (Federation.join columns options lookup) := by
  unfold join Federation.join
  cases placed : Order.places (columns.map Column.name) with
  | error name =>
    rw [Order.placesRepeated.mp placed]
    exact Access.alikeFail _
  | ok positions =>
    obtain ⟨once, locates⟩ := Order.placesFound placed
    rw [once]
    have counted : Access.Alike Eq Eq (alignedCount columns : Access (Vector ρ n) Nat)
        (alignedCount columns) := by
      rintro results _ rfl
      exact ⟨rfl, Access.matchingEq.mpr rfl⟩
    refine Access.alikeBind counted fun rows _ same => ?_
    subst same
    refine Access.alikeLook ?_
    rintro results _ rfl
    exact ⟨rfl, funext (columnLocated locates), runLocated locates⟩

end Positioned

end QueryFederation.Federation
