import QueryFederation.Proofs.Federation.Release

/-! The outline of a federation is all of it but its results. Of what can be done with a
federation, only a close changes the outline, and all it does is to close it. -/
namespace QueryFederation
open Entity Result Number

namespace Federation

variable {ρ : Type} {n : Nat}

def outline (set : Federation ρ n) : Federation Unit n := set.map fun _ => ()

def closedOutline (outline : Federation Unit n) : Federation Unit n := { outline with closed := true }

theorem rowCountEq (set : Federation ρ n) :
    rowCount set =
      (if set.closed then .error .closed
        else if set.columns = [] then .error .emptyFederation
        else .ok set.rows, set) := by
  simp only [rowCount, ensureOpen, Access.bindApply, Access.look]
  cases set.closed with
  | true => rfl
  | false =>
    change (if set.columns.isEmpty = true then Access.fail .emptyFederation
        else Access.look rows : Access (Federation ρ n) Nat) set =
      (if set.columns = [] then .error .emptyFederation else .ok set.rows, set)
    cases set.columns <;> rfl

variable [ResultSet ρ]

theorem readsKeepNothing : ReadsKeep (fun _ : ρ => ()) :=
  ⟨fun _ => rfl, fun _ => rfl, fun _ _ => rfl, fun _ _ => rfl⟩

theorem closeOutline (set : Federation ρ n) : (close set).2.outline = closedOutline set.outline := by
  cases closed : set.closed with
  | true =>
    rw [closeClosed closed]
    simp only [closedOutline, outline, map, closed]
  | false =>
    have same : (released set.used set.results).map (fun _ => ()) =
        set.results.map fun _ => () := getExt fun _ => rfl
    rw [closeOpen closed]
    simp only [closedOutline, outline, map, same]

namespace Session

theorem performOutline (operation : Operation) (session : Session ρ n) :
    (perform operation session).2.set.outline =
      if operation = .close then closedOutline session.set.outline else session.set.outline := by
  split
  · rename_i closing
    subst closing
    exact closeOutline session.set
  · rename_i read
    exact performKeeps readsKeepNothing read session

theorem runOutline (operations : List Operation) (session : Session ρ n) :
    (run operations session).2.set.outline =
      if .close ∈ operations then closedOutline session.set.outline else session.set.outline := by
  induction operations generalizing session with
  | nil => rfl
  | cons operation rest ih =>
    change (run rest (perform operation session).2).2.set.outline = _
    rw [ih, performOutline]
    by_cases closing : operation = .close <;> by_cases later : Operation.close ∈ rest <;>
      simp [closing, later, closedOutline, eq_comm]

variable (operations : List Operation) (session : Session ρ n)

theorem runColumns : (run operations session).2.set.columns = session.set.columns := by
  have columns := congrArg Federation.columns (runOutline operations session)
  split at columns <;> exact columns

theorem runRows : (run operations session).2.set.rows = session.set.rows := by
  have rows := congrArg Federation.rows (runOutline operations session)
  split at rows <;> exact rows

theorem runOptions : (run operations session).2.set.options = session.set.options := by
  have options := congrArg Federation.options (runOutline operations session)
  split at options <;> exact options

theorem runClosed (closes : .close ∈ operations) :
    (run operations session).2.set.closed = true := by
  have closed := congrArg Federation.closed (runOutline operations session)
  rwa [if_pos closes] at closed

end Session

end Federation

end QueryFederation
