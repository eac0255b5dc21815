import QueryFederation.Federation.Page

/-! Work with a federation, one operation after the other: reads of the rows, traversals of which
any number may be open, and closing. Row views and cursors outlive the close. -/
namespace QueryFederation.Federation
open Entity Result Number

inductive Operation where
  | rowCount
  | isEmpty
  | hasMore
  | row (row : Nat)
  | entityId (row : Nat)
  | score (row : Nat)
  | primaryParent (row : Nat)
  | entityIds
  | primaryParents
  | page
  /- The reads of a row view, for one selector or for all. -/
  | viewEntityIdOf (view : RowView) (selector : String)
  | viewScoreOf (view : RowView) (selector : String)
  | viewEntityIds (view : RowView)
  | viewScores (view : RowView)
  | viewEntityId (view : RowView)
  | viewScore (view : RowView)
  /- Cursors are numbered in the order in which they are opened. -/
  | openCursor
  | advance (cursor : Nat)
  | close
  deriving DecidableEq, Repr

def Operation.Answer : Operation → Type
  | .rowCount => Nat
  | .isEmpty | .hasMore => Bool
  | .row _ => RowView
  | .entityId _ | .viewEntityId _ => EntityId
  | .score _ | .viewScore _ => Binary32
  | .primaryParent _ => Option ParentLink
  | .entityIds => List EntityId
  | .primaryParents => List (Option ParentLink)
  | .page => Page
  | .viewEntityIdOf _ _ => Option EntityId
  | .viewScoreOf _ _ => Option Binary32
  | .viewEntityIds _ => List (String × EntityId)
  | .viewScores _ => List (String × Binary32)
  | .openCursor => Nat
  | .advance _ => Option (Except Fault RowView)
  | .close => Unit

structure Session (ρ : Type) (n : Nat) where
  set : Federation ρ n
  cursors : List Cursor := []

structure Event where
  operation : Operation
  answer : Except Fault operation.Answer

namespace Session

variable {ρ α : Type} {n : Nat}

def onSet (access : Access (Federation ρ n) α) : Access (Session ρ n) α := fun session =>
  let (answer, set) := access session.set
  (answer, { session with set := set })

def keepCursor (cursor : Cursor) : Access (Session ρ n) Nat := fun session =>
  (.ok session.cursors.length, { session with cursors := session.cursors ++ [cursor] })

/- A cursor that was never opened has no rows. -/
def advanceCursor (number : Nat) : Access (Session ρ n) (Option (Except Fault RowView)) :=
  fun session =>
    match session.cursors[number]? with
    | none => (.ok none, session)
    | some cursor =>
      let (item, after) := cursor.advance session.set
      (.ok item, { session with cursors := session.cursors.set number after })

def start (set : Federation ρ n) : Session ρ n := { set := set }

variable [ResultSet ρ]

def perform : (operation : Operation) → Access (Session ρ n) operation.Answer
  | .rowCount => onSet Federation.rowCount
  | .isEmpty => onSet Federation.isEmpty
  | .hasMore => onSet Federation.hasMore
  | .row row => onSet (Federation.row row)
  | .entityId row => onSet (Federation.entityId row)
  | .score row => onSet (Federation.score row)
  | .primaryParent row => onSet (Federation.primaryParent row)
  | .entityIds => onSet Federation.entityIds
  | .primaryParents => onSet Federation.primaryParents
  | .page => onSet Federation.page
  | .viewEntityIdOf view selector => onSet (view.entityIdOf selector)
  | .viewScoreOf view selector => onSet (view.scoreOf selector)
  | .viewEntityIds view => onSet view.entityIds
  | .viewScores view => onSet view.scores
  | .viewEntityId view => onSet view.entityId
  | .viewScore view => onSet view.score
  | .openCursor => do keepCursor (← onSet Federation.cursor)
  | .advance cursor => advanceCursor cursor
  | .close => onSet Federation.close

def run : List Operation → Session ρ n → List Event × Session ρ n
  | [], session => ([], session)
  | operation :: rest, session =>
    let (answer, after) := perform operation session
    let (events, last) := run rest after
    (⟨operation, answer⟩ :: events, last)

end Session

end QueryFederation.Federation
