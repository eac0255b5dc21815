import Mathlib
import QueryFederation.Proofs.Text.Groups
import QueryFederation.Text.Sweep

/-! One pass over the segments finds the places of the groups that are kept. It is followed along
the division into groups, which goes over the segments in the same way, with the group that is still
open and the groups that are done, both of them backwards. -/
namespace QueryFederation.Text

def Span.bounds (span : Span) : Nat × Nat := (span.start, span.stop)

/- From the first segment of a group to the last one, if the group is kept. -/
def keptBounds (group : List Span) : Option (Nat × Nat) :=
  if AllKept group then
    match group.head?, group.getLast? with
    | some first, some last => some (first.start, last.stop)
    | _, _ => none
  else none

theorem keptBoundsBackwards (last : Span) (group : List Span) :
    keptBounds (last :: group).reverse = if isKept last.chars = true ∧ AllKept group then
      some (((last :: group).getLast (List.cons_ne_nil last group)).start, last.stop) else none := by
  have kept : AllKept (last :: group).reverse ↔ isKept last.chars = true ∧ AllKept group := by
    simp [AllKept, or_imp, forall_and, and_comm]
  simp only [keptBounds, kept, List.head?_reverse, List.getLast?_reverse, List.head?_cons,
    List.getLast?_eq_getLast_of_ne_nil (List.cons_ne_nil last group)]

/- The pass after a segment, which is the last one of the open group. -/
structure Sweep.Follows (sweep : Sweep) (last : Span) (group : List Span) (done : List (List Span)) :
    Prop where
  closed : sweep.closed = done.reverse.filterMap keptBounds
  current : sweep.current = keptBounds (last :: group).reverse
  afterRun : sweep.afterRun = isWildcardRun last.chars
  kept : AllKept group

section Steps
variable {sweep : Sweep} {last span : Span} {group : List Span} {done : List (List Span)}

theorem followsPlaces (follows : sweep.Follows last group done) :
    sweep.places = ((last :: group).reverse :: done).reverse.filterMap keptBounds := by
  have parted : ((last :: group).reverse :: done).reverse =
      done.reverse ++ [(last :: group).reverse] := List.reverse_cons
  rw [parted, List.filterMap_append, ← follows.closed, Sweep.places, follows.current]
  cases bounds : keptBounds (last :: group).reverse <;>
    simp only [List.filterMap, bounds, Option.toList]

theorem keptBoundsSingle (span : Span) : keptBounds [span] =
    if isKept span.chars = true then some (span.start, span.stop) else none := by
  simp [keptBounds, AllKept]

theorem keptCases (piece : List Char) :
    isKept piece = (isWildcardRun piece || (!isWildcardRun piece && isWord piece)) := by
  cases run : isWildcardRun piece <;> simp [isKept, run]

/- What the pass looks at is whether the segment is joined to the one before it. -/
theorem goesOnJoined (follows : sweep.Follows last group done) (span : Span) :
    (sweep.current.isSome && sweep.continues span) = joins last span := by
  have opened : sweep.current.isSome = isKept last.chars := by
    rw [follows.current, keptBoundsBackwards]
    cases isKept last.chars <;> simp [follows.kept]
  rw [opened, Sweep.continues, follows.afterRun, joins, isKept, isKept]
  cases isWildcardRun last.chars <;> cases isWildcardRun span.chars <;> simp

theorem stepJoins (follows : sweep.Follows last group done) (joined : joins last span = true) :
    (sweep.step span).Follows span (last :: group) done := by
  have goesOn := goesOnJoined follows span
  rw [joined, Bool.and_eq_true] at goesOn
  obtain ⟨lastKept, spanKept, -⟩ := joinsIff.mp joined
  have current := follows.current
  rw [keptBoundsBackwards, if_pos ⟨lastKept, follows.kept⟩] at current
  have step : sweep.step span = ⟨sweep.closed,
      some (((last :: group).getLast (List.cons_ne_nil last group)).start, span.stop),
      isWildcardRun span.chars⟩ := by
    simp only [Sweep.step, current, goesOn.2]
  have kept : AllKept (last :: group) := List.forall_mem_cons.mpr ⟨lastKept, follows.kept⟩
  rw [step]
  refine ⟨follows.closed, ?_, rfl, kept⟩
  rw [keptBoundsBackwards, if_pos ⟨spanKept, kept⟩, List.getLast_cons_cons]

theorem stepAlone (separate : (sweep.current.isSome && sweep.continues span) = false) :
    sweep.step span = ⟨sweep.places, keptBounds [span], isWildcardRun span.chars⟩ := by
  rw [keptBoundsSingle, keptCases, Sweep.step]
  cases current : sweep.current with
  | none => rfl
  | some bounds =>
    rw [current, Option.isSome_some, Bool.true_and] at separate
    simp only [separate]

theorem sweepStarts (span : Span) : (Sweep.step {} span).Follows span [] [] := by
  rw [stepAlone rfl]
  exact ⟨rfl, rfl, rfl, List.forall_mem_nil _⟩

theorem stepParts (follows : sweep.Follows last group done) (apart : joins last span = false) :
    (sweep.step span).Follows span [] ((last :: group).reverse :: done) := by
  rw [stepAlone ((goesOnJoined follows span).trans apart)]
  exact ⟨followsPlaces follows, rfl, rfl, List.forall_mem_nil _⟩

theorem runFollows (spans : List Span) (follows : sweep.Follows last group done) :
    (spans.foldl Sweep.step sweep).places =
      (List.splitBy.loop joins spans last group done).filterMap keptBounds := by
  induction spans generalizing sweep last group done with
  | nil =>
    rw [List.foldl_nil, followsPlaces follows, List.splitBy.loop]
  | cons span rest ih =>
    rw [List.foldl_cons, List.splitBy.loop]
    cases joined : joins last span with
    | true => exact ih (stepJoins follows joined)
    | false => exact ih (stepParts follows joined)

theorem sweptGroups (spans : List Span) :
    (spans.foldl Sweep.step {}).places = (groups spans).filterMap keptBounds := by
  cases spans with
  | nil => rfl
  | cons span rest => exact runFollows rest (sweepStarts span)

end Steps

theorem tilesEnds {start stop : Nat} {group : List Span} (tiles : Tiles start group stop)
    (filled : group ≠ []) :
    ∃ first last, group.head? = some first ∧ group.getLast? = some last ∧
      first.start = start ∧ last.stop = stop := by
  induction tiles with
  | nil => contradiction
  | @cons start span rest stop begins chars tail ih =>
    cases rest with
    | nil =>
      cases tail
      exact ⟨span, span, rfl, rfl, begins, rfl⟩
    | cons next others =>
      obtain ⟨-, last, -, ends, -, stops⟩ := ih (List.cons_ne_nil next others)
      exact ⟨span, last, rfl, by rw [List.getLast?_cons_cons, ends], begins, stops⟩

theorem keptBoundsPiece {start stop : Nat} {spans group : List Span} (tiles : Tiles start spans stop)
    (inside : group ∈ groups spans) : keptBounds group = (keptPiece group).map Span.bounds := by
  rw [← flattenGroups spans] at tiles
  obtain ⟨left, right, -, middle, -⟩ := listTiles tiles inside
  have filled : group ≠ [] := List.ne_nil_of_mem_splitBy inside
  obtain ⟨first, last, begins, ends, starts, stops⟩ := tilesEnds middle filled
  obtain ⟨merged, merges⟩ := mergedSome (List.mem_of_head? begins)
  obtain ⟨low, high⟩ := mergedPlace middle merges
  rw [keptBounds, keptPieceEq (groupsJoined inside), merges, begins, ends]
  split_ifs
  · rw [Option.map_some, Span.bounds, low, high, ← starts, ← stops]
  · rfl

/- The pass finds the places of the words and wildcards of a text. -/
theorem sweptEq (cs : List Char) : sweptPlaces cs = (wildcardSpans cs).map Span.bounds := by
  have tiles : Tiles 0 (place 0 (segments cs)) _ :=
    tilesPlace (fun piece inside => neNilOfMemSegments inside) 0
  rw [sweptPlaces, sweptGroups, wildcardSpansGroups, keptPieces, List.map_filterMap]
  exact List.filterMap_congr fun group inside => keptBoundsPiece tiles inside

end QueryFederation.Text
