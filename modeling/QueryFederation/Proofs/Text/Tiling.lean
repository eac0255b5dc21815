import Mathlib
import QueryFederation.Text.Token

/-! Spans side by side. They go from one place of a text to another without a gap, and none of them is
empty, so that a place is in one of them only. -/
namespace QueryFederation.Text

theorem byteLengthAppend (cs ds : List Char) :
    byteLength (cs ++ ds) = byteLength cs + byteLength ds := by
  induction cs with
  | nil => simp [byteLength]
  | cons c rest ih => rw [List.cons_append, byteLength, byteLength, ih, Nat.add_assoc]

theorem byteLengthPos {cs : List Char} (filled : cs ≠ []) : 0 < byteLength cs := by
  cases cs with
  | nil => contradiction
  | cons c rest =>
    have size := Char.utf8Size_pos c
    rw [byteLength]
    omega

/- Spans side by side, from one place of the text to another. -/
inductive Tiles : Nat → List Span → Nat → Prop where
  | nil (start) : Tiles start [] start
  | cons {start span spans stop} (begins : span.start = start) (filled : span.chars ≠ [])
      (rest : Tiles span.stop spans stop) : Tiles start (span :: spans) stop

section Tiling
variable {start stop : Nat} {spans front back : List Span} {span : Span}

theorem tilesPlace {pieces : List (List Char)} (filled : ∀ piece ∈ pieces, piece ≠ [])
    (start : Nat) : Tiles start (place start pieces) (start + byteLength pieces.flatten) := by
  induction pieces generalizing start with
  | nil => exact .nil start
  | cons piece rest ih =>
    obtain ⟨first, others⟩ := List.forall_mem_cons.mp filled
    rw [place, List.flatten_cons, byteLengthAppend, ← Nat.add_assoc]
    exact .cons rfl first (ih others _)

theorem placeAppend (start : Nat) (front back : List (List Char)) :
    place start (front ++ back) =
      place start front ++ place (start + byteLength front.flatten) back := by
  induction front generalizing start with
  | nil => rfl
  | cons piece rest ih =>
    rw [List.cons_append, place, place, ih, List.flatten_cons, byteLengthAppend, Nat.add_assoc,
      List.cons_append]

theorem tilesAppend : Tiles start (front ++ back) stop ↔
    ∃ middle, Tiles start front middle ∧ Tiles middle back stop := by
  constructor
  · intro tiles
    induction front generalizing start with
    | nil => exact ⟨start, .nil start, tiles⟩
    | cons span rest ih =>
      cases tiles with
      | cons begins filled tail =>
        obtain ⟨middle, before, after⟩ := ih tail
        exact ⟨middle, .cons begins filled before, after⟩
  · rintro ⟨middle, before, after⟩
    induction before with
    | nil => exact after
    | cons begins filled _ ih => exact .cons begins filled (ih after)

theorem tilesLength (tiles : Tiles start spans stop) :
    stop = start + byteLength (spans.flatMap Span.chars) := by
  induction tiles with
  | nil => rfl
  | cons begins filled rest ih =>
    rw [ih, List.flatMap_cons, byteLengthAppend, Span.stop, begins, Nat.add_assoc]

theorem tilesBounds (tiles : Tiles start spans stop) (inside : span ∈ spans) :
    start ≤ span.start ∧ span.start < span.stop ∧ span.stop ≤ stop := by
  induction tiles with
  | nil => contradiction
  | @cons start first others stop begins filled rest ih =>
    have size := byteLengthPos filled
    have length := tilesLength rest
    rw [Span.stop] at length
    rcases List.mem_cons.mp inside with rfl | later
    · rw [Span.stop]
      omega
    · have bounds := ih later
      rw [Span.stop] at bounds
      omega

/- One list of many that are side by side. -/
theorem listTiles {lists : List (List Span)} (tiles : Tiles start lists.flatten stop)
    (inside : spans ∈ lists) :
    ∃ left right, start ≤ left ∧ Tiles left spans right ∧ right ≤ stop := by
  obtain ⟨before, after, split⟩ := List.append_of_mem inside
  rw [split, List.flatten_append, List.flatten_cons] at tiles
  obtain ⟨left, first, others⟩ := tilesAppend.mp tiles
  obtain ⟨right, middle, last⟩ := tilesAppend.mp others
  have leading := tilesLength first
  have trailing := tilesLength last
  exact ⟨left, right, by omega, middle, by omega⟩

theorem tilesApart (tiles : Tiles start spans stop) :
    spans.Pairwise fun a b => a.stop ≤ b.start := by
  induction tiles with
  | nil => exact .nil
  | cons begins filled rest ih =>
    exact List.pairwise_cons.mpr ⟨fun later inside => (tilesBounds rest inside).1, ih⟩

theorem tilesReach {place : Nat} (tiles : Tiles start spans stop) (low : start ≤ place)
    (high : place < stop) : ∃ span ∈ spans, span.start ≤ place ∧ place < span.stop := by
  induction tiles with
  | nil => omega
  | @cons start span others stop begins filled rest ih =>
    rcases Nat.lt_or_ge place span.stop with inside | beyond
    · exact ⟨span, List.mem_cons_self, by omega, inside⟩
    · obtain ⟨later, member, around⟩ := ih beyond high
      exact ⟨later, List.mem_cons_of_mem span member, around⟩

end Tiling

/- Of things that come one after the other only one is around a place that is not empty. -/
theorem onlyOneAround {α : Type} {starts stops : α → Nat} {things : List α} {low high : Nat}
    {x y : α} (apart : things.Pairwise fun x y => stops x ≤ starts y) (filled : low < high)
    (first : x ∈ things) (second : y ∈ things) (left : starts x ≤ low ∧ high ≤ stops x)
    (right : starts y ≤ low ∧ high ≤ stops y) : x = y := by
  by_contra differ
  have symmetric : Std.Symm fun x y => stops x ≤ starts y ∨ stops y ≤ starts x :=
    ⟨fun _ _ => Or.symm⟩
  have either : things.Pairwise fun x y => stops x ≤ starts y ∨ stops y ≤ starts x :=
    apart.imp Or.inl
  rcases either.forall first second differ with before | after <;> omega

end QueryFederation.Text
