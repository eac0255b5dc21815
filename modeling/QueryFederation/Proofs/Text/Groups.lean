import Mathlib
import QueryFederation.Proofs.Text.Tiling
import QueryFederation.Text.Tokenizer

/-! Segments in the groups that tokens are made of. A group goes on for as long as two neighbours are
joined, so that it is either one segment that is dropped or a run of segments that are all kept. What
is made of the kept groups is in the order of the text, with each kept segment in one piece. -/
namespace QueryFederation.Text

section Merging
variable {start stop : Nat} {group : List Span} {merged span : Span}

theorem mergedChars (merges : merge group = some merged) :
    merged.chars = group.flatMap Span.chars := by
  cases group with
  | nil => contradiction
  | cons first rest =>
    cases merges
    rfl

/- A group that is merged takes up the place of all of its segments. -/
theorem mergedPlace (tiles : Tiles start group stop) (merges : merge group = some merged) :
    merged.start = start ∧ merged.stop = stop := by
  have length := tilesLength tiles
  rw [← mergedChars merges] at length
  cases tiles with
  | nil => contradiction
  | cons begins filled rest =>
    cases merges
    rw [Span.stop, length, begins]
    exact ⟨rfl, rfl⟩

theorem runIff {piece : List Char} :
    isWildcardRun piece = true ↔ piece ≠ [] ∧ ∀ c ∈ piece, Pattern.isWild c = true := by
  simp [isWildcardRun]

def AllKept (group : List Span) : Prop := ∀ span ∈ group, isKept span.chars = true

instance (group : List Span) : Decidable (AllKept group) :=
  inferInstanceAs (Decidable (∀ span ∈ group, isKept span.chars = true))

/- Runs that are joined are a run again; a word makes a word of everything around it. -/
theorem mergedKept (merges : merge group = some merged) (kept : AllKept group) :
    isKept merged.chars = true := by
  have chars := mergedChars merges
  rw [isKept, Bool.or_eq_true]
  by_cases word : ∃ span ∈ group, isWord span.chars = true
  · obtain ⟨span, inside, word⟩ := word
    obtain ⟨c, member, alphanumeric⟩ := List.any_eq_true.mp word
    right
    rw [chars]
    exact List.any_eq_true.mpr ⟨c, List.mem_flatMap.mpr ⟨span, inside, member⟩, alphanumeric⟩
  · have run (span) (inside : span ∈ group) : isWildcardRun span.chars = true := by
      have either := kept span inside
      rw [isKept, Bool.or_eq_true] at either
      exact either.resolve_right fun found => word ⟨span, inside, found⟩
    left
    rw [runIff, chars]
    refine ⟨fun empty => ?_, fun c member => ?_⟩
    · cases group with
      | nil => contradiction
      | cons first rest =>
        have filled := (runIff.mp (run first List.mem_cons_self)).1
        exact filled (List.flatMap_eq_nil_iff.mp empty first List.mem_cons_self)
    · obtain ⟨span, inside, found⟩ := List.mem_flatMap.mp member
      exact (runIff.mp (run span inside)).2 c found

theorem joinsIff {a b : Span} : joins a b = true ↔
    isKept a.chars = true ∧ isKept b.chars = true ∧
      (isWildcardRun a.chars = true ∨ isWildcardRun b.chars = true) := by
  rw [joins, Bool.and_eq_true, Bool.and_eq_true, Bool.or_eq_true, and_assoc]

/- Only a segment that stands alone may be dropped. -/
theorem joinedKept {first second : Span} {rest : List Span}
    (joined : (first :: second :: rest).IsChain (joins · ·)) :
    AllKept (first :: second :: rest) := by
  induction rest generalizing first second with
  | nil =>
    obtain ⟨left, right, -⟩ := joinsIff.mp (List.isChain_cons_cons.mp joined).1
    exact List.forall_mem_cons.mpr ⟨left, List.forall_mem_singleton.mpr right⟩
  | cons third others ih =>
    obtain ⟨both, tail⟩ := List.isChain_cons_cons.mp joined
    exact List.forall_mem_cons.mpr ⟨(joinsIff.mp both).1, ih tail⟩

/- What a group leaves behind, if anything. -/
def keptPiece (group : List Span) : Option Span :=
  (merge group).filter fun span => isKept span.chars

theorem keptPieceEq (joined : group.IsChain (joins · ·)) :
    keptPiece group = if AllKept group then merge group else none := by
  split_ifs with kept
  · cases merges : merge group with
    | none => rw [keptPiece, merges, Option.filter_none]
    | some merged => simp [keptPiece, merges, mergedKept merges kept]
  · match group with
    | [] => rfl
    | [span] =>
      have dropped : ¬ isKept span.chars = true := fun found =>
        kept (List.forall_mem_singleton.mpr found)
      simp [keptPiece, merge, dropped]
    | first :: second :: rest => exact absurd (joinedKept joined) kept

end Merging

/- Two neighbours are in one list, or the first ends a list and the second begins the next one. -/
theorem neighbours {α : Type} {lists : List (List α)} {front back : List α} {a b : α}
    (filled : [] ∉ lists) (whole : lists.flatten = front ++ a :: b :: back) :
    (∃ before after, before ++ a :: b :: after ∈ lists) ∨
      ∃ front left right others, lists = front ++ (left ++ [a]) :: (b :: right) :: others := by
  induction lists generalizing front with
  | nil => simp at whole
  | cons first rest ih =>
    rw [List.mem_cons, not_or] at filled
    have further (front) (whole : rest.flatten = front ++ a :: b :: back) :
        (∃ before after, before ++ a :: b :: after ∈ first :: rest) ∨
          ∃ front left right others,
            first :: rest = front ++ (left ++ [a]) :: (b :: right) :: others := by
      obtain ⟨before, after, inside⟩ | ⟨before, left, right, others, split⟩ := ih filled.2 whole
      · exact .inl ⟨before, after, List.mem_cons_of_mem first inside⟩
      · exact .inr ⟨first :: before, left, right, others, congrArg (first :: ·) split⟩
    rw [List.flatten_cons, List.append_eq_append_iff] at whole
    obtain ⟨middle, rfl, remains⟩ | ⟨middle, rfl, remains⟩ := whole
    · exact further middle remains
    match middle, remains with
    | [], remains => exact further [] remains.symm
    | [c], remains =>
      cases rest with
      | nil => simp at remains
      | cons second others =>
        cases second with
        | nil => simp at filled
        | cons d right =>
          simp only [List.flatten_cons, List.cons_append, List.nil_append, List.cons.injEq]
            at remains
          obtain ⟨rfl, rfl, -⟩ := remains
          exact .inr ⟨[], front, right, others, rfl⟩
    | c :: d :: after, remains =>
      simp only [List.cons_append, List.cons.injEq] at remains
      obtain ⟨rfl, rfl, -⟩ := remains
      exact .inl ⟨front, after, List.mem_cons_self⟩

def Span.Inside (inner outer : Span) : Prop :=
  outer.start ≤ inner.start ∧ inner.stop ≤ outer.stop

section Splitting
variable {start stop : Nat} {spans front back group : List Span} {a b span merged piece : Span}

def groups (spans : List Span) : List (List Span) := spans.splitBy joins

def keptPieces (spans : List Span) : List Span := (groups spans).filterMap keptPiece

theorem wildcardSpansGroups (cs : List Char) :
    wildcardSpans cs = keptPieces (place 0 (segments cs)) := List.filter_filterMap

theorem flattenGroups (spans : List Span) : (groups spans).flatten = spans :=
  List.flatten_splitBy joins spans

theorem groupsJoined (inside : group ∈ groups spans) : group.IsChain (joins · ·) :=
  List.isChain_of_mem_splitBy inside

theorem groupSplits (inside : group ∈ groups spans) :
    ∃ front back, spans = front ++ group ++ back := by
  obtain ⟨before, after, split⟩ := List.append_of_mem inside
  have whole := flattenGroups spans
  rw [split, List.flatten_append, List.flatten_cons, ← List.append_assoc] at whole
  exact ⟨_, _, whole.symm⟩

theorem inSomeGroup (inside : span ∈ spans) : ∃ group ∈ groups spans, span ∈ group := by
  rw [← flattenGroups spans] at inside
  exact List.mem_flatten.mp inside

theorem memKeptPieces : piece ∈ keptPieces spans ↔
    ∃ group ∈ groups spans, AllKept group ∧ merge group = some piece := by
  rw [keptPieces, List.mem_filterMap]
  refine exists_congr fun group => and_congr_right fun inside => ?_
  rw [keptPieceEq (groupsJoined inside)]
  split_ifs with kept
  · rw [and_iff_right kept]
  · simp [kept]

/- A kept segment is only found with kept segments. -/
theorem keptGroup (inside : group ∈ groups spans) (member : span ∈ group)
    (kept : isKept span.chars = true) : AllKept group := by
  have joined := groupsJoined inside
  match group with
  | [] => contradiction
  | [only] =>
    rw [List.mem_singleton.mp member] at kept
    exact List.forall_mem_singleton.mpr kept
  | first :: second :: rest => exact joinedKept joined

theorem mergedSome (member : span ∈ group) : ∃ merged, merge group = some merged := by
  cases group with
  | nil => contradiction
  | cons first rest => exact ⟨_, rfl⟩

/- What is between two places is between them when it is merged. -/
theorem mergedBetween {lists : List (List Span)} (tiles : Tiles start lists.flatten stop)
    (inside : group ∈ lists) (merges : merge group = some merged) :
    start ≤ merged.start ∧ merged.start < merged.stop ∧ merged.stop ≤ stop := by
  obtain ⟨left, right, leading, middle, trailing⟩ := listTiles tiles inside
  obtain ⟨begins, ends⟩ := mergedPlace middle merges
  cases group with
  | nil => contradiction
  | cons span rest =>
    have bounds := tilesBounds middle List.mem_cons_self
    omega

theorem mergedApart {lists : List (List Span)} (tiles : Tiles start lists.flatten stop) :
    (lists.filterMap merge).Pairwise fun a b => a.stop ≤ b.start := by
  induction lists generalizing start with
  | nil => exact .nil
  | cons group rest ih =>
    rw [List.flatten_cons] at tiles
    obtain ⟨middle, first, others⟩ := tilesAppend.mp tiles
    cases merges : merge group with
    | none =>
      rw [List.filterMap_cons_none merges]
      exact ih others
    | some merged =>
      rw [List.filterMap_cons_some merges, List.pairwise_cons]
      refine ⟨fun later inside => ?_, ih others⟩
      obtain ⟨other, member, otherMerges⟩ := List.mem_filterMap.mp inside
      have place := mergedPlace first merges
      have between := mergedBetween others member otherMerges
      omega

theorem keptApart (tiles : Tiles start spans stop) :
    (keptPieces spans).Pairwise fun a b => a.stop ≤ b.start := by
  rw [← flattenGroups spans] at tiles
  have filtered : keptPieces spans =
      ((groups spans).filterMap merge).filter fun span => isKept span.chars :=
    List.filter_filterMap.symm
  rw [filtered]
  exact (mergedApart tiles).filter _

theorem insideMerged (tiles : Tiles start spans stop) (inside : group ∈ groups spans)
    (merges : merge group = some merged) (member : span ∈ group) : span.Inside merged := by
  rw [← flattenGroups spans] at tiles
  obtain ⟨left, right, -, middle, -⟩ := listTiles tiles inside
  obtain ⟨begins, ends⟩ := mergedPlace middle merges
  have bounds := tilesBounds middle member
  exact ⟨by omega, by omega⟩

/- A piece around a segment is the one that is made of its group. -/
theorem pieceAround (tiles : Tiles start spans stop) (inside : group ∈ groups spans)
    (member : span ∈ group) (known : piece ∈ keptPieces spans) (around : span.Inside piece) :
    merge group = some piece := by
  obtain ⟨merged, merges⟩ := mergedSome member
  obtain ⟨other, otherInside, -, otherMerges⟩ := memKeptPieces.mp known
  have within := insideMerged tiles inside merges member
  rw [← flattenGroups spans] at tiles
  have bounds := tilesBounds tiles (List.mem_flatten.mpr ⟨group, inside, member⟩)
  have first := List.mem_filterMap.mpr ⟨group, inside, merges⟩
  have second := List.mem_filterMap.mpr ⟨other, otherInside, otherMerges⟩
  rw [merges, onlyOneAround (mergedApart tiles) bounds.2.1 first second within around]

theorem keptFound (tiles : Tiles start spans stop) (inside : span ∈ spans)
    (kept : isKept span.chars = true) : ∃ piece ∈ keptPieces spans, span.Inside piece := by
  obtain ⟨group, known, member⟩ := inSomeGroup inside
  obtain ⟨merged, merges⟩ := mergedSome member
  have piece := memKeptPieces.mpr ⟨group, known, keptGroup known member kept, merges⟩
  exact ⟨merged, piece, insideMerged tiles known merges member⟩

/- Two neighbours that are kept are in one piece just where one of them is a run. -/
theorem sharedPiece (tiles : Tiles start spans stop) (split : spans = front ++ a :: b :: back)
    (left : isKept a.chars = true) (right : isKept b.chars = true) :
    (∃ piece ∈ keptPieces spans, a.Inside piece ∧ b.Inside piece) ↔
      isWildcardRun a.chars = true ∨ isWildcardRun b.chars = true := by
  have joined : joins a b = true ↔
      isWildcardRun a.chars = true ∨ isWildcardRun b.chars = true := by
    rw [joinsIff, and_iff_right left, and_iff_right right]
  have whole : (groups spans).flatten = front ++ a :: b :: back := (flattenGroups spans).trans split
  have filled : [] ∉ groups spans := List.nil_notMem_splitBy joins spans
  rw [← joined]
  obtain ⟨before, after, inside⟩ | ⟨before, first, second, others, parts⟩ :=
    neighbours filled whole
  · have related : joins a b = true := (List.isChain_append.mp (groupsJoined inside)).2.1.rel
    have aIn : a ∈ before ++ a :: b :: after := by simp
    have bIn : b ∈ before ++ a :: b :: after := by simp
    obtain ⟨merged, merges⟩ := mergedSome aIn
    have known := memKeptPieces.mpr ⟨_, inside, keptGroup inside aIn left, merges⟩
    exact iff_of_true ⟨merged, known, insideMerged tiles inside merges aIn,
      insideMerged tiles inside merges bIn⟩ related
  · -- Their groups are next to each other and not joined, so that no piece is around both.
    have parted : (groups spans).IsChain _ := List.isChain_getLast_head_splitBy joins spans
    rw [parts, List.isChain_append_cons_cons] at parted
    obtain ⟨_, _, unrelated⟩ := parted.2.1
    have apart : joins a b = false := by simpa using unrelated
    refine iff_of_false ?_ (by simp [apart])
    rintro ⟨piece, inside, aInside, bInside⟩
    have aGroup : first ++ [a] ∈ groups spans := by simp [parts]
    have bGroup : b :: second ∈ groups spans := by simp [parts]
    have one := pieceAround tiles aGroup (by simp) inside aInside
    have other := pieceAround tiles bGroup (by simp) inside bInside
    rw [← flattenGroups spans] at tiles
    have between := mergedBetween tiles aGroup one
    have order := mergedApart tiles
    rw [parts, List.filterMap_append, List.filterMap_cons_some one,
      List.filterMap_cons_some other] at order
    have before := List.rel_of_pairwise_cons (List.pairwise_append.mp order).2.1 List.mem_cons_self
    omega

end Splitting

end QueryFederation.Text
