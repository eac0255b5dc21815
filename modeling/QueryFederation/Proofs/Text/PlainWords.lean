import Mathlib
import QueryFederation.Proofs.Pattern.Lowered
import QueryFederation.Proofs.Text.OneWord

/-! Texts without wildcards. The tokenizer that keeps wildcards finds the words there and nothing
else, and none of them has a wildcard in it. -/
namespace QueryFederation.Text
open Unicode Pattern

def IsPlain (cs : List Char) : Prop := ∀ c ∈ cs, isWild c = false

theorem plainText {s : String} : hasWildcard s = false ↔ IsPlain s.toList := by
  simp [hasWildcard, IsPlain]

theorem plainPiece {cs piece : List Char} (plain : IsPlain cs) (inside : piece ∈ segments cs) :
    IsPlain piece := by
  intro c member
  refine plain c ?_
  rw [← flattenSegments cs]
  exact List.mem_flatten.mpr ⟨piece, inside, member⟩

/- A segment is not empty. -/
theorem plainNoRun {cs piece : List Char} (plain : IsPlain cs) (inside : piece ∈ segments cs) :
    isWildcardRun piece = false := by
  have tame := plainPiece plain inside
  cases piece with
  | nil => exact absurd rfl (neNilOfMemSegments inside)
  | cons c rest => simp [isWildcardRun, tame c List.mem_cons_self]

section Spans
variable {α : Type} {xs : List α}

theorem splitApart {related : α → α → Bool} (apart : ∀ x ∈ xs, ∀ y ∈ xs, related x y = false) :
    xs.splitBy related = xs.map ([·]) := by
  have single : [] ∉ xs.map ([·]) := by simp
  have alone : ∀ group ∈ xs.map ([·]), group.IsChain fun x y => related x y := by simp
  have parted : (xs.map ([·])).IsChain fun left right =>
      ∃ filled also, related (left.getLast filled) (right.head also) = false := by
    rw [List.isChain_map]
    refine List.Pairwise.isChain (List.pairwise_of_forall_mem_list fun x first y second => ?_)
    exact ⟨by simp, by simp, apart x first y second⟩
  have split := List.splitBy_flatten single alone parted
  rwa [← List.flatMap_def, List.flatMap_singleton' xs] at split

theorem mergeSingles (spans : List Span) : (spans.map ([·])).filterMap merge = spans := by
  simp [List.filterMap_map, Function.comp_def, merge]

end Spans

/- Only a run is joined to what stands beside it, and only a run is kept that is no word. -/
theorem wildcardSpansRunless {cs : List Char}
    (runless : ∀ piece ∈ segments cs, isWildcardRun piece = false) :
    wildcardSpans cs = wordSpans cs := by
  have run : ∀ span ∈ place 0 (segments cs), isWildcardRun span.chars = false := by
    intro span member
    refine runless _ ?_
    rw [← placeChars 0 (segments cs)]
    exact List.mem_map_of_mem member
  have apart : ∀ a ∈ place 0 (segments cs), ∀ b ∈ place 0 (segments cs), joins a b = false := by
    intro a first b second
    simp [joins, run a first, run b second]
  unfold wildcardSpans wordSpans
  dsimp only
  rw [splitApart apart, mergeSingles]
  refine List.filter_congr fun span member => ?_
  rw [isKept, run span member, Bool.false_or]

theorem wildcardSpansPlain {cs : List Char} (plain : IsPlain cs) :
    wildcardSpans cs = wordSpans cs :=
  wildcardSpansRunless fun _ inside => plainNoRun plain inside

theorem wildcardTermsPlain {s : String} (plain : hasWildcard s = false) :
    Analyzer.wildcard.terms s = Analyzer.standard.terms s := by
  simp [Analyzer.terms, Analyzer.analyze, Analyzer.tokenizer, Tokenizer.tokenize,
    wildcardSpansPlain (plainText.mp plain), Analyzer.lowercases]

section Lowered
variable {cs : List Char}

theorem lowersTame {c : Char} (tame : isWild c = false) : IsPlain (lowerChar c) := by
  by_cases reserved : isReserved c = true
  · rw [reservedLowers reserved]
    simpa [IsPlain] using tame
  · intro d member
    have plain := lowersPlain (Bool.eq_false_iff.mpr reserved) d member
    simp only [isReserved, Bool.or_eq_false_iff] at plain
    simp [isWild, plain]

theorem lowerFromPlain (plain : IsPlain cs) (before : List Char) :
    IsPlain (lowerFrom before cs) := by
  intro d inside
  obtain ⟨-, rfl | rfl⟩ | ⟨c, member, -, made⟩ := lowerSource inside
  · rfl
  · rfl
  · exact lowersTame (plain c member) d made

end Lowered

theorem termsPlain {s term : String} (plain : hasWildcard s = false)
    (inside : term ∈ Analyzer.standard.terms s) : hasWildcard term = false := by
  rw [standardTerms] at inside
  obtain ⟨word, member, rfl⟩ := List.mem_map.mp inside
  rw [plainText, String.toList_ofList]
  exact lowerFromPlain (plainPiece (plainText.mp plain) (List.mem_of_mem_filter member)) []

end QueryFederation.Text
