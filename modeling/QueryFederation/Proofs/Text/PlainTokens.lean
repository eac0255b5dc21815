import Mathlib
import QueryFederation.Proofs.Text.PlainWords
import QueryFederation.Proofs.Text.WildcardTokens

/-! Where the two tokenizers agree. They find the same tokens just in the texts without a run of
wildcards among their segments, and so in every text without wildcards. -/
namespace QueryFederation.Text
open Unicode Pattern

theorem wildNoWord {c : Char} (wild : isWild c = true) : isAlphanumeric c = false := by
  obtain rfl | rfl : c = '*' ∨ c = '?' := by simpa [isWild] using wild
  all_goals decide

theorem runNoWord {piece : List Char} (run : isWildcardRun piece = true) :
    isWord piece = false := by
  rw [isWord, List.any_eq_false]
  intro c member
  simp [wildNoWord ((runIff.mp run).2 c member)]

variable {s : String}

theorem memSegmentSpans {piece : List Char} (inside : piece ∈ segments s.toList) :
    ∃ span ∈ segmentSpans s, span.chars = piece := by
  rw [← placeChars 0 (segments s.toList)] at inside
  exact List.mem_map.mp inside

/- A token of the tokenizer that knows no wildcards is a single segment. -/
theorem wordToken {token : Token} (inside : token ∈ Tokenizer.words.tokenize s) :
    ∃ span ∈ segmentSpans s, isWord span.chars = true ∧
      token.start = span.start ∧ token.stop = span.stop := by
  obtain ⟨span, known, position, rfl⟩ := numberedFrom inside
  obtain ⟨member, word⟩ := List.mem_filter.mp known
  exact ⟨span, member, word, rfl, rfl⟩

theorem tokenizersAgree : Tokenizer.wildcards.tokenize s = Tokenizer.words.tokenize s ↔
    ∀ piece ∈ segments s.toList, isWildcardRun piece = false := by
  constructor
  · intro same piece inside
    by_contra found
    have run : isWildcardRun piece = true := by simpa using found
    obtain ⟨span, member, rfl⟩ := memSegmentSpans inside
    have kept : isKept span.chars = true := by rw [isKept, run, Bool.true_or]
    obtain ⟨token, ⟨known, covers⟩, -⟩ := (wildcardSegmented s).found span member kept
    -- the token is a word, and the only segment that it covers is that word
    rw [same] at known
    obtain ⟨other, also, word, starts, stops⟩ := wordToken known
    have tiles := segmentsTile s
    have filled := (tilesBounds tiles member).2.1
    have single : other = span := onlyOneAround (tilesApart tiles) filled also member
      ⟨starts ▸ covers.1, stops ▸ covers.2⟩ ⟨le_rfl, le_rfl⟩
    rw [single, runNoWord run] at word
    contradiction
  · intro runless
    exact congrArg number (wildcardSpansRunless runless)

/- Each token is then a word by itself, in its turn and with its place in the text. -/
theorem plainTokens (noRun : '*' ∉ s.toList) (noOne : '?' ∉ s.toList) :
    Tokenizer.wildcards.tokenize s = Tokenizer.words.tokenize s ∧
      Segmented s (Tokenizer.words.tokenize s) := by
  have plain : IsPlain s.toList := by
    intro c member
    rw [isWild, Bool.or_eq_false_iff, beq_eq_false_iff_ne, beq_eq_false_iff_ne]
    exact ⟨fun star => noRun (star ▸ member), fun mark => noOne (mark ▸ member)⟩
  have same := tokenizersAgree.mpr fun piece inside => plainNoRun plain inside
  exact ⟨same, same ▸ wildcardSegmented s⟩

theorem unspacedWordsApart :
    '*' ∉ "3.14 東京 don't".toList ∧ '?' ∉ "3.14 東京 don't".toList ∧
      Tokenizer.wildcards.tokenize "3.14 東京 don't" =
        [⟨"3.14", 0, 0, 4⟩, ⟨"東", 1, 5, 8⟩, ⟨"京", 2, 8, 11⟩, ⟨"don't", 3, 12, 17⟩] := by
  have noRun : '*' ∉ "3.14 東京 don't".toList := by decide
  have noOne : '?' ∉ "3.14 東京 don't".toList := by decide
  have words : Tokenizer.words.tokenize "3.14 東京 don't" =
      [⟨"3.14", 0, 0, 4⟩, ⟨"東", 1, 5, 8⟩, ⟨"京", 2, 8, 11⟩, ⟨"don't", 3, 12, 17⟩] := by
    decide +kernel
  exact ⟨noRun, noOne, (plainTokens noRun noOne).1.trans words⟩

end QueryFederation.Text
