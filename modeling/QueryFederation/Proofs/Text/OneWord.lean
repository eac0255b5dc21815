import Mathlib
import QueryFederation.Proofs.Unicode.CaseMapping
import QueryFederation.Text.Analyzer

/-! Texts with one word. Lower case makes one character or several of each, so that a text and its
only word have the same lower case just where nothing stands around the word. -/
namespace QueryFederation.Text
open Unicode

def lowerWidth (c : Char) : Nat := if c = 'Σ' then 1 else (lowerChar c).length

def lowerLength (cs : List Char) : Nat := (cs.map lowerWidth).sum

theorem lowerWidthPositive (c : Char) : 0 < lowerWidth c := by
  unfold lowerWidth
  split
  · exact Nat.one_pos
  · exact List.length_pos_iff.mpr (lowersFilled c)

theorem lowerFromLength (before cs : List Char) :
    (lowerFrom before cs).length = lowerLength cs := by
  induction cs generalizing before with
  | nil => rfl
  | cons c rest ih =>
    rw [lowerFrom, List.length_append, ih, lowerLength, lowerLength, List.map_cons, List.sum_cons,
      lowerWidth]
    split <;> rfl

theorem lowerLengthAppend (cs ds : List Char) :
    lowerLength (cs ++ ds) = lowerLength cs + lowerLength ds := by
  rw [lowerLength, List.map_append, List.sum_append, lowerLength, lowerLength]

theorem lowerLengthZero {cs : List Char} (nothing : lowerLength cs = 0) : cs = [] := by
  cases cs with
  | nil => rfl
  | cons c rest =>
    have positive := lowerWidthPositive c
    rw [lowerLength, List.map_cons, List.sum_cons] at nothing
    omega

theorem placeChars (start : Nat) (pieces : List (List Char)) :
    (place start pieces).map Span.chars = pieces := by
  induction pieces generalizing start with
  | nil => rfl
  | cons piece rest ih => rw [place, List.map_cons, ih]

def words (cs : List Char) : List (List Char) := (segments cs).filter isWord

theorem standardTerms (s : String) :
    Analyzer.standard.terms s = (words s.toList).map fun word => String.ofList (lower word) := by
  have chars : (wordSpans s.toList).map Span.chars = words s.toList := by
    rw [words, ← placeChars 0 (segments s.toList), List.filter_map]
    rfl
  have texts : Analyzer.standard.terms s =
      (wordSpans s.toList).zipIdx.map fun placed => String.ofList (lower placed.1.chars) := by
    simp [Analyzer.terms, Analyzer.analyze, Analyzer.tokenizer, Analyzer.lowercases,
      Tokenizer.tokenize, number, Span.toToken, Token.lowered, lowerText, Function.comp_def]
  rw [texts, ← chars, List.map_map]
  conv_rhs => rw [← List.zipIdx_map_fst 0 (wordSpans s.toList), List.map_map]
  rfl

/- A text that is a single segment, with no blank, stop or other word beside it. -/
def IsWhole (cs : List Char) : Prop := segments cs = [cs]

theorem emptyOfNoLength {pieces : List (List Char)} (filled : ∀ piece ∈ pieces, piece ≠ [])
    (nothing : lowerLength pieces.flatten = 0) : pieces = [] := by
  have none := lowerLengthZero nothing
  cases pieces with
  | nil => rfl
  | cons piece rest => simp_all

/- The only word of a text and the text itself. -/
theorem lowerOnlyWord {cs word : List Char} (only : words cs = [word]) :
    lower word = lower cs ↔ IsWhole cs := by
  have member : word ∈ segments cs := List.mem_of_mem_filter (only ▸ List.mem_singleton_self word)
  constructor
  · intro same
    obtain ⟨front, back, split⟩ := List.append_of_mem member
    have filled : ∀ piece ∈ front ++ word :: back, piece ≠ [] := by
      rw [← split]
      exact fun piece inside => neNilOfMemSegments inside
    have text := flattenSegments cs
    rw [split] at text
    have size : lowerLength word = lowerLength cs := by
      rw [← lowerFromLength [], ← lowerFromLength []]
      exact congrArg List.length same
    rw [← text, List.flatten_append, List.flatten_cons, lowerLengthAppend, lowerLengthAppend] at size
    have first : front = [] := emptyOfNoLength (fun piece inside => filled piece (by simp [inside]))
      (by omega)
    have last : back = [] := emptyOfNoLength (fun piece inside => filled piece (by simp [inside]))
      (by omega)
    subst first last
    rw [IsWhole, split, ← text]
    simp
  · intro whole
    rw [whole, List.mem_singleton] at member
    rw [member]

theorem onlyTermWhole {s term : String} (only : Analyzer.standard.terms s = [term]) :
    term = lowerText s ↔ IsWhole s.toList := by
  rw [standardTerms, List.map_eq_singleton_iff] at only
  obtain ⟨word, single, rfl⟩ := only
  rw [lowerText, String.ofList_inj]
  exact lowerOnlyWord single

end QueryFederation.Text
