import Mathlib
import QueryFederation.Proofs.Text.PlainTokens

/-! The places of wildcards in a text. A wildcard begins a segment, which goes on with what attaches to
it; it is in a token if nothing does, or if that makes a word of the segment. -/
namespace QueryFederation.Text
open Unicode Pattern

/- What attaches to the character before it: marks, and pictographs straight after a joiner. -/
def attached (joined : Bool) : List Char → List Char
  | [] => []
  | c :: rest =>
    if (wordBreak c).attaches then c :: attached (wordBreak c == .zwj) rest
    else if joined && isPictograph c then c :: attached false rest
    else []

/- Whether a wildcard stays where this follows: nothing attaches to it, or what does is a word. -/
def Stays (back : List Char) : Prop :=
  (∀ c ∈ back.head?, (wordBreak c).attaches = false) ∨ isWord (attached false back) = true

theorem staysBefore {c : Char} {rest : List Char} (plain : (wordBreak c).attaches = false) :
    Stays (c :: rest) := by
  left
  intro d same
  cases same
  exact plain

section Segments
variable {w : Char} {front back : List Char}

theorem stepOther (phase : Phase) :
    phase.step .other = if phase.isAwaiting then .refuse else .stop := by
  cases phase with
  | awaiting need => cases need <;> rfl
  | _ => rfl

theorem reachWithin {phase : Phase} {joined : Bool} {cs : List Char} {n : Nat}
    (known : reach phase joined cs = some n) : n ≤ cs.length := by
  induction cs generalizing phase joined n with
  | nil =>
    rw [reach] at known
    split at known
    · contradiction
    · exact (Option.some.inj known).ge
  | cons c rest ih =>
    have further {next : Phase} {joined : Bool} {m : Nat}
        (known : (reach next joined rest).map (· + 1) = some m) : m ≤ (c :: rest).length := by
      obtain ⟨k, found, rfl⟩ := Option.map_eq_some_iff.mp known
      exact Nat.succ_le_succ (ih found)
    rw [reach] at known
    split at known
    · exact further known
    split at known
    · exact further known
    split at known
    · exact further known
    · rename_i need _
      obtain ⟨rfl⟩ := known
      cases found : (reach (.awaiting need) false rest).map (· + 1) with
      | none => exact Nat.zero_le _
      | some m => exact further found
    · exact (Option.some.inj known).symm ▸ Nat.zero_le _
    · contradiction

theorem reachedWithin (phase : Phase) (joined : Bool) (cs : List Char) :
    (reach phase joined cs).getD 0 ≤ cs.length := by
  cases found : reach phase joined cs with
  | none => exact Nat.zero_le _
  | some n => exact reachWithin found

theorem extentWithin (c : Char) (rest : List Char) : extent c rest ≤ rest.length := by
  unfold extent
  split
  · cases rest with
    | nil => simp
    | cons d others => split <;> simp
  · exact Nat.zero_le _
  · exact Nat.zero_le _
  · exact reachedWithin _ _ rest

section Wild
variable (wild : isWild w = true)
include wild

theorem wildBreaks : wordBreak w = .other ∧ isPictograph w = false := by
  obtain rfl | rfl : w = '*' ∨ w = '?' := by simpa [isWild] using wild
  all_goals decide

/- A segment that has begun before a wildcard ends there as it ends at the end of a text. -/
theorem reachWild (phase : Phase) (joined : Bool) (before : List Char) :
    reach phase joined (before ++ w :: back) = reach phase joined before := by
  obtain ⟨breaks, picture⟩ := wildBreaks wild
  induction before generalizing phase joined with
  | nil =>
    simp only [List.nil_append, reach, breaks, picture, stepOther, WordBreak.attaches]
    cases phase.isAwaiting <;> simp
  | cons c rest ih =>
    rw [List.cons_append, reach, reach]
    simp only [ih]

theorem extentWild (c : Char) (before : List Char) :
    extent c (before ++ w :: back) = extent c before := by
  unfold extent
  simp only [reachWild wild]
  split
  · cases before with
    | nil => simp [(wildBreaks wild).1]
    | cons d others => rfl
  all_goals rfl

theorem segmentsWild : segments (front ++ w :: back) = segments front ++ segments (w :: back) := by
  fun_induction segments front with
  | case1 => rfl
  | case2 c rest ih =>
    rw [List.cons_append, segments, extentWild wild,
      List.take_append_of_le_length (extentWithin c rest),
      List.drop_append_of_le_length (extentWithin c rest), ih, List.cons_append]

end Wild

theorem reachAttached (joined : Bool) (cs : List Char) :
    reach .sealed joined cs = some (attached joined cs).length := by
  induction cs generalizing joined with
  | nil => rfl
  | cons c rest ih =>
    have stays : Phase.attach .sealed = .sealed := rfl
    rw [reach, attached, stays]
    split
    · rw [ih, Option.map_some, List.length_cons]
    split
    · rw [ih, Option.map_some, List.length_cons]
    · rfl

theorem attachedFirst (joined : Bool) (cs : List Char) : attached joined cs <+: cs := by
  induction cs generalizing joined with
  | nil => exact List.nil_prefix
  | cons c rest ih =>
    rw [attached]
    split
    · exact List.cons_prefix_cons.mpr ⟨rfl, ih _⟩
    split
    · exact List.cons_prefix_cons.mpr ⟨rfl, ih _⟩
    · exact List.nil_prefix

/- What attaches to a wildcard is the rest of its segment. -/
theorem segmentsFromWild (wild : isWild w = true) (back : List Char) :
    segments (w :: back) =
      (w :: attached false back) :: segments (back.drop (attached false back).length) := by
  have size : extent w back = (attached false back).length := by
    simp only [extent, (wildBreaks wild).1, Phase.ofFirst]
    rw [show (WordBreak.other == .zwj) = false from rfl, reachAttached, Option.getD_some]
  rw [segments, size, ← List.prefix_iff_eq_take.mp (attachedFirst false back)]

theorem wildNotAttached {joined : Bool} {cs : List Char} (inside : w ∈ attached joined cs) :
    isWild w = false := by
  by_contra wild
  obtain ⟨breaks, picture⟩ := wildBreaks (Bool.not_eq_false _ ▸ wild)
  induction cs generalizing joined with
  | nil => contradiction
  | cons c rest ih =>
    rw [attached] at inside
    split at inside
    · rename_i attaches
      rcases List.mem_cons.mp inside with rfl | later
      · rw [breaks] at attaches
        contradiction
      · exact ih later
    split at inside
    · rename_i pictured
      rcases List.mem_cons.mp inside with rfl | later
      · rw [picture, Bool.and_false] at pictured
        contradiction
      · exact ih later
    · contradiction

theorem attachedNone :
    attached false back = [] ↔ ∀ c ∈ back.head?, (wordBreak c).attaches = false := by
  cases back with
  | nil => simp [attached]
  | cons c rest => cases attaches : (wordBreak c).attaches <;> simp [attached, attaches]

/- With something beside it, a wildcard is kept only in a word. -/
theorem wildKept (wild : isWild w = true) (back : List Char) :
    isKept (w :: attached false back) = true ↔ Stays back := by
  have run : isWildcardRun (w :: attached false back) = true ↔ attached false back = [] := by
    rw [runIff, List.forall_mem_cons]
    constructor
    · rintro ⟨-, -, others⟩
      refine List.eq_nil_iff_forall_not_mem.mpr fun c inside => ?_
      have tame := wildNotAttached inside
      rw [others c inside] at tame
      contradiction
    · intro nothing
      rw [nothing]
      exact ⟨List.cons_ne_nil _ _, wild, List.forall_mem_nil _⟩
  have word : isWord (w :: attached false back) = isWord (attached false back) := by
    rw [isWord, List.any_cons, wildNoWord wild, Bool.false_or, isWord]
  rw [isKept, Bool.or_eq_true, run, word, attachedNone, Stays]

end Segments

def Token.Holds (token : Token) (place : Nat) : Prop :=
  token.start ≤ place ∧ place < token.stop

section Places
variable {s : String} {place : Nat}

/- A token around a place has the whole segment of that place in it. -/
theorem heldSegment {token : Token} {span : Span} (known : token ∈ Tokenizer.wildcards.tokenize s)
    (holds : token.Holds place) (inside : span ∈ segmentSpans s) (low : span.start ≤ place)
    (high : place < span.stop) :
    isKept span.chars = true ∧ ∀ c ∈ span.chars, c ∈ token.text.toList := by
  have segmented := wildcardSegmented s
  obtain ⟨front, group, back, split, kept, tiles, text⟩ := (segmented.each token known).made
  obtain ⟨other, member, around⟩ := tilesReach tiles holds.1 holds.2
  have also : other ∈ segmentSpans s := by simp [split, member]
  obtain rfl : other = span := onlyOneAround (tilesApart segmented.tiled)
    (Nat.lt_succ_self place) also inside around ⟨low, high⟩
  refine ⟨kept other member, fun c letter => ?_⟩
  rw [text]
  exact List.mem_flatMap.mpr ⟨other, member, letter⟩

theorem placeHeld {span : Span} (inside : span ∈ segmentSpans s) (low : span.start ≤ place)
    (high : place < span.stop) :
    (∃ token ∈ Tokenizer.wildcards.tokenize s, token.Holds place) ↔
      isKept span.chars = true := by
  constructor
  · rintro ⟨token, known, holds⟩
    exact (heldSegment known holds inside low high).1
  · intro kept
    obtain ⟨token, ⟨known, covers⟩, -⟩ := (wildcardSegmented s).found span inside kept
    exact ⟨token, known, covers.1.trans low, high.trans_le covers.2⟩

theorem heldOnce {token other : Token} (known : token ∈ Tokenizer.wildcards.tokenize s)
    (also : other ∈ Tokenizer.wildcards.tokenize s) (holds : token.Holds place)
    (too : other.Holds place) : token = other :=
  onlyOneAround (wildcardSegmented s).apart (Nat.lt_succ_self place) known also holds too

variable {w : Char} {front back : List Char}

theorem wildSpan (wild : isWild w = true) (split : s.toList = front ++ w :: back) :
    ∃ span ∈ segmentSpans s, span.chars = w :: attached false back ∧
      span.start ≤ byteLength front ∧ byteLength front < span.stop := by
  refine ⟨⟨byteLength front, w :: attached false back⟩, ?_, rfl, le_rfl, ?_⟩
  · rw [segmentSpans, split, segmentsWild wild, segmentsFromWild wild, placeAppend, flattenSegments,
      Nat.zero_add]
    exact List.mem_append_right _ List.mem_cons_self
  · exact Nat.lt_add_of_pos_right (byteLengthPos (List.cons_ne_nil w _))

theorem wildHeld (wild : isWild w = true) (split : s.toList = front ++ w :: back) :
    (∃ token ∈ Tokenizer.wildcards.tokenize s, token.Holds (byteLength front)) ↔ Stays back := by
  obtain ⟨span, inside, chars, low, high⟩ := wildSpan wild split
  rw [placeHeld inside low high, chars, wildKept wild]

theorem wildInText {token : Token} (wild : isWild w = true) (split : s.toList = front ++ w :: back)
    (known : token ∈ Tokenizer.wildcards.tokenize s) (holds : token.Holds (byteLength front)) :
    w ∈ token.text.toList := by
  obtain ⟨span, inside, chars, low, high⟩ := wildSpan wild split
  exact (heldSegment known holds inside low high).2 w (chars ▸ List.mem_cons_self)

end Places

/- Wildcards stay as they are in lower case. -/
theorem lowerKeepsWild {w : Char} {cs : List Char} (wild : isWild w = true) (inside : w ∈ cs)
    (before : List Char) : w ∈ lowerFrom before cs := by
  have reserved : isReserved w = true := by
    rw [isReserved, ← isWild, wild, Bool.true_or]
  induction cs generalizing before with
  | nil => contradiction
  | cons c rest ih =>
    rcases List.mem_cons.mp inside with rfl | later
    · rw [lowerReserved reserved]
      exact List.mem_cons_self
    · exact List.mem_append_right _ (ih later _)

theorem loweredWild {w : Char} {text : String} (wild : isWild w = true)
    (inside : w ∈ text.toList) : hasWildcard (lowerText text) = true := by
  rw [hasWildcard, lowerText, String.toList_ofList]
  exact List.any_eq_true.mpr ⟨w, lowerKeepsWild wild inside [], wild⟩

end QueryFederation.Text
