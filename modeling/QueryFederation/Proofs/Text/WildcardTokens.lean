import Mathlib
import QueryFederation.Proofs.Index.ByteOrder
import QueryFederation.Proofs.Text.OneWord
import QueryFederation.Proofs.Text.Sweep

/-! The tokens of a text in which wildcards are kept. Each token is a part of the text, byte by byte,
and a run of kept segments; each kept segment is in one token, and two neighbours share a token just
where one of them is a run of wildcards. -/
namespace QueryFederation.Text
open Index

def segmentSpans (s : String) : List Span := place 0 (segments s.toList)

theorem byteLengthBytes (cs : List Char) :
    byteLength cs = (cs.flatMap String.utf8EncodeChar).length := by
  induction cs with
  | nil => rfl
  | cons c rest ih =>
    rw [byteLength, ih, List.flatMap_cons, List.length_append, String.length_utf8EncodeChar]

theorem segmentsTile (s : String) : Tiles 0 (segmentSpans s) (bytes s).length := by
  have filled : ∀ piece ∈ segments s.toList, piece ≠ [] := fun piece => neNilOfMemSegments
  have tiles := tilesPlace filled 0
  rwa [flattenSegments, Nat.zero_add, byteLengthBytes, ← bytesEq] at tiles

theorem segmentSpansChars (s : String) : (segmentSpans s).flatMap Span.chars = s.toList := by
  rw [List.flatMap_def, segmentSpans, placeChars, flattenSegments]

def Token.Covers (token : Token) (span : Span) : Prop :=
  token.start ≤ span.start ∧ span.stop ≤ token.stop

/- A token that stands in the text and is made of whole segments of it. -/
structure Token.CutFrom (token : Token) (s : String) : Prop where
  filled : token.start < token.stop
  within : token.stop ≤ (bytes s).length
  exact : bytes token.text = ((bytes s).drop token.start).take (token.stop - token.start)
  made : ∃ front group back, segmentSpans s = front ++ group ++ back ∧ AllKept group ∧
    Tiles token.start group token.stop ∧ token.text.toList = group.flatMap Span.chars

structure Segmented (s : String) (tokens : List Token) : Prop where
  tiled : Tiles 0 (segmentSpans s) (bytes s).length
  each : ∀ token ∈ tokens, token.CutFrom s
  numbered : tokens.map Token.position = List.range tokens.length
  apart : tokens.Pairwise fun a b => a.stop ≤ b.start
  found : ∀ span ∈ segmentSpans s, isKept span.chars = true →
    ∃! token, token ∈ tokens ∧ token.Covers span
  shared : ∀ front a b back, segmentSpans s = front ++ a :: b :: back →
    isKept a.chars = true → isKept b.chars = true →
      ((∃ token ∈ tokens, token.Covers a ∧ token.Covers b) ↔
        isWildcardRun b.chars = true ∨ isWildcardRun a.chars = true)
  swept : tokens.map (fun token => (token.start, token.stop)) = sweptPlaces s.toList

section Numbered
variable {spans : List Span} {token : Token}

theorem memNumber : token ∈ number spans ↔
    ∃ span position, (span, position) ∈ spans.zipIdx ∧ span.toToken position = token := by
  simp [number]

theorem numberedFrom (inside : token ∈ number spans) :
    ∃ span ∈ spans, ∃ position, token = span.toToken position := by
  obtain ⟨span, position, member, rfl⟩ := memNumber.mp inside
  exact ⟨span, List.fst_mem_of_mem_zipIdx member, position, rfl⟩

theorem numberedTo {span : Span} (inside : span ∈ spans) :
    ∃ position, span.toToken position ∈ number spans := by
  rw [← List.zipIdx_map_fst 0 spans] at inside
  obtain ⟨⟨_, position⟩, member, rfl⟩ := List.mem_map.mp inside
  exact ⟨position, memNumber.mpr ⟨_, position, member, rfl⟩⟩

theorem numberMap {α : Type} (read : Token → α) (given : Span → α)
    (same : ∀ span position, read (span.toToken position) = given span) :
    (number spans).map read = spans.map given := by
  conv_rhs => rw [← List.zipIdx_map_fst 0 spans, List.map_map]
  rw [number, List.map_map]
  exact List.map_congr_left fun entry _ => same entry.1 entry.2

theorem numberPositions : (number spans).map Token.position = List.range (number spans).length := by
  have positions : (number spans).map Token.position = spans.zipIdx.map Prod.snd := by
    rw [number, List.map_map]
    rfl
  rw [positions, List.zipIdx_map_snd, List.range_eq_range', number, List.length_map,
    List.length_zipIdx]

theorem numberApart (apart : spans.Pairwise fun a b => a.stop ≤ b.start) :
    (number spans).Pairwise fun a b => a.stop ≤ b.start := by
  rw [← List.zipIdx_map_fst 0 spans, List.pairwise_map] at apart
  rw [number, List.pairwise_map]
  exact apart

end Numbered

section Tokens
variable {s : String} {piece span : Span} {token : Token}

theorem wildcardTokenize (s : String) :
    Tokenizer.wildcards.tokenize s = number (keptPieces (segmentSpans s)) :=
  congrArg number (wildcardSpansGroups s.toList)

/- The bytes of a part of a text. -/
theorem bytesBetween {front part back : List Char} (whole : s.toList = front ++ part ++ back) :
    ((bytes s).drop (byteLength front)).take (byteLength part) = bytes (String.ofList part) := by
  rw [bytesEq, whole, List.flatMap_append, List.flatMap_append, List.append_assoc,
    byteLengthBytes front, List.drop_left, byteLengthBytes part, List.take_left, bytesEq,
    String.toList_ofList]

theorem pieceToken (inside : piece ∈ keptPieces (segmentSpans s)) (position : Nat) :
    (piece.toToken position).CutFrom s := by
  obtain ⟨group, known, kept, merges⟩ := memKeptPieces.mp inside
  obtain ⟨front, back, split⟩ := groupSplits known
  have tiles := segmentsTile s
  have between := mergedBetween (by rwa [flattenGroups]) known merges
  have chars := mergedChars merges
  have whole := segmentSpansChars s
  rw [split, List.append_assoc] at tiles
  obtain ⟨left, before, others⟩ := tilesAppend.mp tiles
  obtain ⟨right, middle, -⟩ := tilesAppend.mp others
  obtain ⟨begins, ends⟩ := mergedPlace middle merges
  have size : piece.stop - piece.start = byteLength piece.chars := Nat.add_sub_cancel_left _ _
  have start : piece.start = byteLength (front.flatMap Span.chars) := by
    rw [begins, tilesLength before, Nat.zero_add]
  rw [split, List.flatMap_append, List.flatMap_append, ← chars] at whole
  refine ⟨between.2.1, between.2.2, ?_, front, group, back, split, kept, ?_, ?_⟩
  · change bytes (String.ofList piece.chars) =
      ((bytes s).drop piece.start).take (piece.stop - piece.start)
    rw [size, start, bytesBetween whole.symm]
  · rwa [← begins, ← ends] at middle
  · exact String.toList_ofList.trans chars

theorem wildcardSegmented (s : String) : Segmented s (Tokenizer.wildcards.tokenize s) := by
  have tiles := segmentsTile s
  have apart := numberApart (keptApart tiles)
  rw [wildcardTokenize]
  refine ⟨tiles, ?_, numberPositions, apart, ?_, ?_, ?_⟩
  · intro token inside
    obtain ⟨piece, known, position, rfl⟩ := numberedFrom inside
    exact pieceToken known position
  · intro span inside kept
    have filled := (tilesBounds tiles inside).2.1
    obtain ⟨piece, known, around⟩ := keptFound tiles inside kept
    obtain ⟨position, member⟩ := numberedTo known
    refine ⟨_, ⟨member, around⟩, fun other found => ?_⟩
    exact onlyOneAround apart filled found.1 member found.2 around
  · intro front a b back split left right
    rw [or_comm, ← sharedPiece tiles split left right]
    constructor
    · rintro ⟨token, inside, aCovered, bCovered⟩
      obtain ⟨piece, known, position, rfl⟩ := numberedFrom inside
      exact ⟨piece, known, aCovered, bCovered⟩
    · rintro ⟨piece, known, aInside, bInside⟩
      obtain ⟨position, member⟩ := numberedTo known
      exact ⟨_, member, aInside, bInside⟩
  · rw [sweptEq, numberMap _ Span.bounds fun _ _ => rfl, wildcardSpansGroups]
    rfl

/- What an analyzer that lowers the case makes of a token. -/
structure Token.Lowers (token lowered : Token) : Prop where
  text : lowered.text = Unicode.lowerText token.text
  position : lowered.position = token.position
  place : lowered.start = token.start ∧ lowered.stop = token.stop

theorem wildcardTokens (s : String) : Segmented s (Tokenizer.wildcards.tokenize s) ∧
    List.Forall₂ Token.Lowers (Tokenizer.wildcards.tokenize s) (Analyzer.wildcard.analyze s) := by
  refine ⟨wildcardSegmented s, ?_⟩
  have lowered : Analyzer.wildcard.analyze s =
      (Tokenizer.wildcards.tokenize s).map Token.lowered := rfl
  rw [lowered, List.forall₂_map_right_iff]
  exact List.forall₂_same.mpr fun token _ => ⟨rfl, rfl, rfl, rfl⟩

end Tokens

end QueryFederation.Text
