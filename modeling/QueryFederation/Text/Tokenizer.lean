import QueryFederation.Pattern.Glob
import QueryFederation.Text.Segment
import QueryFederation.Text.Token
import QueryFederation.Unicode.Alphanumeric

/-! Tokenizers. Words are the segments with a letter or a number in them. With wildcards kept,
runs of `*` and `?` are kept too, and are joined to the words and runs that they touch. -/
namespace QueryFederation.Text
open Unicode

def isWildcardRun (piece : List Char) : Bool := !piece.isEmpty && piece.all Pattern.isWild

def isWord (piece : List Char) : Bool := piece.any isAlphanumeric

def isKept (piece : List Char) : Bool := isWildcardRun piece || isWord piece

def joins (a b : Span) : Bool :=
  isKept a.chars && isKept b.chars && (isWildcardRun a.chars || isWildcardRun b.chars)

def merge : List Span → Option Span
  | [] => none
  | first :: rest => some ⟨first.start, first.chars ++ rest.flatMap Span.chars⟩

inductive Tokenizer where
  | words
  | wildcards
  | whole
  deriving DecidableEq, Repr

def Tokenizer.name : Tokenizer → String
  | .words | .wildcards => "unicode_word"
  | .whole => "whole"

def wordSpans (cs : List Char) : List Span :=
  (place 0 (segments cs)).filter fun span => isWord span.chars

def wildcardSpans (cs : List Char) : List Span :=
  let groups := (place 0 (segments cs)).splitBy joins
  (groups.filterMap merge).filter fun span => isKept span.chars

def Tokenizer.tokenize : Tokenizer → String → List Token
  | .words, s => number (wordSpans s.toList)
  | .wildcards, s => number (wildcardSpans s.toList)
  | .whole, s => if s.isEmpty then [] else number [⟨0, s.toList⟩]

end QueryFederation.Text
