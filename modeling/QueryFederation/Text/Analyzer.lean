import QueryFederation.Text.Tokenizer
import QueryFederation.Unicode.Case

/-! Analyzers turn text into the terms that an index holds. Free text is cut into lower-case
words; identifiers and encoded values stay whole. -/
namespace QueryFederation.Text
open Unicode

inductive Analyzer where
  | standard
  | wildcard
  | keyword
  deriving DecidableEq, Repr

def Analyzer.name : Analyzer → String
  | .standard | .wildcard => "standard"
  | .keyword => "keyword"

def Analyzer.lowercases : Analyzer → Bool
  | .standard | .wildcard => true
  | .keyword => false

def Analyzer.tokenizer : Analyzer → Tokenizer
  | .standard => .words
  | .wildcard => .wildcards
  | .keyword => .whole

def Token.lowered (token : Token) : Token := { token with text := lowerText token.text }

def Analyzer.analyze (analyzer : Analyzer) (s : String) : List Token :=
  let tokens := analyzer.tokenizer.tokenize s
  if analyzer.lowercases then tokens.map Token.lowered else tokens

def Analyzer.terms (analyzer : Analyzer) (s : String) : List String :=
  (analyzer.analyze s).map Token.text

end QueryFederation.Text
