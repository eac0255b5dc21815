/-! Tokens: pieces of a text with their place in it. -/
namespace QueryFederation.Text

structure Token where
  text : String
  position : Nat
  /- Byte offsets into the source text; the second is just past the end. -/
  start : Nat
  stop : Nat
  deriving DecidableEq, Repr

def Token.unplaced (text : String) (position : Nat) : Token := ⟨text, position, 0, 0⟩

def Token.isEmpty (token : Token) : Bool := token.text.isEmpty

def byteLength : List Char → Nat
  | [] => 0
  | c :: rest => c.utf8Size + byteLength rest

structure Span where
  start : Nat
  chars : List Char
  deriving DecidableEq, Repr

def Span.stop (span : Span) : Nat := span.start + byteLength span.chars

def Span.toToken (span : Span) (position : Nat) : Token :=
  ⟨String.ofList span.chars, position, span.start, span.stop⟩

def place (start : Nat) : List (List Char) → List Span
  | [] => []
  | piece :: rest => ⟨start, piece⟩ :: place (start + byteLength piece) rest

def number (spans : List Span) : List Token :=
  spans.zipIdx.map fun (span, position) => span.toToken position

end QueryFederation.Text
