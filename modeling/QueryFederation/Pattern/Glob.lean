/-! Patterns over texts: characters, and places for one character or for any number of them. -/
namespace QueryFederation.Pattern

inductive Piece where
  | anyRun
  | anyOne
  | char (c : Char)
  deriving DecidableEq, Repr

/- Reads the pattern of a LIKE comparison. A backslash makes the next character stand for
itself; at the end it stands for itself. -/
def ofLike : List Char → List Piece
  | [] => []
  | ['\\'] => [.char '\\']
  | '\\' :: c :: rest => .char c :: ofLike rest
  | '%' :: rest => .anyRun :: ofLike rest
  | '_' :: rest => .anyOne :: ofLike rest
  | c :: rest => .char c :: ofLike rest

def isReserved (c : Char) : Bool := c == '*' || c == '?' || c == '\\'

def Piece.toWildcard : Piece → List Char
  | .anyRun => ['*']
  | .anyOne => ['?']
  | .char c => if isReserved c then ['\\', c] else [c]

def toWildcard (pieces : List Piece) : List Char := pieces.flatMap Piece.toWildcard

def likeToWildcard (pattern : String) : String :=
  String.ofList (toWildcard (ofLike pattern.toList))

def isWild (c : Char) : Bool := c == '*' || c == '?'

def hasWildcard (s : String) : Bool := s.toList.any isWild

def startsWild (s : String) : Bool := s.toList.head?.any isWild

end QueryFederation.Pattern
