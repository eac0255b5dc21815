import QueryFederation.Pattern.Match
import QueryFederation.Unicode.Case

/-! Patterns in lower case. A pattern is lowered as it is written, and a place in it for any
character is written as a character without case. Only a capital sigma is lowered by what stands
beside it. -/
namespace QueryFederation.Pattern
open Unicode

/- Whether the nearest character that counts is a letter with case. It is not known where a place
for any character comes first. -/
def meetsCased? : List Piece → Option Bool
  | [] => some false
  | .char c :: rest => if isCaseIgnorable c then meetsCased? rest else some (isCased c)
  | _ :: _ => none

def sigmaAmong (before after : List Piece) : Char :=
  if (meetsCased? before).getD false && !(meetsCased? after).getD false then 'ς' else 'σ'

def Piece.lowered (before after : List Piece) : Piece → List Piece
  | .char c => (if c = 'Σ' then [sigmaAmong before after] else lowerChar c).map .char
  | wild => [wild]

/- Each piece is lowered where it stands. What stands before it is given nearest first. -/
def lowerPiecesFrom (before : List Piece) : List Piece → List Piece
  | [] => []
  | piece :: rest => piece.lowered before rest ++ lowerPiecesFrom (piece :: before) rest

def lowerPieces (ps : List Piece) : List Piece := lowerPiecesFrom [] ps

/- A place for one character takes any but the one character that is two in lower case. -/
inductive MatchesSingly : List Piece → List Char → Prop where
  | nil : MatchesSingly [] []
  | anyRun {ps s} (skipped : List Char) (rest : MatchesSingly ps s) :
      MatchesSingly (.anyRun :: ps) (skipped ++ s)
  | anyOne {ps s} (c : Char) (undotted : c ≠ 'İ') (rest : MatchesSingly ps s) :
      MatchesSingly (.anyOne :: ps) (c :: s)
  | char {ps s} (c : Char) (rest : MatchesSingly ps s) : MatchesSingly (.char c :: ps) (c :: s)

/- What stands beside a sigma is known well enough to know its form. -/
inductive Settled : Option Bool → Option Bool → Prop where
  | starts {after} : Settled (some false) after
  | goesOn {before} : Settled before (some true)
  | ends : Settled (some true) (some false)

def SettledAfter (before ps : List Piece) : Prop :=
  ∀ front back, ps = front ++ .char 'Σ' :: back →
    Settled (meetsCased? (front.reverse ++ before)) (meetsCased? back)

def SigmasSettled (ps : List Piece) : Prop := SettledAfter [] ps

end QueryFederation.Pattern
