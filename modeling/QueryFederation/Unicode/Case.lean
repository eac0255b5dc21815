import QueryFederation.Unicode.CasedTable
import QueryFederation.Unicode.CaseTable

/-! Full case mapping of texts. Upper case maps each character by itself. Lower case does so too,
but for a capital sigma, which is lowered to its final form where a word ends. -/
namespace QueryFederation.Unicode

def CaseRun.image? (run : CaseRun) (point : Nat) : Option Nat :=
  if run.first ≤ point ∧ point ≤ run.last ∧ (point - run.first) % run.step = 0 then
    some (run.image + (point - run.first))
  else none

def mapPoint (runs : List CaseRun) (expansions : List (Nat × List Nat)) (c : Char) : List Char :=
  match expansions.lookup c.toNat with
  | some points => points.map Char.ofNat
  | none =>
    match runs.findSome? (·.image? c.toNat) with
    | some point => [Char.ofNat point]
    | none => [c]

def lowerChar (c : Char) : List Char := mapPoint lowerRuns lowerExpansions c

def upperChar (c : Char) : List Char := mapPoint upperRuns upperExpansions c

def isCased (c : Char) : Bool := inRanges c.toNat casedRanges

def isCaseIgnorable (c : Char) : Bool := inRanges c.toNat caseIgnorableRanges

def meetsCased (cs : List Char) : Bool := (cs.dropWhile isCaseIgnorable).head?.any isCased

/- A sigma is final when a letter stands before it and none after it. The characters before
it are given nearest first. -/
def sigma (before after : List Char) : Char :=
  if meetsCased before && !meetsCased after then 'ς' else 'σ'

def lowerFrom (before : List Char) : List Char → List Char
  | [] => []
  | c :: rest =>
    (if c = 'Σ' then [sigma before rest] else lowerChar c) ++ lowerFrom (c :: before) rest

def lower (cs : List Char) : List Char := lowerFrom [] cs

def upper (cs : List Char) : List Char := cs.flatMap upperChar

def lowerText (s : String) : String := String.ofList (lower s.toList)

def upperText (s : String) : String := String.ofList (upper s.toList)

end QueryFederation.Unicode
