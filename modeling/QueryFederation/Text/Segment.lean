import QueryFederation.Unicode.WordBreak

/-! Word segmentation. A text is cut into words, numbers, runs of spaces and single other
characters; each of them keeps the marks that attach to it. `segments` loses no character. -/
namespace QueryFederation.Text
open Unicode

/-- What must stand after a middle character, such as the point in `3.14`, for it to join the
parts on its two sides. -/
inductive Need where
  | letter
  | hebrew
  | numeric
  deriving DecidableEq, Repr

inductive Phase where
  | letter
  | hebrew
  | numeric
  | katakana
  | connector
  | indicator
  | space
  | apostrophe
  | sealed
  | awaiting (need : Need)
  deriving DecidableEq, Repr

inductive Move where
  | enter (next : Phase)
  | propose (need : Need)
  | stop
  | refuse
  deriving DecidableEq, Repr

def Phase.attach : Phase → Phase
  | .space => .sealed
  | phase => phase

def Phase.isAwaiting : Phase → Bool
  | .awaiting _ => true
  | _ => false

def Phase.step : Phase → WordBreak → Move
  | .letter, .aLetter => .enter .letter
  | .letter, .hebrewLetter => .enter .hebrew
  | .letter, .numeric => .enter .numeric
  | .letter, .extendNumLet => .enter .connector
  | .letter, .midLetter | .letter, .midNumLet | .letter, .singleQuote => .propose .letter
  | .hebrew, .aLetter => .enter .letter
  | .hebrew, .hebrewLetter => .enter .hebrew
  | .hebrew, .numeric => .enter .numeric
  | .hebrew, .extendNumLet => .enter .connector
  | .hebrew, .doubleQuote => .propose .hebrew
  | .hebrew, .singleQuote => .enter .apostrophe
  | .hebrew, .midLetter | .hebrew, .midNumLet => .propose .letter
  | .numeric, .numeric => .enter .numeric
  | .numeric, .aLetter => .enter .letter
  | .numeric, .hebrewLetter => .enter .hebrew
  | .numeric, .extendNumLet => .enter .connector
  | .numeric, .midNum | .numeric, .midNumLet | .numeric, .singleQuote => .propose .numeric
  | .katakana, .katakana => .enter .katakana
  | .katakana, .extendNumLet => .enter .connector
  | .connector, .extendNumLet => .enter .connector
  | .connector, .aLetter => .enter .letter
  | .connector, .hebrewLetter => .enter .hebrew
  | .connector, .numeric => .enter .numeric
  | .connector, .katakana => .enter .katakana
  | .indicator, .regionalIndicator => .enter .sealed
  | .space, .segSpace => .enter .space
  | .apostrophe, .aLetter => .enter .letter
  | .apostrophe, .hebrewLetter => .enter .hebrew
  | .awaiting .letter, .aLetter => .enter .letter
  | .awaiting .letter, .hebrewLetter => .enter .hebrew
  | .awaiting .hebrew, .hebrewLetter => .enter .hebrew
  | .awaiting .numeric, .numeric => .enter .numeric
  | .awaiting _, _ => .refuse
  | _, _ => .stop

def Phase.ofFirst : WordBreak → Phase
  | .aLetter => .letter
  | .hebrewLetter => .hebrew
  | .numeric => .numeric
  | .katakana => .katakana
  | .extendNumLet => .connector
  | .regionalIndicator => .indicator
  | .segSpace => .space
  | _ => .sealed

/- How many of the characters that follow belong to the segment; `none` when what the phase
awaits does not come. A pictograph straight after a joiner always belongs to it. -/
def reach (phase : Phase) (joined : Bool) : List Char → Option Nat
  | [] => if phase.isAwaiting then none else some 0
  | c :: rest =>
    let kind := wordBreak c
    if kind.attaches then (reach phase.attach (kind == .zwj) rest).map (· + 1)
    else if joined && isPictograph c then (reach .sealed false rest).map (· + 1)
    else
      match phase.step kind with
      | .enter next => (reach next false rest).map (· + 1)
      | .propose need => some (((reach (.awaiting need) false rest).map (· + 1)).getD 0)
      | .stop => some 0
      | .refuse => none

/- How many characters the first segment has beyond its first one. Nothing attaches to a line
end, and the two characters of one line end stay together. -/
def extent (c : Char) (rest : List Char) : Nat :=
  match wordBreak c with
  | .cr => if (rest.head?.map wordBreak) = some .lf then 1 else 0
  | .lf | .newline => 0
  | kind => (reach (Phase.ofFirst kind) (kind == .zwj) rest).getD 0

def segments : List Char → List (List Char)
  | [] => []
  | c :: rest =>
    (c :: rest.take (extent c rest)) :: segments (rest.drop (extent c rest))
  termination_by cs => cs.length
  decreasing_by simp only [List.length_drop, List.length_cons]; omega

theorem flattenSegments (cs : List Char) : (segments cs).flatten = cs := by
  fun_induction segments cs with
  | case1 => rfl
  | case2 c rest ih => simp [ih]

theorem neNilOfMemSegments {cs piece : List Char} (mem : piece ∈ segments cs) :
    piece ≠ [] := by
  fun_induction segments cs with
  | case1 => simp at mem
  | case2 c rest ih =>
    rcases List.mem_cons.mp mem with rfl | tail
    · simp
    · exact ih tail

end QueryFederation.Text
