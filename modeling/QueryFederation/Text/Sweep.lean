import QueryFederation.Text.Tokenizer

/-! The places of words and wildcards, found in one pass over the segments of a text. A place stays open
as long as the segments that follow are joined to it. -/
namespace QueryFederation.Text

structure Sweep where
  closed : List (Nat × Nat) := []
  current : Option (Nat × Nat) := none
  afterRun : Bool := false

namespace Sweep

def places (sweep : Sweep) : List (Nat × Nat) := sweep.closed ++ sweep.current.toList

/- A run goes on with whatever is open, a word only with a run. -/
def continues (sweep : Sweep) (span : Span) : Bool :=
  isWildcardRun span.chars ||
    (!isWildcardRun span.chars && isWord span.chars && sweep.afterRun)

def step (sweep : Sweep) (span : Span) : Sweep :=
  let run := isWildcardRun span.chars
  let word := !run && isWord span.chars
  match sweep.current, sweep.continues span with
  | some (start, _), true => ⟨sweep.closed, some (start, span.stop), run⟩
  | _, _ => ⟨sweep.places, if run || word then some (span.start, span.stop) else none, run⟩

end Sweep

def sweptPlaces (cs : List Char) : List (Nat × Nat) :=
  ((place 0 (segments cs)).foldl Sweep.step {}).places

end QueryFederation.Text
