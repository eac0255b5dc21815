import QueryFederation.Unicode.PictographTable
import QueryFederation.Unicode.WordBreakTable

/-! The properties of a character that decide where words end. -/
namespace QueryFederation.Unicode

def wordBreak (c : Char) : WordBreak :=
  valueAt c.toNat (valueAt c.toNat .other wordBreakHigh) wordBreakLow

/- Marks, format characters and joiners attach to what stands before them. -/
def WordBreak.attaches : WordBreak → Bool
  | .extend | .format | .zwj => true
  | _ => false

def isPictograph (c : Char) : Bool := inRanges c.toNat pictographRanges

end QueryFederation.Unicode
