/-! What can go wrong, from the compilation of a request to the reading of its rows. -/
namespace QueryFederation

inductive Agreed where
  | entityId
  | score
  deriving DecidableEq, Repr

def Agreed.name : Agreed → String
  | .entityId => "entity id"
  | .score => "score"

inductive Fault where
  | unknownField (property : String)
  | untranslatable (node reason : String)
  | searchFailed (selector message : String)
  | emptyFederation
  | rowOutOfRange (row rows : Nat)
  | ambiguous (row : Nat) (what : Agreed)
  | rowCountMismatch (selector : String) (expected actual : Nat)
  | duplicateSelector (name : String)
  | closed
  | entityNotFound (id : String)
  | dictionary (reason : String)
  | analysis (reason : String)
  | invalidArgument (reason : String)
  | configuration (reason : String)
  | file (reason : String)
  | json (reason : String)
  | external (reason : String)
  deriving DecidableEq, Repr

namespace Fault

def quoted (s : String) : String := "`" ++ s ++ "`"

def message : Fault → String
  | .unknownField property => "Unknown field: " ++ property
  | .untranslatable node reason =>
    "Predicate translation error at " ++ quoted node ++ ": " ++ reason
  | .searchFailed selector message =>
    "Search execution error for selector " ++ quoted selector ++ ": " ++ message
  | .emptyFederation => "Federated result set has no selectors"
  | .rowOutOfRange row rows =>
    "Row index " ++ toString row ++ " out of range (row count " ++ toString rows ++ ")"
  | .ambiguous row what =>
    "Ambiguous selector: " ++ what.name ++ " differs across selectors at row " ++ toString row
  | .rowCountMismatch selector expected actual =>
    "Row count mismatch: selector " ++ quoted selector ++ " has " ++ toString actual ++
      " rows, expected " ++ toString expected
  | .duplicateSelector name => "Duplicate selector: " ++ name
  | .closed => "Result set has been closed"
  | .entityNotFound id => "Entity not found: " ++ id
  | .dictionary reason => "Dictionary error: " ++ reason
  | .analysis reason => "Analysis error: " ++ reason
  | .invalidArgument reason => "Invalid argument: " ++ reason
  | .configuration reason => "Invalid configuration: " ++ reason
  | .file reason => "I/O error: " ++ reason
  | .json reason => "JSON error: " ++ reason
  | .external reason => "Anyhow error: " ++ reason

/- Whether the fault lies in how results were put together or read, rather than in the request
or in another party. -/
def isContractViolation : Fault → Bool
  | .emptyFederation | .rowOutOfRange .. | .ambiguous .. | .rowCountMismatch ..
  | .duplicateSelector _ | .closed => true
  | _ => false

end Fault

end QueryFederation
