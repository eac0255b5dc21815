/-! Namespace labels. A label stands for one address at a time; labels are kept in the order of
their latest registrations, so the first label of an address is the one registered longest ago. -/
namespace QueryFederation.Schema

structure Namespaces where
  entries : List (String × String) := []
  deriving DecidableEq, Repr

namespace Namespaces

def register (table : Namespaces) (label address : String) : Namespaces :=
  ⟨table.entries.filter (fun entry => entry.1 ≠ label) ++ [(label, address)]⟩

def registerAll (table : Namespaces) (registrations : List (String × String)) : Namespaces :=
  registrations.foldl (fun table entry => table.register entry.1 entry.2) table

def address? (table : Namespaces) (label : String) : Option String := table.entries.lookup label

def labels (table : Namespaces) (address : String) : List String :=
  (table.entries.filter fun entry => entry.2 = address).map Prod.fst

def size (table : Namespaces) : Nat := table.entries.length

def isEmpty (table : Namespaces) : Bool := table.entries.isEmpty

end Namespaces

end QueryFederation.Schema
