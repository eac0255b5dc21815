import Mathlib.Data.List.AList
import QueryFederation.Schema.Namespaces

/-! Namespace labels as two maps, one for each direction. A registration writes to both of them: the
label is taken from the address that it stood for, and is put last at the one it stands for now. -/
namespace QueryFederation.Schema

structure LabelIndex where
  addresses : AList fun _ : String => String := ∅
  lists : AList fun _ : String => List String := ∅

namespace LabelIndex

def withdraw (lists : AList fun _ : String => List String) (label address : String) :
    AList fun _ : String => List String :=
  match lists.lookup address with
  | some labels => lists.insert address (labels.filter (· ≠ label))
  | none => lists

def enlist (lists : AList fun _ : String => List String) (label address : String) :
    AList fun _ : String => List String :=
  lists.insert address ((lists.lookup address).getD [] ++ [label])

/- The lists without a label that is about to move. -/
def released (index : LabelIndex) (label : String) : AList fun _ : String => List String :=
  match index.addresses.lookup label with
  | some before => withdraw index.lists label before
  | none => index.lists

def register (index : LabelIndex) (label address : String) : LabelIndex :=
  ⟨index.addresses.insert label address, enlist (index.released label) label address⟩

def registerAll (index : LabelIndex) (registrations : List (String × String)) : LabelIndex :=
  registrations.foldl (fun index entry => index.register entry.1 entry.2) index

def address? (index : LabelIndex) (label : String) : Option String := index.addresses.lookup label

def labels (index : LabelIndex) (address : String) : List String :=
  (index.lists.lookup address).getD []

def size (index : LabelIndex) : Nat := index.addresses.keys.length

end LabelIndex

end QueryFederation.Schema
