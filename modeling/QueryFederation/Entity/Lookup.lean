import QueryFederation.Fault
import QueryFederation.Schema.QualifiedName

/-! Entities and their primary parents. -/
namespace QueryFederation.Entity
open Schema

structure EntityId where
  text : String
  deriving DecidableEq, Repr

structure ParentLink where
  parent : EntityId
  child : EntityId
  type : QualifiedName
  name : QualifiedName
  primary : Bool
  deriving DecidableEq, Repr

structure Lookup where
  contains : EntityId → Except Fault Bool
  primaryParent : EntityId → Except Fault (Option ParentLink)

/- A child has one link at most, that of its primary parent. -/
structure Register where
  entities : List EntityId := []
  links : List ParentLink := []
  deriving DecidableEq, Repr

namespace Register

def addRoot (register : Register) (id : EntityId) : Register :=
  { register with entities := register.entities.insert id }

/- Both ends of the link become entities. The link takes the place of an earlier one of the child. -/
def addChild (register : Register) (link : ParentLink) : Register :=
  { entities := (register.entities.insert link.parent).insert link.child
    links := link :: register.links.filter fun other => other.child ≠ link.child }

def contains (register : Register) (id : EntityId) : Bool := register.entities.contains id

def primaryParent? (register : Register) (id : EntityId) : Option ParentLink :=
  register.links.find? fun link => link.child = id

def lookup (register : Register) : Lookup where
  contains id := .ok (register.contains id)
  primaryParent id := .ok (register.primaryParent? id)

end Register

def Lookup.failingOn (lookup : Lookup) (faults : List (EntityId × Fault)) : Lookup :=
  { lookup with
    contains := fun id =>
      match faults.lookup id with
      | some fault => .error fault
      | none => lookup.contains id }

end QueryFederation.Entity
