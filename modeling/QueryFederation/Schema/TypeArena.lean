import QueryFederation.Order.Places
import QueryFederation.Schema.TypeHierarchy

/-! A hierarchy of types as an arena. Each type is a node that has its parent and its children by
their places, and a map finds the place of a type. The nodes are made first and linked one by one;
that no type is above itself is checked on the linked nodes. -/
namespace QueryFederation.Schema

structure TypeNode where
  name : QualifiedName
  parent : Option Nat := none
  children : List Nat := []
  deriving DecidableEq, Repr

structure TypeArena where
  nodes : List TypeNode := []
  index : AList fun _ : QualifiedName => Nat := ∅

namespace TypeArena

/- Links the type at a place to its parent, and the parent to it. -/
def link (index : AList fun _ : QualifiedName => Nat) (nodes : List TypeNode) (place : Nat)
    (decl : TypeDecl) : Except HierarchyFault (List TypeNode) :=
  match decl.parent with
  | none => .ok nodes
  | some parent =>
    match index.lookup parent with
    | none => .error (.undeclaredParent decl.name parent)
    | some above =>
      let under := nodes.modify place fun node => { node with parent := some above }
      .ok (under.modify above fun node => { node with children := node.children ++ [place] })

def linkFrom (index : AList fun _ : QualifiedName => Nat) (nodes : List TypeNode) (place : Nat) :
    List TypeDecl → Except HierarchyFault (List TypeNode)
  | [] => .ok nodes
  | decl :: rest =>
    match link index nodes place decl with
    | .error fault => .error fault
    | .ok linked => linkFrom index linked (place + 1) rest

/- Whether a climb comes back to the place that it started from, or takes too many steps. -/
def circles (nodes : List TypeNode) (start : Nat) : Nat → Option Nat → Bool
  | _, none => false
  | 0, some _ => true
  | steps + 1, some next =>
    next = start || circles nodes start steps (nodes[next]?.bind TypeNode.parent)

def endless? (nodes : List TypeNode) : Option QualifiedName :=
  (nodes.zipIdx.find? fun entry => circles nodes entry.2 nodes.length entry.1.parent).map
    fun entry => entry.1.name

def build (decls : List TypeDecl) : Except HierarchyFault TypeArena :=
  match Order.places (decls.map TypeDecl.name) with
  | .error name => .error (.declaredTwice name)
  | .ok index =>
    match linkFrom index (decls.map fun decl => { name := decl.name }) 0 decls with
    | .error fault => .error fault
    | .ok nodes =>
      match endless? nodes with
      | some name => .error (.cycle name)
      | none => .ok ⟨nodes, index⟩

def contains (arena : TypeArena) (name : QualifiedName) : Bool := (arena.index.lookup name).isSome

def size (arena : TypeArena) : Nat := arena.nodes.length

def isEmpty (arena : TypeArena) : Bool := arena.nodes.isEmpty

def above? (arena : TypeArena) (name : QualifiedName) : Option Nat := do
  let place ← arena.index.lookup name
  (← arena.nodes[place]?).parent

def parent? (arena : TypeArena) (name : QualifiedName) : Option QualifiedName := do
  let place ← arena.above? name
  return (← arena.nodes[place]?).name

def climb (arena : TypeArena) : Nat → Option Nat → List QualifiedName
  | steps + 1, some place =>
    match arena.nodes[place]? with
    | some node => node.name :: arena.climb steps node.parent
    | none => []
  | _, _ => []

def ancestors (arena : TypeArena) (name : QualifiedName) : List QualifiedName :=
  arena.climb arena.size (arena.above? name)

/- The places that wait are a stack whose top is their first. -/
def descend (arena : TypeArena) : Nat → List Nat → List QualifiedName
  | visits + 1, place :: rest =>
    match arena.nodes[place]? with
    | some node => node.name :: arena.descend visits (node.children ++ rest)
    | none => []
  | _, _ => []

def subtypes (arena : TypeArena) (name : QualifiedName) : List QualifiedName :=
  match arena.index.lookup name with
  | some root => arena.descend arena.size [root]
  | none => []

end TypeArena

end QueryFederation.Schema
