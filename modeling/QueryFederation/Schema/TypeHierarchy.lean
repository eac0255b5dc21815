import QueryFederation.Order.Repeat
import QueryFederation.Schema.QualifiedName

/-! A fixed hierarchy of types. Types are declared with their parents, in any order; `build`
accepts the declarations that form a forest. -/
namespace QueryFederation.Schema

structure TypeDecl where
  name : QualifiedName
  parent : Option QualifiedName
  deriving DecidableEq, Repr

inductive HierarchyFault where
  | declaredTwice (name : QualifiedName)
  | undeclaredParent (name parent : QualifiedName)
  | cycle (name : QualifiedName)
  deriving DecidableEq, Repr

def HierarchyFault.message : HierarchyFault → String
  | .declaredTwice name => "type " ++ name.text ++ " declared twice"
  | .undeclaredParent name parent =>
    "type " ++ name.text ++ " has undeclared parent " ++ parent.text
  | .cycle name => "type hierarchy cycle through " ++ name.text

structure TypeHierarchy where
  decls : List TypeDecl := []
  deriving DecidableEq, Repr

namespace TypeHierarchy

def names (types : TypeHierarchy) : List QualifiedName := types.decls.map TypeDecl.name

def contains (types : TypeHierarchy) (name : QualifiedName) : Bool := types.names.contains name

def size (types : TypeHierarchy) : Nat := types.decls.length

def isEmpty (types : TypeHierarchy) : Bool := types.decls.isEmpty

def parent? (types : TypeHierarchy) (name : QualifiedName) : Option QualifiedName :=
  (types.decls.find? fun decl => decl.name = name).bind TypeDecl.parent

def children (types : TypeHierarchy) (name : QualifiedName) : List QualifiedName :=
  (types.decls.filter fun decl => decl.parent = some name).map TypeDecl.name

def climb (types : TypeHierarchy) : Nat → QualifiedName → List QualifiedName
  | 0, _ => []
  | steps + 1, name =>
    match types.parent? name with
    | some parent => parent :: types.climb steps parent
    | none => []

def ancestors (types : TypeHierarchy) (name : QualifiedName) : List QualifiedName :=
  types.climb types.size name

/- Visits the first of the types that wait; its children wait before all others. -/
def descend (types : TypeHierarchy) : Nat → List QualifiedName → List QualifiedName
  | 0, _ => []
  | _ + 1, [] => []
  | visits + 1, name :: rest => name :: types.descend visits (types.children name ++ rest)

def subtypes (types : TypeHierarchy) (name : QualifiedName) : List QualifiedName :=
  if types.contains name then types.descend types.size [name] else []

/- Whether a climb comes back to the type that it started from, or takes too many steps. -/
def circles (types : TypeHierarchy) (start : QualifiedName) : Nat → Option QualifiedName → Bool
  | _, none => false
  | 0, some _ => true
  | steps + 1, some next => next = start || types.circles start steps (types.parent? next)

def undeclaredParent? (types : TypeHierarchy) : Option HierarchyFault :=
  types.decls.findSome? fun decl =>
    match decl.parent with
    | some parent =>
      if types.contains parent then none else some (.undeclaredParent decl.name parent)
    | none => none

/- A climb with more steps than there are types has been at one of them twice, and never ends. -/
def endless? (types : TypeHierarchy) : Option QualifiedName :=
  types.names.find? fun name => types.circles name types.size (types.parent? name)

def build (decls : List TypeDecl) : Except HierarchyFault TypeHierarchy :=
  let types : TypeHierarchy := ⟨decls⟩
  match Order.firstRepeat? types.names with
  | some name => .error (.declaredTwice name)
  | none =>
    match types.undeclaredParent? with
    | some fault => .error fault
    | none =>
      match types.endless? with
      | some name => .error (.cycle name)
      | none => .ok types

end TypeHierarchy

end QueryFederation.Schema
