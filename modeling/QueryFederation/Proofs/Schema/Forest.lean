import Mathlib
import QueryFederation.Proofs.Order
import QueryFederation.Schema.TypeHierarchy

/-! Declarations that form a forest. These are accepted and no others, and of three faults the one
that is checked first is reported. -/
namespace QueryFederation.Schema
open Relation

def Distinct (decls : List TypeDecl) : Prop := (decls.map TypeDecl.name).Nodup

def ParentsDeclared (decls : List TypeDecl) : Prop :=
  ∀ decl ∈ decls, ∀ parent, decl.parent = some parent → parent ∈ decls.map TypeDecl.name

def DeclaredUnder (decls : List TypeDecl) (child parent : QualifiedName) : Prop :=
  ∃ decl ∈ decls, decl.name = child ∧ decl.parent = some parent

def Acyclic (decls : List TypeDecl) : Prop := ∀ name, ¬ TransGen (DeclaredUnder decls) name name

theorem finiteGrounded {r : QualifiedName → QualifiedName → Prop}
    (acyclic : ∀ name, ¬ TransGen r name name) (names : List QualifiedName) :
    {name | name ∈ names}.WellFoundedOn (TransGen r) := by
  have strict : IsStrictOrder QualifiedName (TransGen r) :=
    { irrefl := acyclic, trans := fun _ _ _ => TransGen.trans }
  exact (List.finite_toSet names).wellFoundedOn

namespace TypeHierarchy

def Under (types : TypeHierarchy) (child parent : QualifiedName) : Prop :=
  types.parent? child = some parent

/- The parents one after the other, up to a type that has none. -/
inductive Climbs (types : TypeHierarchy) : QualifiedName → List QualifiedName → Prop where
  | root {name} (top : types.parent? name = none) : Climbs types name []
  | up {name parent line} (under : types.Under name parent) (above : Climbs types parent line) :
      Climbs types name (parent :: line)

variable {types : TypeHierarchy} {name other parent : QualifiedName}
  {line : List QualifiedName}

theorem parentSingle : Relator.RightUnique types.Under :=
  fun _ _ _ under also => Option.some.inj (under.symm.trans also)

theorem underNamed (under : types.Under name parent) : name ∈ types.names := by
  obtain ⟨decl, found, -⟩ := Option.bind_eq_some_iff.mp under
  have same : decl.name = name := by simpa using List.find?_some found
  exact same ▸ List.mem_map_of_mem (List.mem_of_find?_eq_some found)

theorem climbsUnique {another : List QualifiedName} (climbs : types.Climbs name line)
    (again : types.Climbs name another) : line = another := by
  induction climbs generalizing another with
  | root top =>
    cases again with
    | root => rfl
    | up under => exact nomatch top.symm.trans under
  | up under above ih =>
    cases again with
    | root top => exact nomatch top.symm.trans under
    | up also other =>
      cases parentSingle under also
      rw [ih other]

theorem climbsAbove (climbs : types.Climbs name line) (inside : other ∈ line) :
    ∃ rest, types.Climbs other rest ∧ rest.length < line.length := by
  induction climbs with
  | root => exact nomatch inside
  | up under above ih =>
    rcases List.mem_cons.mp inside with rfl | later
    · exact ⟨_, above, by simp⟩
    · obtain ⟨rest, climbs, shorter⟩ := ih later
      exact ⟨rest, climbs, by simp; omega⟩

theorem climbsFresh (climbs : types.Climbs name line) : name ∉ line := by
  intro inside
  obtain ⟨rest, again, shorter⟩ := climbsAbove climbs inside
  rw [climbsUnique climbs again] at shorter
  exact Nat.lt_irrefl _ shorter

theorem climbsNodup (climbs : types.Climbs name line) : line.Nodup := by
  induction climbs with
  | root => exact .nil
  | up under above ih => exact List.nodup_cons.mpr ⟨climbsFresh above, ih⟩

theorem memClimbs (climbs : types.Climbs name line) :
    other ∈ line ↔ TransGen types.Under name other := by
  induction climbs with
  | root top => simp [TransGen.head'_iff, Under, top]
  | @up name parent line under above ih =>
    have first : ∀ next, types.Under name next ↔ next = parent :=
      fun next => ⟨fun also => parentSingle also under, fun same => same ▸ under⟩
    rw [TransGen.head'_iff, List.mem_cons, ih]
    simp [first, reflTransGen_iff_eq_or_transGen]

theorem climbEnough (climbs : types.Climbs name line) {steps : Nat} (enough : line.length ≤ steps) :
    types.climb steps name = line := by
  induction climbs generalizing steps with
  | root top => cases steps <;> simp [climb, top]
  | up under above ih =>
    cases steps with
    | zero => simp at enough
    | succ left =>
      have reached := ih (Nat.le_of_succ_le_succ enough)
      simp [climb, show types.parent? _ = _ from under, reached]

theorem climbsUncircled {start : QualifiedName} (climbs : types.Climbs name line)
    (fresh : start ∉ line) {steps : Nat} (enough : line.length ≤ steps) :
    types.circles start steps (types.parent? name) = false := by
  induction climbs generalizing steps with
  | root top => cases steps <;> simp [circles, top]
  | @up name parent line under above ih =>
    obtain ⟨apart, later⟩ : start ≠ parent ∧ start ∉ line := by simpa using fresh
    cases steps with
    | zero => simp at enough
    | succ left =>
      have ends := ih later (Nat.le_of_succ_le_succ enough)
      simp [circles, show types.parent? name = some parent from under, ends, apart.symm]

theorem uncircledClimbs {start : QualifiedName} {steps : Nat}
    (ends : types.circles start steps (types.parent? name) = false) :
    ∃ line, types.Climbs name line := by
  induction steps generalizing name with
  | zero =>
    cases top : types.parent? name with
    | none => exact ⟨[], .root top⟩
    | some parent => simp [circles, top] at ends
  | succ steps ih =>
    cases top : types.parent? name with
    | none => exact ⟨[], .root top⟩
    | some parent =>
      obtain ⟨-, later⟩ :
          parent ≠ start ∧ types.circles start steps (types.parent? parent) = false := by
        simpa [circles, top] using ends
      obtain ⟨line, above⟩ := ih later
      exact ⟨parent :: line, .up top above⟩

/- Finitely many types, none above itself: from each of them the climb ends. -/
theorem acyclicClimbs (parents : ∀ child parent, types.Under child parent → parent ∈ types.names)
    (acyclic : ∀ name, ¬ TransGen types.Under name name) (declared : name ∈ types.names) :
    ∃ line, types.Climbs name line := by
  have grounded := finiteGrounded (r := Function.swap types.Under)
    (fun name loop => acyclic name (transGen_swap.mp loop)) types.names
  refine grounded.induction (P := fun start => ∃ line, types.Climbs start line) declared ?_
  intro name declared ih
  cases top : types.parent? name with
  | none => exact ⟨[], .root top⟩
  | some parent =>
    obtain ⟨line, above⟩ := ih parent (parents name parent top) (.single top)
    exact ⟨parent :: line, .up top above⟩

theorem climbsDeclared (parents : ∀ child parent, types.Under child parent → parent ∈ types.names)
    (climbs : types.Climbs name line) : line ⊆ types.names := by
  induction climbs with
  | root => simp
  | up under above ih => exact List.cons_subset.mpr ⟨parents _ _ under, ih⟩

theorem climbsLength (parents : ∀ child parent, types.Under child parent → parent ∈ types.names)
    (climbs : types.Climbs name line) : line.length ≤ types.size := by
  have within := ((climbsNodup climbs).subperm (climbsDeclared parents climbs)).length_le
  simpa [names, size] using within

end TypeHierarchy

variable {decls : List TypeDecl} {name parent : QualifiedName}

open TypeHierarchy

theorem parentDeclared (distinct : Distinct decls) :
    (TypeHierarchy.mk decls).parent? name = some parent ↔ DeclaredUnder decls name parent := by
  simp only [parent?, Option.bind_eq_some_iff]
  constructor
  · rintro ⟨decl, found, under⟩
    exact ⟨decl, List.mem_of_find?_eq_some found, by simpa using List.find?_some found, under⟩
  · rintro ⟨decl, declared, rfl, under⟩
    obtain ⟨first, found⟩ :
        ∃ first, decls.find? (fun other => other.name = decl.name) = some first :=
      Option.isSome_iff_exists.mp (List.find?_isSome.mpr ⟨decl, declared, by simp⟩)
    have same : first.name = decl.name := by simpa using List.find?_some found
    cases List.inj_on_of_nodup_map distinct (List.mem_of_find?_eq_some found) declared same
    exact ⟨_, found, under⟩

theorem underDeclared (distinct : Distinct decls) :
    (TypeHierarchy.mk decls).Under = DeclaredUnder decls :=
  funext₂ fun _ _ => propext (parentDeclared distinct)

theorem parentsNamed (distinct : Distinct decls) (parents : ParentsDeclared decls) :
    ∀ child parent, (TypeHierarchy.mk decls).Under child parent →
      parent ∈ (TypeHierarchy.mk decls).names := by
  intro child parent under
  obtain ⟨decl, declared, -, above⟩ := (parentDeclared distinct).mp under
  exact parents decl declared parent above

/- A verdict on declarations, with its grounds. A fault names a type that is guilty of it, and is
not reported where a graver one is. -/
inductive Judged (decls : List TypeDecl) : Except HierarchyFault TypeHierarchy → Prop where
  | declaredTwice {name : QualifiedName} {before rest : List QualifiedName}
      (split : decls.map TypeDecl.name = before ++ name :: rest) (again : name ∈ before) :
      Judged decls (.error (.declaredTwice name))
  | undeclaredParent {name parent : QualifiedName} (distinct : Distinct decls)
      (under : DeclaredUnder decls name parent) (missing : parent ∉ decls.map TypeDecl.name) :
      Judged decls (.error (.undeclaredParent name parent))
  | cycle {name : QualifiedName} (distinct : Distinct decls) (parents : ParentsDeclared decls)
      (declared : name ∈ decls.map TypeDecl.name)
      (endless : ∀ line, ¬ (TypeHierarchy.mk decls).Climbs name line) :
      Judged decls (.error (.cycle name))
  | forest (distinct : Distinct decls) (parents : ParentsDeclared decls) (acyclic : Acyclic decls) :
      Judged decls (.ok ⟨decls⟩)

theorem repeatedName {before rest : List QualifiedName}
    (split : decls.map TypeDecl.name = before ++ name :: rest) (again : name ∈ before) :
    ¬ Distinct decls := by
  intro distinct
  rw [Distinct, split] at distinct
  exact List.disjoint_of_nodup_append distinct again List.mem_cons_self

theorem missingParent (under : DeclaredUnder decls name parent)
    (missing : parent ∉ decls.map TypeDecl.name) : ¬ ParentsDeclared decls := by
  intro parents
  obtain ⟨decl, declared, -, above⟩ := under
  exact missing (parents decl declared parent above)

theorem endlessClimb (distinct : Distinct decls) (parents : ParentsDeclared decls)
    (declared : name ∈ decls.map TypeDecl.name)
    (endless : ∀ line, ¬ (TypeHierarchy.mk decls).Climbs name line) : ¬ Acyclic decls := by
  intro acyclic
  rw [Acyclic, ← underDeclared distinct] at acyclic
  obtain ⟨line, climbs⟩ := acyclicClimbs (parentsNamed distinct parents) acyclic declared
  exact endless line climbs

theorem acyclicEnds (distinct : Distinct decls)
    (ends : ∀ name ∈ decls.map TypeDecl.name,
      ∃ line, (TypeHierarchy.mk decls).Climbs name line) :
    Acyclic decls := by
  rw [Acyclic, ← underDeclared distinct]
  intro name loop
  obtain ⟨above, under, -⟩ := TransGen.head'_iff.mp loop
  obtain ⟨line, climbs⟩ := ends name (underNamed under)
  exact climbsFresh climbs ((memClimbs climbs).mpr loop)

theorem parentsFound (found : (TypeHierarchy.mk decls).undeclaredParent? = none) :
    ParentsDeclared decls := by
  intro decl declared parent above
  have silent := List.findSome?_eq_none_iff.mp found decl declared
  simpa [above, contains, names] using silent

theorem parentBlamed {fault : HierarchyFault}
    (found : (TypeHierarchy.mk decls).undeclaredParent? = some fault) :
    ∃ name parent, fault = .undeclaredParent name parent ∧ DeclaredUnder decls name parent ∧
      parent ∉ decls.map TypeDecl.name := by
  obtain ⟨decl, declared, blamed⟩ := List.exists_of_findSome?_eq_some found
  cases above : decl.parent with
  | none => simp [above] at blamed
  | some parent =>
    obtain ⟨missing, rfl⟩ : parent ∉ decls.map TypeDecl.name ∧
        HierarchyFault.undeclaredParent decl.name parent = fault := by
      simpa [above, contains, names] using blamed
    exact ⟨decl.name, parent, rfl, ⟨decl, declared, rfl, above⟩, missing⟩

theorem judged (decls : List TypeDecl) : Judged decls (build decls) := by
  simp only [build]
  split
  · rename_i name found
    obtain ⟨before, rest, split, -, again⟩ := Order.firstRepeatSome found
    exact .declaredTwice split again
  rename_i once
  have distinct : Distinct decls := Order.firstRepeatNone.mp once
  split
  · rename_i fault found
    obtain ⟨name, parent, rfl, under, missing⟩ := parentBlamed found
    exact .undeclaredParent distinct under missing
  rename_i found
  have parents := parentsFound found
  have named := parentsNamed distinct parents
  split
  · rename_i name loops
    refine .cycle distinct parents (List.mem_of_find?_eq_some loops) fun line climbs => ?_
    have ends := climbsUncircled climbs (climbsFresh climbs) (climbsLength named climbs)
    exact absurd (List.find?_some loops) (by simp [ends])
  · rename_i quiet
    refine .forest distinct parents (acyclicEnds distinct fun name declared => ?_)
    have ends := List.find?_eq_none.mp quiet name declared
    exact uncircledClimbs (Bool.eq_false_of_not_eq_true ends)

theorem forestBuilt {types : TypeHierarchy} (built : build decls = .ok types) :
    types = ⟨decls⟩ ∧ Distinct decls ∧ ParentsDeclared decls ∧ Acyclic decls := by
  have verdict := judged decls
  rw [built] at verdict
  cases verdict with
  | forest distinct parents acyclic => exact ⟨rfl, distinct, parents, acyclic⟩

theorem forestAnswers (distinct : Distinct decls) :
    (∀ name, (TypeHierarchy.mk decls).contains name = true ↔ name ∈ decls.map TypeDecl.name) ∧
      (TypeHierarchy.mk decls).size = decls.length ∧
      ∀ name parent, (TypeHierarchy.mk decls).parent? name = some parent ↔
        DeclaredUnder decls name parent :=
  ⟨by simp [contains, names], rfl, fun _ _ => parentDeclared distinct⟩

theorem exactForests (decls : List TypeDecl) :
    ((∃ types, build decls = .ok types) ↔
        Distinct decls ∧ ParentsDeclared decls ∧ Acyclic decls) ∧
      ((∃ name, build decls = .error (.declaredTwice name)) ↔ ¬ Distinct decls) ∧
      ((∃ name parent, build decls = .error (.undeclaredParent name parent)) ↔
        Distinct decls ∧ ¬ ParentsDeclared decls) ∧
      ((∃ name, build decls = .error (.cycle name)) ↔
        Distinct decls ∧ ParentsDeclared decls ∧ ¬ Acyclic decls) ∧
      ∀ types, build decls = .ok types →
        (∀ name, types.contains name = true ↔ name ∈ decls.map TypeDecl.name) ∧
        types.size = decls.length ∧
        ∀ name parent, types.parent? name = some parent ↔ DeclaredUnder decls name parent := by
  have verdict := judged decls
  generalize build decls = result at verdict ⊢
  cases verdict with
  | declaredTwice split again =>
    have repeated := repeatedName split again
    simp [repeated]
  | undeclaredParent distinct under missing =>
    have undeclared := missingParent under missing
    simp [distinct, undeclared]
  | cycle distinct parents declared endless =>
    have loop := endlessClimb distinct parents declared endless
    simp [distinct, parents, loop]
  | forest distinct parents acyclic =>
    have answers := forestAnswers distinct
    simp [distinct, parents, acyclic, answers]

/- A climb into a loop that it did not start in. -/
example :
    build [⟨⟨"urn:c", "note"⟩, some ⟨"urn:c", "page"⟩⟩,
      ⟨⟨"urn:c", "page"⟩, some ⟨"urn:c", "book"⟩⟩,
      ⟨⟨"urn:c", "book"⟩, some ⟨"urn:c", "page"⟩⟩] = .error (.cycle ⟨"urn:c", "note"⟩) := rfl

end QueryFederation.Schema
