import Mathlib
import QueryFederation.Proofs.Schema.TypeArena

/-! The two ways through a forest. Down from a type its subtree is listed, each type before its
children and these as they are declared; up from a type its ancestors are listed. A type is in the
first list where the other one is in the second. The arena of the forest gives the same lists. -/
namespace QueryFederation.Schema
open Relation

namespace TypeHierarchy

/- Types that wait, each with its subtree. -/
inductive Preorder (types : TypeHierarchy) : List QualifiedName → List QualifiedName → Prop where
  | done : Preorder types [] []
  | tree {name rest below others} (subtree : Preorder types (types.children name) below)
      (after : Preorder types rest others) : Preorder types (name :: rest) (name :: below ++ others)

/- The descent with no bound on its visits. -/
inductive Visits (types : TypeHierarchy) : List QualifiedName → List QualifiedName → Prop where
  | done : Visits types [] []
  | visit {name rest listed} (next : Visits types (types.children name ++ rest) listed) :
      Visits types (name :: rest) (name :: listed)

variable {types : TypeHierarchy} {name other : QualifiedName}
  {pending rest listed others : List QualifiedName}

/- What still waits behind a list of types is visited after all their subtrees. -/
theorem preorderVisits (preorder : types.Preorder pending listed)
    (visits : types.Visits rest others) : types.Visits (pending ++ rest) (listed ++ others) := by
  induction preorder generalizing rest others with
  | done => exact visits
  | tree subtree after subtreeVisits afterVisits =>
    have waiting := subtreeVisits (afterVisits visits)
    simpa using Visits.visit waiting

theorem visitsEnough (visits : types.Visits pending listed) {bound : Nat}
    (enough : listed.length ≤ bound) : types.descend bound pending = listed := by
  induction visits generalizing bound with
  | done => cases bound <;> rfl
  | visit next ih =>
    cases bound with
    | zero => simp at enough
    | succ left => simp [descend, ih (Nat.le_of_succ_le_succ enough)]

theorem visitsHead (visits : types.Visits (name :: rest) listed) : listed.head? = some name := by
  cases visits
  rfl

theorem preorderAll (subtrees : ∀ name ∈ pending,
    ∃ below, types.Preorder (types.children name) below) :
    ∃ listed, types.Preorder pending listed := by
  induction pending with
  | nil => exact ⟨[], .done⟩
  | cons name rest ih =>
    obtain ⟨below, subtree⟩ := subtrees name List.mem_cons_self
    obtain ⟨others, after⟩ := ih fun name later => subtrees name (List.mem_cons_of_mem _ later)
    exact ⟨name :: below ++ others, .tree subtree after⟩

/- What an accepted hierarchy keeps. -/
structure Forest (types : TypeHierarchy) : Prop where
  distinct : types.names.Nodup
  named : ∀ child parent, types.Under child parent → parent ∈ types.names
  acyclic : ∀ name, ¬ TransGen types.Under name name
  childUnder : ∀ child name, child ∈ types.children name ↔ types.Under child name

theorem builtForest {decls : List TypeDecl} (built : build decls = .ok types) : types.Forest := by
  obtain ⟨rfl, distinct, parents, acyclic⟩ := forestBuilt built
  have under := underDeclared distinct
  exact {
    distinct := distinct
    named := parentsNamed distinct parents
    acyclic := under ▸ acyclic
    childUnder := by simp [under, children, DeclaredUnder, and_comm, and_left_comm] }

/- No type is below both. -/
def Apart (types : TypeHierarchy) (name other : QualifiedName) : Prop :=
  ∀ below, ReflTransGen types.Under below name → ¬ ReflTransGen types.Under below other

namespace Forest
variable (forest : types.Forest)

include forest

theorem memPreorder (preorder : types.Preorder pending listed) :
    other ∈ listed ↔ ∃ name ∈ pending, ReflTransGen types.Under other name := by
  induction preorder with
  | done => simp
  | @tree name rest below others subtree after inSubtree inOthers =>
    have descendant : ReflTransGen types.Under other name ↔ other = name ∨ other ∈ below := by
      rw [ReflTransGen.cases_tail_iff, inSubtree]
      simp [forest.childUnder, eq_comm, and_comm]
    simp [descendant, inOthers, or_assoc]

theorem siblingAbove {child sibling : QualifiedName} (under : types.Under child name)
    (also : types.Under sibling name) (different : child ≠ sibling) :
    ¬ ReflTransGen types.Under child sibling := by
  intro climbs
  obtain ⟨next, first, later⟩ := (ReflTransGen.cases_head climbs).resolve_left different
  cases parentSingle first under
  exact forest.acyclic name (.tail' later also)

/- Of two types above a third one, one is above the other: a climb has no forks. -/
theorem siblingsApart {child sibling : QualifiedName} (under : types.Under child name)
    (also : types.Under sibling name) (different : child ≠ sibling) :
    types.Apart child sibling := by
  intro below left right
  rcases ReflTransGen.total_of_right_unique parentSingle left right with climbs | climbs
  · exact forest.siblingAbove under also different climbs
  · exact forest.siblingAbove also under different.symm climbs

theorem childrenApart : (types.children name).Pairwise types.Apart := by
  have once : (types.children name).Nodup :=
    forest.distinct.sublist (List.filter_sublist.map TypeDecl.name)
  refine once.pairwise_of_forall_ne fun child inside sibling also different => ?_
  exact forest.siblingsApart ((forest.childUnder child name).mp inside)
    ((forest.childUnder sibling name).mp also) different

theorem preorderNodup (apart : pending.Pairwise types.Apart)
    (preorder : types.Preorder pending listed) : listed.Nodup := by
  induction preorder with
  | done => exact .nil
  | @tree name rest below others subtree after belowOnce othersOnce =>
    obtain ⟨away, apart⟩ := List.pairwise_cons.mp apart
    have strictly : ∀ other ∈ below, TransGen types.Under other name := by
      intro other inside
      obtain ⟨child, among, climbs⟩ := (forest.memPreorder subtree).mp inside
      exact .tail' climbs ((forest.childUnder child name).mp among)
    have outside : ∀ other ∈ others, ¬ ReflTransGen types.Under other name := by
      intro other inside climbs
      obtain ⟨root, waits, climbsRoot⟩ := (forest.memPreorder after).mp inside
      exact away root waits other climbs climbsRoot
    have first : name ∉ below ++ others := by
      intro inside
      rcases List.mem_append.mp inside with early | late
      · exact forest.acyclic name (strictly name early)
      · exact outside name late .refl
    have parted : below.Disjoint others :=
      fun other early late => outside other late (strictly other early).to_reflTransGen
    have subtreesOnce := (belowOnce forest.childrenApart).append (othersOnce apart) parted
    exact List.nodup_cons.mpr ⟨first, subtreesOnce⟩

/- By induction from the types that have nothing below them. -/
theorem preorderExists (name : QualifiedName) :
    ∃ below, types.Preorder (types.children name) below := by
  have grounded := finiteGrounded (r := types.Under) forest.acyclic (name :: types.names)
  refine grounded.induction (P := fun root => ∃ below, types.Preorder (types.children root) below)
    List.mem_cons_self ?_
  intro root _ ih
  refine preorderAll fun child among => ?_
  have under := (forest.childUnder child root).mp among
  exact ih child (List.mem_cons_of_mem _ (underNamed under)) (.single under)

theorem preorderLength (declared : name ∈ types.names)
    (preorder : types.Preorder [name] listed) : listed.length ≤ types.size := by
  have once := forest.preorderNodup (List.pairwise_singleton _ _) preorder
  have within : listed ⊆ types.names := by
    intro other inside
    obtain ⟨root, waits, climbs⟩ := (forest.memPreorder preorder).mp inside
    cases List.mem_singleton.mp waits
    rcases ReflTransGen.cases_head climbs with rfl | ⟨parent, under, -⟩
    · exact declared
    · exact underNamed under
  simpa [names, size] using (once.subperm within).length_le

theorem subtypesPreorder (declared : types.contains name = true) :
    types.Visits [name] (types.subtypes name) ∧ types.Preorder [name] (types.subtypes name) := by
  obtain ⟨below, subtree⟩ := forest.preorderExists name
  have preorder := Preorder.tree subtree .done
  have visits : types.Visits [name] (name :: below ++ []) := by
    simpa using preorderVisits preorder .done
  have within := forest.preorderLength (by simpa [contains] using declared) preorder
  rw [subtypes, if_pos declared, visitsEnough visits within]
  exact ⟨visits, preorder⟩

theorem ancestorsClimbs (name : QualifiedName) : types.Climbs name (types.ancestors name) := by
  obtain ⟨line, climbs⟩ : ∃ line, types.Climbs name line := by
    cases top : types.parent? name with
    | none => exact ⟨[], .root top⟩
    | some parent => exact acyclicClimbs forest.named forest.acyclic (underNamed top)
  rwa [ancestors, climbEnough climbs (climbsLength forest.named climbs)]

theorem memSubtypes : other ∈ types.subtypes name ↔
    types.contains name = true ∧ (other = name ∨ name ∈ types.ancestors other) := by
  cases declared : types.contains name with
  | false => simp [subtypes, declared]
  | true =>
    obtain ⟨-, preorder⟩ := forest.subtypesPreorder declared
    rw [forest.memPreorder preorder, memClimbs (forest.ancestorsClimbs other)]
    simp [reflTransGen_iff_eq_or_transGen, eq_comm]

theorem subtypesNodup : (types.subtypes name).Nodup := by
  cases declared : types.contains name with
  | false => simp [subtypes, declared]
  | true =>
    obtain ⟨-, preorder⟩ := forest.subtypesPreorder declared
    exact forest.preorderNodup (List.pairwise_singleton _ _) preorder

theorem ancestorsUnknown (unknown : types.contains name = false) : types.ancestors name = [] := by
  have climbs := forest.ancestorsClimbs name
  generalize types.ancestors name = line at climbs
  cases climbs with
  | root => rfl
  | up under above =>
    have known := underNamed under
    simp [contains, known] at unknown

end Forest

/- What the two lists of a type are, and how one answers for the other. -/
structure Traversed (types : TypeHierarchy) : Prop where
  siblings : ∀ name, (types.children name).Sublist types.names ∧
    ∀ child, child ∈ types.children name ↔ types.parent? child = some name
  descent : ∀ name, types.contains name = true →
    types.Visits [name] (types.subtypes name) ∧ types.Preorder [name] (types.subtypes name) ∧
      (types.subtypes name).head? = some name
  climb : ∀ name, types.Climbs name (types.ancestors name)
  dual : ∀ name other, other ∈ types.subtypes name ↔
    types.contains name = true ∧ (other = name ∨ name ∈ types.ancestors other)
  once : ∀ name, (types.subtypes name).Nodup ∧ (types.ancestors name).Nodup ∧
    name ∉ types.ancestors name
  unknown : ∀ name, types.contains name = false →
    types.subtypes name = [] ∧ types.ancestors name = []

end TypeHierarchy

open TypeHierarchy in
theorem builtTraversed {decls : List TypeDecl} {types : TypeHierarchy}
    (built : build decls = .ok types) :
    types.names = decls.map TypeDecl.name ∧
      (∀ child parent, types.parent? child = some parent ↔ DeclaredUnder decls child parent) ∧
      types.Traversed ∧
      ∃ arena, TypeArena.build decls = .ok arena ∧ arena.AnswersAs types := by
  have forest := builtForest built
  obtain ⟨same, distinct, -, -⟩ := forestBuilt built
  refine ⟨congrArg names same, fun child parent => same ▸ parentDeclared distinct, ?_,
    arenaBuilt built⟩
  constructor
  case siblings =>
    exact fun name => ⟨List.filter_sublist.map _, fun child => forest.childUnder child name⟩
  case descent =>
    intro name declared
    obtain ⟨visits, preorder⟩ := forest.subtypesPreorder declared
    exact ⟨visits, preorder, visitsHead visits⟩
  case climb => exact forest.ancestorsClimbs
  case dual => exact fun _ _ => forest.memSubtypes
  case once =>
    intro name
    have climbs := forest.ancestorsClimbs name
    exact ⟨forest.subtypesNodup, climbsNodup climbs, climbsFresh climbs⟩
  case unknown =>
    intro name unknown
    exact ⟨by simp [subtypes, unknown], forest.ancestorsUnknown unknown⟩

def documentFamily : List TypeDecl :=
  [⟨⟨"urn:c", "object"⟩, none⟩, ⟨⟨"urn:c", "document"⟩, some ⟨"urn:c", "object"⟩⟩,
    ⟨⟨"urn:c", "folder"⟩, some ⟨"urn:c", "object"⟩⟩,
    ⟨⟨"urn:c", "report"⟩, some ⟨"urn:c", "document"⟩⟩]

theorem familyTraversed :
    TypeHierarchy.build documentFamily = .ok ⟨documentFamily⟩ ∧
      (TypeHierarchy.mk documentFamily).names = documentFamily.map TypeDecl.name ∧
      (∀ child parent, (TypeHierarchy.mk documentFamily).parent? child = some parent ↔
        DeclaredUnder documentFamily child parent) ∧
      (TypeHierarchy.mk documentFamily).Traversed ∧
      ∃ arena, TypeArena.build documentFamily = .ok arena ∧
        arena.AnswersAs ⟨documentFamily⟩ :=
  have built : TypeHierarchy.build documentFamily = .ok ⟨documentFamily⟩ := rfl
  ⟨built, builtTraversed built⟩

end QueryFederation.Schema
