import Mathlib
import QueryFederation.Proofs.Places
import QueryFederation.Proofs.Schema.Forest
import QueryFederation.Schema.TypeArena

/-! What the arena of a hierarchy says of a place is what the hierarchy says of the type at the
place. So the loops of the arena list the types that the hierarchy lists, and the arena is refused
for the fault that the hierarchy is refused for. -/
namespace QueryFederation.Schema

namespace TypeArena

def Stands (decls : List TypeDecl) (place : Nat) (name : QualifiedName) : Prop :=
  (decls.map TypeDecl.name)[place]? = some name

/- The places of the types that are declared below a type. -/
def placesUnder (decls : List TypeDecl) (name : QualifiedName) : List Nat :=
  (decls.zipIdx.filter fun entry => entry.1.parent = some name).map Prod.snd

/- A node when so many of the first declarations are linked. -/
def linkedNode (index : AList fun _ : QualifiedName => Nat) (decls : List TypeDecl)
    (linked place : Nat) (decl : TypeDecl) : TypeNode :=
  { name := decl.name
    parent := if place < linked then decl.parent.bind index.lookup else none
    children := placesUnder (decls.take linked) decl.name }

def linkedNodes (index : AList fun _ : QualifiedName => Nat) (decls : List TypeDecl)
    (linked : Nat) : List TypeNode :=
  decls.mapIdx (linkedNode index decls linked)

/- Why a declaration is refused. -/
def blamed? (decls : List TypeDecl) (decl : TypeDecl) : Option HierarchyFault :=
  match decl.parent with
  | some parent =>
    if (TypeHierarchy.mk decls).contains parent then none
    else some (.undeclaredParent decl.name parent)
  | none => none

/- The map has the places of all types and no others. -/
def Indexed (index : AList fun _ : QualifiedName => Nat) (decls : List TypeDecl) : Prop :=
  ∀ name place, index.lookup name = some place ↔ Stands decls place name

variable {decls : List TypeDecl} {index : AList fun _ : QualifiedName => Nat}
  {nodes : List TypeNode} {decl : TypeDecl} {place other : Nat} {name also : QualifiedName}

theorem standsDeclared :
    Stands decls place name ↔ ∃ decl, decls[place]? = some decl ∧ decl.name = name := by
  simp [Stands]

theorem indexedSame (indexed : Indexed index decls) (stands : Stands decls place name)
    (more : Stands decls other also) : place = other ↔ name = also := by
  constructor
  · rintro rfl
    exact Option.some.inj (stands.symm.trans more)
  · rintro rfl
    exact Option.some.inj (((indexed _ _).mpr stands).symm.trans ((indexed _ _).mpr more))

theorem unindexed (indexed : Indexed index decls) :
    index.lookup name = none ↔ name ∉ decls.map TypeDecl.name := by
  rw [Option.eq_none_iff_forall_ne_some, List.mem_iff_getElem?, not_exists]
  exact forall_congr' fun place => not_congr (indexed name place)

theorem placesUnderNext (here : decls[place]? = some decl) :
    placesUnder (decls.take (place + 1)) name =
      placesUnder (decls.take place) name ++ if decl.parent = some name then [place] else [] := by
  have within := (List.getElem?_eq_some_iff.mp here).1
  have counted : (decls.take place).length = place := by simp [within.le]
  rw [placesUnder, List.take_add_one, here, List.zipIdx_append, List.filter_append, List.map_append,
    counted, placesUnder]
  by_cases under : decl.parent = some name <;> simp [under]

theorem unblamed (silent : blamed? decls decl = none) {parent : QualifiedName}
    (under : decl.parent = some parent) : parent ∈ decls.map TypeDecl.name := by
  simpa [blamed?, under, TypeHierarchy.contains, TypeHierarchy.names] using silent

theorem linkBlamed {fault : HierarchyFault} (indexed : Indexed index decls)
    (blame : blamed? decls decl = some fault) : link index nodes place decl = .error fault := by
  cases under : decl.parent with
  | none => simp [blamed?, under] at blame
  | some parent =>
    obtain ⟨missing, rfl⟩ : parent ∉ decls.map TypeDecl.name ∧
        HierarchyFault.undeclaredParent decl.name parent = fault := by
      simpa [blamed?, under, TypeHierarchy.contains, TypeHierarchy.names] using blame
    simp [link, under, (unindexed indexed).mpr missing]

theorem linkedNodeNext (here : decls[place]? = some decl) (member : TypeDecl) :
    linkedNode index decls (place + 1) other member =
      { name := member.name
        parent := if place = other then member.parent.bind index.lookup
          else (linkedNode index decls place other member).parent
        children := (linkedNode index decls place other member).children ++
          if decl.parent = some member.name then [place] else [] } := by
  rw [linkedNode, linkedNode, placesUnderNext here]
  congr 1
  rcases lt_trichotomy other place with before | rfl | beyond
  · simp [before, before.ne', Nat.lt_succ_of_lt before]
  · simp
  · simp [beyond.ne, beyond.not_gt, (Nat.succ_le_of_lt beyond).not_gt]

/- A step of the linking changes two nodes: the type has its parent, and this one more child. -/
theorem linkNext (indexed : Indexed index decls) (here : decls[place]? = some decl)
    (silent : blamed? decls decl = none) :
    link index (linkedNodes index decls place) place decl =
      .ok (linkedNodes index decls (place + 1)) := by
  cases under : decl.parent with
  | none =>
    simp only [link, under]
    refine congrArg Except.ok (List.ext_getElem? fun i => ?_)
    rw [linkedNodes, linkedNodes, List.getElem?_mapIdx, List.getElem?_mapIdx]
    refine Option.map_congr fun member there => ?_
    rw [linkedNodeNext here]
    by_cases same : place = i
    · subst same
      cases here.symm.trans there
      simp [linkedNode, under]
    · simp [linkedNode, under, same]
  | some parent =>
    obtain ⟨above, known⟩ := List.mem_iff_getElem?.mp (unblamed silent under)
    simp only [link, under, (indexed parent above).mpr known]
    refine congrArg Except.ok (List.ext_getElem? fun i => ?_)
    rw [linkedNodes, linkedNodes, List.getElem?_modify, List.getElem?_modify, List.getElem?_mapIdx,
      List.getElem?_mapIdx]
    cases there : decls[i]? with
    | none => rfl
    | some member =>
      have stands : Stands decls i member.name := by simp [Stands, there]
      have parents : above = i ↔ parent = member.name := indexedSame indexed known stands
      simp only [Option.map_some, Option.map_eq_map, linkedNodeNext here, under, Option.some.injEq,
        ← parents]
      by_cases same : place = i
      · subst same
        cases here.symm.trans there
        by_cases loop : above = place <;> simp [linkedNode, under, loop, (indexed _ _).mpr known]
      · by_cases child : above = i <;> simp [linkedNode, same, child]

/- The declarations before these are linked already. -/
theorem linkFromRun (indexed : Indexed index decls) {before rest : List TypeDecl}
    (split : decls = before ++ rest) :
    linkFrom index (linkedNodes index decls before.length) before.length rest =
      match rest.findSome? (blamed? decls) with
      | some fault => .error fault
      | none => .ok (linkedNodes index decls decls.length) := by
  induction rest generalizing before with
  | nil =>
    have all : before = decls := by simp [split]
    simp [linkFrom, all]
  | cons decl rest ih =>
    have here : decls[before.length]? = some decl := by simp [split]
    rw [linkFrom, List.findSome?_cons]
    cases blame : blamed? decls decl with
    | some fault => rw [linkBlamed indexed blame]
    | none =>
      have further : decls = (before ++ [decl]) ++ rest := by simp [split]
      have others := ih further
      rw [List.length_append, List.length_singleton] at others
      rw [linkNext indexed here blame]
      exact others

theorem unlinkedNodes :
    (decls.map fun decl => { name := decl.name }) = linkedNodes index decls 0 := by
  refine List.ext_getElem? fun i => ?_
  rw [linkedNodes, List.getElem?_map, List.getElem?_mapIdx]
  rfl

theorem linkAll (indexed : Indexed index decls) :
    linkFrom index (decls.map fun decl => { name := decl.name }) 0 decls =
      match (TypeHierarchy.mk decls).undeclaredParent? with
      | some fault => .error fault
      | none => .ok (linkedNodes index decls decls.length) := by
  rw [unlinkedNodes]
  have split : decls = [] ++ decls := rfl
  exact linkFromRun indexed split

/- A node that says of a type what the hierarchy says of it. -/
structure Describes (decls : List TypeDecl) (node : TypeNode) (name : QualifiedName) : Prop where
  named : node.name = name
  parent : Option.Rel (Stands decls) node.parent ((TypeHierarchy.mk decls).parent? name)
  children : List.Forall₂ (Stands decls) node.children ((TypeHierarchy.mk decls).children name)

structure Pictured (decls : List TypeDecl) (index : AList fun _ : QualifiedName => Nat)
    (nodes : List TypeNode) : Prop where
  indexed : Indexed index decls
  counted : nodes.length = decls.length
  described : ∀ place name, Stands decls place name →
    ∃ node, nodes[place]? = some node ∧ Describes decls node name

theorem placesUnderStand :
    List.Forall₂ (Stands decls) (placesUnder decls name)
      ((TypeHierarchy.mk decls).children name) := by
  have placed : (decls.filter fun decl => decl.parent = some name).map TypeDecl.name =
      (decls.zipIdx.filter fun entry => entry.1.parent = some name).map
        fun entry => entry.1.name := by
    conv_lhs => rw [← List.zipIdx_map_fst 0 decls]
    rw [List.filter_map, List.map_map]
    rfl
  rw [placesUnder, TypeHierarchy.children, placed, List.forall₂_map_left_iff,
    List.forall₂_map_right_iff, List.forall₂_same]
  rintro ⟨decl, place⟩ inside
  have here := List.mem_zipIdx_iff_getElem?.mp (List.mem_of_mem_filter inside)
  simp [Stands, here]

theorem parentOf (distinct : Distinct decls) (inside : decl ∈ decls) :
    (TypeHierarchy.mk decls).parent? decl.name = decl.parent := by
  refine Option.ext fun parent => (parentDeclared distinct).trans ⟨?_, fun under => ?_⟩
  · rintro ⟨other, among, same, under⟩
    cases List.inj_on_of_nodup_map distinct among inside same
    exact under
  · exact ⟨decl, inside, rfl, under⟩

theorem linkedPictured (indexed : Indexed index decls) (distinct : Distinct decls)
    (parents : ParentsDeclared decls) :
    Pictured decls index (linkedNodes index decls decls.length) where
  indexed := indexed
  counted := List.length_mapIdx
  described := by
    intro place name stands
    obtain ⟨decl, here, rfl⟩ := standsDeclared.mp stands
    have inside := List.mem_of_getElem? here
    have within := (List.getElem?_eq_some_iff.mp here).1
    refine ⟨linkedNode index decls decls.length place decl, ?_, rfl, ?_, ?_⟩
    · rw [linkedNodes, List.getElem?_mapIdx, here]
      rfl
    · rw [linkedNode, if_pos within, parentOf distinct inside]
      cases under : decl.parent with
      | none => exact .none
      | some parent =>
        obtain ⟨above, known⟩ := List.mem_iff_getElem?.mp (parents decl inside parent under)
        rw [Option.bind_some, (indexed parent above).mpr known]
        exact .some known
    · simpa [linkedNode] using placesUnderStand

namespace Pictured
variable (pictured : Pictured decls index nodes)

include pictured

/- A climb by places beside one by names. Both go on or both end, as the types at the places do. -/
theorem circlesSame {start : Nat} {first : QualifiedName} (begins : Stands decls start first)
    {next : Option Nat} {above : Option QualifiedName}
    (beside : Option.Rel (Stands decls) next above) (steps : Nat) :
    circles nodes start steps next = (TypeHierarchy.mk decls).circles first steps above := by
  induction steps generalizing next above with
  | zero => cases beside <;> rfl
  | succ steps ih =>
    cases beside with
    | none => rfl
    | @some place name stands =>
      obtain ⟨node, here, describes⟩ := pictured.described place name stands
      have same : place = start ↔ name = first := indexedSame pictured.indexed stands begins
      have further := ih describes.parent
      simp [circles, TypeHierarchy.circles, here, same, further]

theorem names : nodes.map TypeNode.name = decls.map TypeDecl.name := by
  refine List.ext_getElem? fun place => ?_
  cases stands : (decls.map TypeDecl.name)[place]? with
  | none =>
    have beyond : nodes.length ≤ place := by simpa [pictured.counted] using stands
    simp [beyond]
  | some name =>
    obtain ⟨node, here, describes⟩ := pictured.described place name stands
    simp [here, describes.named]

theorem endlessSame : endless? nodes = (TypeHierarchy.mk decls).endless? := by
  have listed : (TypeHierarchy.mk decls).names = nodes.zipIdx.map fun entry => entry.1.name := by
    rw [TypeHierarchy.names, ← pictured.names]
    conv_lhs => rw [← List.zipIdx_map_fst 0 nodes]
    rw [List.map_map]
    rfl
  rw [endless?, TypeHierarchy.endless?, listed, List.find?_map]
  refine congrArg _ (List.find?_congr ?_)
  rintro ⟨node, place⟩ inside
  have here : nodes[place]? = some node := List.mem_zipIdx_iff_getElem?.mp inside
  have stands : Stands decls place node.name := by
    rw [Stands, ← pictured.names, List.getElem?_map, here]
    rfl
  obtain ⟨also, there, describes⟩ := pictured.described place node.name stands
  cases here.symm.trans there
  simpa [pictured.counted, TypeHierarchy.size] using
    pictured.circlesSame stands describes.parent nodes.length

theorem containsSame (name : QualifiedName) :
    (TypeArena.mk nodes index).contains name = (TypeHierarchy.mk decls).contains name := by
  rw [contains, TypeHierarchy.contains, Bool.eq_iff_iff, Option.isSome_iff_ne_none, Ne,
    unindexed pictured.indexed]
  simp [TypeHierarchy.names]

theorem aboveStands (name : QualifiedName) :
    Option.Rel (Stands decls) ((TypeArena.mk nodes index).above? name)
      ((TypeHierarchy.mk decls).parent? name) := by
  unfold above?
  cases known : index.lookup name with
  | none =>
    have unnamed := (unindexed pictured.indexed).mp known
    cases under : (TypeHierarchy.mk decls).parent? name with
    | none => exact .none
    | some parent => exact absurd (TypeHierarchy.underNamed under) unnamed
  | some place =>
    have stands := (pictured.indexed name place).mp known
    obtain ⟨node, here, describes⟩ := pictured.described place name stands
    simpa [here] using describes.parent

theorem parentSame (name : QualifiedName) :
    (TypeArena.mk nodes index).parent? name = (TypeHierarchy.mk decls).parent? name := by
  have beside := pictured.aboveStands name
  unfold parent?
  generalize (TypeArena.mk nodes index).above? name = place at beside ⊢
  generalize (TypeHierarchy.mk decls).parent? name = parent at beside ⊢
  cases beside with
  | none => rfl
  | @some place parent stands =>
    obtain ⟨node, here, describes⟩ := pictured.described place parent stands
    simp [here, describes.named]

theorem climbSame {place : Option Nat} {name : QualifiedName}
    (beside : Option.Rel (Stands decls) place ((TypeHierarchy.mk decls).parent? name))
    (steps : Nat) :
    (TypeArena.mk nodes index).climb steps place = (TypeHierarchy.mk decls).climb steps name := by
  induction steps generalizing place name with
  | zero => rfl
  | succ steps ih =>
    rw [TypeHierarchy.climb]
    generalize (TypeHierarchy.mk decls).parent? name = parent at beside ⊢
    cases beside with
    | none => rfl
    | @some place parent stands =>
      obtain ⟨node, here, describes⟩ := pictured.described place parent stands
      simp [climb, here, describes.named, ih describes.parent]

/- The stack of places beside the list of types that wait. A node puts on the stack the places of the
types that its own type puts in the list. -/
theorem descendSame {places : List Nat} {names : List QualifiedName}
    (beside : List.Forall₂ (Stands decls) places names) (visits : Nat) :
    (TypeArena.mk nodes index).descend visits places =
      (TypeHierarchy.mk decls).descend visits names := by
  induction visits generalizing places names with
  | zero => rfl
  | succ visits ih =>
    cases beside with
    | nil => rfl
    | @cons place name rest others stands later =>
      obtain ⟨node, here, describes⟩ := pictured.described place name stands
      have below := ih (List.rel_append describes.children later)
      simp [descend, TypeHierarchy.descend, here, describes.named, below]

theorem subtypesSame (name : QualifiedName) :
    (TypeArena.mk nodes index).subtypes name = (TypeHierarchy.mk decls).subtypes name := by
  have declared := pictured.containsSame name
  rw [subtypes, TypeHierarchy.subtypes, ← declared, contains]
  cases known : index.lookup name with
  | none => rfl
  | some root =>
    have stands := (pictured.indexed _ _).mp known
    simpa [size, TypeHierarchy.size, pictured.counted] using
      pictured.descendSame (.cons stands .nil) nodes.length

theorem ancestorsSame (name : QualifiedName) :
    (TypeArena.mk nodes index).ancestors name = (TypeHierarchy.mk decls).ancestors name := by
  simpa [ancestors, TypeHierarchy.ancestors, size, TypeHierarchy.size, pictured.counted] using
    pictured.climbSame (pictured.aboveStands name) nodes.length

end Pictured

/- Each question to an arena has the answer that the hierarchy gives. -/
structure AnswersAs (arena : TypeArena) (types : TypeHierarchy) : Prop where
  contains : arena.contains = types.contains
  size : arena.size = types.size
  empty : arena.isEmpty = types.isEmpty
  parent : arena.parent? = types.parent?
  subtypes : arena.subtypes = types.subtypes
  ancestors : arena.ancestors = types.ancestors

theorem picturedAnswers (pictured : Pictured decls index nodes) :
    (TypeArena.mk nodes index).AnswersAs ⟨decls⟩ where
  contains := funext pictured.containsSame
  size := pictured.counted
  empty := by
    rw [isEmpty, TypeHierarchy.isEmpty, Bool.eq_iff_iff, List.isEmpty_iff_length_eq_zero,
      List.isEmpty_iff_length_eq_zero, pictured.counted]
  parent := funext pictured.parentSame
  subtypes := funext pictured.subtypesSame
  ancestors := funext pictured.ancestorsSame

/- The same fault, or an arena and a hierarchy with the same answers. -/
inductive Agrees :
    Except HierarchyFault TypeArena → Except HierarchyFault TypeHierarchy → Prop where
  | fault (fault : HierarchyFault) : Agrees (.error fault) (.error fault)
  | built {arena : TypeArena} {types : TypeHierarchy} (answers : arena.AnswersAs types) :
      Agrees (.ok arena) (.ok types)

end TypeArena

theorem arenaAgrees (decls : List TypeDecl) :
    TypeArena.Agrees (TypeArena.build decls) (TypeHierarchy.build decls) := by
  unfold TypeArena.build TypeHierarchy.build
  cases placed : Order.places (decls.map TypeDecl.name) with
  | error name =>
    have again : Order.firstRepeat? (TypeHierarchy.mk decls).names = some name :=
      Order.placesRepeated.mp placed
    simp only [again]
    exact .fault _
  | ok index =>
    obtain ⟨once, places⟩ := Order.placesFound placed
    have distinct : Distinct decls := Order.firstRepeatNone.mp once
    have indexed : TypeArena.Indexed index decls := fun name place => by
      rw [places, Order.placeUnrepeated distinct, TypeArena.Stands]
    have unrepeated : Order.firstRepeat? (TypeHierarchy.mk decls).names = none := once
    simp only [unrepeated, TypeArena.linkAll indexed]
    cases undeclared : (TypeHierarchy.mk decls).undeclaredParent? with
    | some fault => exact .fault fault
    | none =>
      have pictured := TypeArena.linkedPictured indexed distinct (parentsFound undeclared)
      simp only [pictured.endlessSame]
      cases (TypeHierarchy.mk decls).endless? with
      | some name => exact .fault _
      | none => exact .built (TypeArena.picturedAnswers pictured)

theorem arenaBuilt {decls : List TypeDecl} {types : TypeHierarchy}
    (built : TypeHierarchy.build decls = .ok types) :
    ∃ arena, TypeArena.build decls = .ok arena ∧ arena.AnswersAs types := by
  have agrees := arenaAgrees decls
  rw [built] at agrees
  generalize TypeArena.build decls = result at agrees ⊢
  cases agrees with
  | built answers => exact ⟨_, rfl, answers⟩

end QueryFederation.Schema
