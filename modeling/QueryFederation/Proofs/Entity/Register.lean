import Mathlib
import QueryFederation.Entity.Lookup

/-! What a register tells of the entities that were entered into it, in whichever order: which of
them there are, and the last link given for each. -/
namespace QueryFederation.Entity

inductive Registration where
  | root (id : EntityId)
  | child (link : ParentLink)
  deriving DecidableEq, Repr

def Registration.ids : Registration → List EntityId
  | .root id => [id]
  | .child link => [link.parent, link.child]

def Registration.link? : Registration → Option ParentLink
  | .root _ => none
  | .child link => some link

/- All ids that were given, as roots or at either end of a link. -/
def mentioned (registrations : List Registration) : List EntityId :=
  registrations.flatMap Registration.ids

/- Of the links that were given for a child this is the last. -/
def lastLink (registrations : List Registration) (id : EntityId) : Option ParentLink :=
  ((registrations.filterMap Registration.link?).filter fun link => link.child = id).getLast?

namespace Register

def add (register : Register) : Registration → Register
  | .root id => register.addRoot id
  | .child link => register.addChild link

def ofAll (registrations : List Registration) : Register := registrations.foldl add {}

end Register

structure Lookup.Records (lookup : Lookup) (registrations : List Registration) : Prop where
  known : ∀ id, lookup.contains id = .ok (decide (id ∈ mentioned registrations))
  parent : ∀ id, lookup.primaryParent id = .ok (lastLink registrations id)
  ends : ∀ id link, lastLink registrations id = some link →
    link.child = id ∧ lookup.contains link.child = .ok true ∧ lookup.contains link.parent = .ok true

variable {registrations : List Registration} {registration : Registration} {id other : EntityId}
  {link : ParentLink}

theorem lastLinkAppend (earlier later : List Registration) :
    lastLink (earlier ++ later) id = (lastLink later id).or (lastLink earlier id) := by
  rw [lastLink, List.filterMap_append, List.filter_append, List.getLast?_append]
  rfl

theorem lastLinkGiven (last : lastLink registrations id = some link) :
    .child link ∈ registrations ∧ link.child = id := by
  obtain ⟨inside, same⟩ := List.mem_filter.mp (List.mem_of_getLast? last)
  obtain ⟨registration, member, gives⟩ := List.mem_filterMap.mp inside
  cases registration with
  | root _ => contradiction
  | child given =>
    cases gives
    exact ⟨member, of_decide_eq_true same⟩

theorem endsMentioned (given : .child link ∈ registrations) :
    link.parent ∈ mentioned registrations ∧ link.child ∈ mentioned registrations := by
  constructor <;> exact List.mem_flatMap.mpr ⟨_, given, by simp [Registration.ids]⟩

namespace Register
variable {register : Register}

theorem ofAllAppend :
    ofAll (registrations ++ [registration]) = (ofAll registrations).add registration := by
  rw [ofAll, List.foldl_append]
  rfl

theorem addEntities :
    id ∈ (register.add registration).entities ↔ id ∈ register.entities ∨ id ∈ registration.ids := by
  cases registration with
  | root other =>
    rw [add, addRoot, List.mem_insert_iff, or_comm, Registration.ids, List.mem_singleton]
  | child link =>
    simp only [add, addChild, List.mem_insert_iff, Registration.ids, List.mem_cons,
      List.not_mem_nil, or_false]
    tauto

theorem addParent : (register.add registration).primaryParent? id =
    (lastLink [registration] id).or (register.primaryParent? id) := by
  cases registration with
  | root _ => rfl
  | child link =>
    by_cases same : link.child = id
    · simp [add, addChild, primaryParent?, lastLink, Registration.link?, same]
    · have none : lastLink [.child link] id = none := by simp [lastLink, Registration.link?, same]
      rw [none, Option.none_or, add, addChild, primaryParent?, primaryParent?,
        List.find?_cons_of_neg (by simpa using same), List.find?_filter]
      congr 1
      funext other
      by_cases here : other.child = id <;> simp [here, Ne.symm same]

theorem memEntities : id ∈ (ofAll registrations).entities ↔ id ∈ mentioned registrations := by
  induction registrations using List.reverseRecOn with
  | nil => rfl
  | append_singleton earlier registration ih =>
    rw [ofAllAppend, addEntities, ih, mentioned, mentioned, List.flatMap_append, List.mem_append,
      List.flatMap_singleton]

theorem parentLast (registrations : List Registration) (id : EntityId) :
    (ofAll registrations).primaryParent? id = lastLink registrations id := by
  induction registrations using List.reverseRecOn with
  | nil => rfl
  | append_singleton earlier registration ih => rw [ofAllAppend, addParent, ih, lastLinkAppend]

theorem registerRecords (registrations : List Registration) :
    (ofAll registrations).lookup.Records registrations := by
  have known (id : EntityId) : (ofAll registrations).lookup.contains id =
      .ok (decide (id ∈ mentioned registrations)) := by
    simp only [lookup, Register.contains, List.contains_eq_mem, memEntities]
  refine ⟨known, fun id => congrArg Except.ok (parentLast registrations id), ?_⟩
  intro id link last
  obtain ⟨given, child⟩ := lastLinkGiven last
  obtain ⟨parentKnown, childKnown⟩ := endsMentioned given
  rw [known, known, decide_eq_true parentKnown, decide_eq_true childKnown]
  exact ⟨child, rfl, rfl⟩

end Register

end QueryFederation.Entity
