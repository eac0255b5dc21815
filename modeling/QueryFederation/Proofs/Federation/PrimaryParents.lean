import Mathlib
import QueryFederation.Proofs.Entity.Register
import QueryFederation.Proofs.Failure
import QueryFederation.Proofs.Federation.RowReads

/-! Primary parents of rows. They are those that were entered last for the entities that the rows
are about, so that only an entity that was never entered, or none agreed on, is without an answer. -/
namespace QueryFederation.Federation
open Entity Result Number

section Collecting
variable {α : Type}

/- One answer from those of several calls: their values in order, or the first of their faults. -/
structure Collects (calls : List (Except Fault α)) (answer : Except Fault (List α)) : Prop where
  succeeds : (∃ values, answer = .ok values) ↔ ∀ call ∈ calls, ∃ value, call = .ok value
  inOrder : ∀ values, answer = .ok values ↔ calls = values.map .ok
  firstFault : ∀ fault, answer = .error fault ↔
    FirstFault (fun call fault => call = .error fault) calls fault

theorem collectsAll (calls : List (Except Fault α)) : Collects calls (calls.mapM id) where
  succeeds := mapAllSucceed
  inOrder values := by
    rw [mapSucceeds, ← List.forall₂_map_right_iff]
    exact List.forall₂_eq_eq_eq ▸ Iff.rfl
  firstFault _ := mapFails

end Collecting

/- How the answer about the parent of a row comes from the one about its entity. -/
structure ParentOf (registrations : List Registration) (id : Except Fault EntityId)
    (parent : Except Fault (Option ParentLink)) : Prop where
  fault : ∀ fault, id = .error fault → parent = .error fault
  unknown : ∀ entity, id = .ok entity →
    (parent = .error (.entityNotFound entity.text) ↔ entity ∉ mentioned registrations)
  known : ∀ entity, id = .ok entity → entity ∈ mentioned registrations →
    parent = .ok (lastLink registrations entity)
  child : ∀ entity link, id = .ok entity → parent = .ok (some link) → link.child = entity

variable {ρ : Type} {n : Nat} [ResultSet ρ]

/- Of all rows together the parents are answered as the rows are one after the other. Where results
do not change as they are read, this is as each row is by itself. -/
structure ParentsOfRows (registrations : List Registration) (set : Federation ρ n) : Prop where
  row : ∀ row, ParentOf registrations (entityId row set).1 (primaryParent row set).1
  inTurn : Collects (Access.inTurn primaryParent (List.range set.rows) set) (primaryParents set).1
  steady : ∀ (ids : Fin n → Nat → Except Fault EntityId)
    (scores : Fin n → Nat → Except Fault Binary32), (∀ column ∈ set.columns,
      AnswersByRow (set.results.get column.slot) (ids column.slot) (scores column.slot)) →
    Collects ((List.range set.rows).map fun row => (primaryParent row set).1) (primaryParents set).1

variable {set : Federation ρ n} {registrations : List Registration}

def parentIn (lookup : Lookup) (id : EntityId) : Except Fault (Option ParentLink) := do
  if ← lookup.contains id then lookup.primaryParent id else .error (.entityNotFound id.text)

theorem entityIdLookup (row : Nat) (set : Federation ρ n) :
    (entityId row set).2.lookup = set.lookup := by
  have kept := entityIdKeeps readsKeepNothing row set
  exact congrArg (fun outline : Federation Unit n => outline.lookup) kept

/- Nothing is read but the entity of the row. -/
theorem primaryParentApply (row : Nat) (set : Federation ρ n) :
    primaryParent row set =
      ((entityId row set).1 >>= parentIn set.lookup, (entityId row set).2) := by
  have kept := entityIdLookup row set
  rw [primaryParent, Access.bindApply]
  generalize entityId row set = ran at kept ⊢
  obtain ⟨fault | id, after⟩ := ran
  · rfl
  · have looked : (Access.look lookup : Access (Federation ρ n) Lookup) after =
        (.ok set.lookup, after) := congrArg (fun view => (Except.ok view, after)) kept
    simp only [looked, Access.ofExcept, parentIn, bind, Except.bind]
    cases set.lookup.contains id with
    | error fault => rfl
    | ok known => cases known <;> rfl

theorem parentRecorded {lookup : Lookup} (records : lookup.Records registrations) (id : EntityId) :
    parentIn lookup id =
      if id ∈ mentioned registrations then .ok (lastLink registrations id)
      else .error (.entityNotFound id.text) := by
  rw [parentIn, records.known, records.parent]
  by_cases known : id ∈ mentioned registrations <;> simp [known, bind, Except.bind]

theorem rowParent (records : set.lookup.Records registrations) (row : Nat) :
    ParentOf registrations (entityId row set).1 (primaryParent row set).1 := by
  rw [primaryParentApply]
  generalize (entityId row set).1 = id
  cases id with
  | error fault => constructor <;> simp [bind, Except.bind]
  | ok entity =>
    have answered : (Except.ok entity >>= parentIn set.lookup) = _ := parentRecorded records entity
    rw [answered]
    by_cases known : entity ∈ mentioned registrations
    · rw [if_pos known]
      constructor
      · simp
      · simp [known]
      · rintro _ ⟨rfl⟩ -
        rfl
      · rintro _ link ⟨rfl⟩ found
        exact (lastLinkGiven (Except.ok.inj found)).2
    · rw [if_neg known]
      constructor <;> simp_all

theorem primaryParentsApply (opened : set.closed = false) (filled : set.columns ≠ []) :
    primaryParents set = (List.range set.rows).mapM primaryParent set := by
  rw [primaryParents, Access.bindApply, rowCountOpen opened filled]

section Unchanging
variable {ids : Fin n → Nat → Except Fault EntityId} {scores : Fin n → Nat → Except Fault Binary32}
  (byRow : ∀ column ∈ set.columns,
    AnswersByRow (set.results.get column.slot) (ids column.slot) (scores column.slot))
  (opened : set.closed = false) (filled : set.columns ≠ [])
include byRow opened filled

/- What is read before makes no difference. -/
theorem primaryParentAnswers {row : Nat} (below : row < set.rows) :
    (primaryParent row).Answers (fun later => Perused set later ∧ later.lookup = set.lookup)
      (primaryParent row set).1 := by
  have answers : (entityId row).Answers (Perused set) _ :=
    agreedAnswers (steadyIds byRow row) (openCount opened filled) below
  rintro later ⟨perused, same⟩
  obtain ⟨still, answered⟩ := answers later perused
  obtain ⟨-, first⟩ := answers set (perusedStart set)
  rw [primaryParentApply, primaryParentApply, same]
  exact ⟨⟨still, (entityIdLookup row later).trans same⟩, congrArg (· >>= _) (answered.trans first.symm)⟩

theorem primaryParentsSteady : (primaryParents set).1 =
    ((List.range set.rows).map fun row => (primaryParent row set).1).mapM id := by
  have each : ∀ row ∈ List.range set.rows, (primaryParent row).Answers
      (fun later => Perused set later ∧ later.lookup = set.lookup) (primaryParent row set).1 :=
    fun row member => primaryParentAnswers byRow opened filled (List.mem_range.mp member)
  rw [primaryParentsApply opened filled, List.mapM_map]
  exact (Access.answersMapM each set ⟨perusedStart set, rfl⟩).2

end Unchanging

/- A register has whatever was entered, and the parents of rows come from it. -/
theorem primaryParentsRecorded (registrations : List Registration) :
    (Register.ofAll registrations).lookup.Records registrations ∧
      ∀ set : Federation ρ n, set.lookup = (Register.ofAll registrations).lookup →
        set.closed = false → set.columns ≠ [] → ParentsOfRows registrations set := by
  have records := Register.registerRecords registrations
  refine ⟨records, fun set same opened filled => ⟨?_, ?_, ?_⟩⟩
  · exact rowParent (same ▸ records)
  · rw [primaryParentsApply opened filled, Access.mapMInTurn]
    exact collectsAll _
  · intro ids scores byRow
    rw [primaryParentsSteady byRow opened filled]
    exact collectsAll _

def contained (parent child : String) : ParentLink :=
  ⟨⟨parent⟩, ⟨child⟩, ⟨"urn:m", "contains"⟩, ⟨"urn:m", child⟩, true⟩

/- The file has been moved, and what it was in first is still there. -/
def moved : List Registration :=
  [.child (contained "inbox" "file"), .root ⟨"archive"⟩, .child (contained "archive" "file")]

def desktop : Federation Hits 2 :=
  { columns := trio
    rows := 3
    options := {}
    lookup := (Register.ofAll moved).lookup
    results := #v[Hits.ofRows [⟨⟨"file"⟩, ⟨0⟩⟩, ⟨⟨"note"⟩, ⟨5⟩⟩, ⟨⟨"inbox"⟩, ⟨5⟩⟩] false,
      Hits.ofRows [⟨⟨"file"⟩, ⟨1⟩⟩, ⟨⟨"note"⟩, ⟨5⟩⟩, ⟨⟨"archive"⟩, ⟨5⟩⟩] false] }

/- The second row is about nothing that was entered, and stops the list before the third, which
the selectors differ on. -/
theorem desktopParents :
    (desktop.lookup = (Register.ofAll moved).lookup ∧ desktop.closed = false ∧
      desktop.columns ≠ []) ∧
    (primaryParent 0 desktop).1 = .ok (some (contained "archive" "file")) ∧
    (primaryParent 1 desktop).1 = .error (.entityNotFound "note") ∧
    (primaryParent 2 desktop).1 = .error (.ambiguous 2 .entityId) ∧
    (primaryParents desktop).1 = .error (.entityNotFound "note") := by
  have filled : desktop.columns ≠ [] := List.cons_ne_nil _ _
  obtain ⟨row, -, steady⟩ := (primaryParentsRecorded moved).2 desktop rfl rfl filled
  have first : (primaryParent 0 desktop).1 = .ok (some (contained "archive" "file")) :=
    (row 0).known ⟨"file"⟩ (by decide) (by decide)
  have second : (primaryParent 1 desktop).1 = .error (.entityNotFound "note") :=
    ((row 1).unknown ⟨"note"⟩ (by decide)).mpr (by decide)
  have third : (primaryParent 2 desktop).1 = .error (.ambiguous 2 .entityId) :=
    (row 2).fault _ (by decide)
  have collected := steady _ _ fun column _ => hitsAnswerByRow desktop.results column.slot
  refine ⟨⟨rfl, rfl, filled⟩, first, second, third, (collected.firstFault _).mpr ?_⟩
  exact .later (by simp [first]) (.here second)

end QueryFederation.Federation
