import QueryFederation.Proofs.Federation.Frame

/-! What can be seen of a federation is decided by its sheet: the name and the result of every
column. Which columns share a result is not on the sheet. -/
namespace QueryFederation
open Entity Result Number

namespace Result

variable {ρ γ α : Type}

/- A view decides what a read answers, and the read keeps it. -/
structure Clear (view : ρ → γ) (read : Access ρ α) : Prop where
  keeps : read.Keeps view
  decides : ∀ one other, view one = view other → (read one).1 = (read other).1

/- A view decides everything about a result, and nothing but its release changes it. -/
structure Settled [ResultSet ρ] (view : ρ → γ) : Prop where
  rowCount : Clear view (ResultSet.rowCount : Access ρ Nat)
  hasMore : Clear view (ResultSet.hasMore : Access ρ Bool)
  entityId : ∀ row, Clear view (ResultSet.entityId row : Access ρ EntityId)
  score : ∀ row, Clear view (ResultSet.score row : Access ρ Binary32)
  release : ∀ one other, view one = view other →
    (ResultSet.release one).1 = (ResultSet.release other).1 ∧
      view (ResultSet.release one).2 = view (ResultSet.release other).2

theorem clearSame {read : Access ρ α} (keeps : read.Keeps id) : Clear (id : ρ → ρ) read :=
  ⟨keeps, fun _ _ same => congrArg (fun result => (read result).1) same⟩

theorem hitsSettled : Settled (id : Hits → Hits) where
  rowCount := clearSame hitsReadsKeep.rowCount
  hasMore := clearSame hitsReadsKeep.hasMore
  entityId row := clearSame (hitsReadsKeep.entityId row)
  score row := clearSame (hitsReadsKeep.score row)
  release one other same := by
    cases same
    exact ⟨rfl, rfl⟩

end Result

namespace Federation

variable {ρ γ α β : Type} {n m : Nat}

structure Sheet (γ : Type) where
  columns : List (String × γ)
  rows : Nat
  options : Options
  lookup : Lookup
  closed : Bool

def entry (results : Vector γ n) (column : Column n) : String × γ :=
  (column.name, results.get column.slot)

def sheet (set : Federation γ n) : Sheet γ :=
  ⟨set.columns.map (entry set.results), set.rows, set.options, set.lookup, set.closed⟩

def Shows (view : ρ → γ) (picture : Federation γ n) (set : Federation ρ n) : Prop :=
  set.map view = picture

def Both (view : ρ → γ) (picture : Federation γ n) (image : Federation γ m)
    (set : Federation ρ n) (other : Federation ρ m) : Prop :=
  Shows view picture set ∧ Shows view image other

section
variable {view : ρ → γ} {picture : Federation γ n} {image : Federation γ m}

/- What a read answers for all results that look like this one. -/
def Reads (view : ρ → γ) (get : Access ρ α) (result : γ) (value : α) : Prop :=
  ∀ other, view other = result → (get other).1 = .ok value

theorem showsResult {set : Federation ρ n} (shown : Shows view picture set) (slot : Fin n) :
    view (set.results.get slot) = picture.results.get slot := by
  have seen := Vector.get_map set.results view slot
  subst shown
  exact seen.symm

theorem onResultReads {read : Access ρ α} (clear : Clear view read) {slot : Fin n} {other : Fin m}
    (equal : picture.results.get slot = image.results.get other) :
    Access.Alike (Both view picture image)
      (fun value copy => value = copy ∧ Reads view read (picture.results.get slot) value)
      (onResult slot read) (onResult other read) := by
  intro set plain ⟨shown, mirrored⟩
  have left := (onResultKeeps clear.keeps slot set).trans shown
  have right := (onResultKeeps clear.keeps other plain).trans mirrored
  refine ⟨⟨left, right⟩, ?_⟩
  have seen := showsResult shown slot
  have alike : view (set.results.get slot) = view (plain.results.get other) := by
    rw [seen, showsResult mirrored other]
    exact equal
  change Access.Matching _ (read (set.results.get slot)).1 (read (plain.results.get other)).1
  rw [← clear.decides _ _ alike]
  cases answer : (read (set.results.get slot)).1 with
  | error fault => exact .error fault
  | ok value =>
    refine .ok ⟨rfl, fun result same => ?_⟩
    rw [clear.decides result _ (same.trans seen.symm), answer]

theorem onResultAlike {read : Access ρ α} (clear : Clear view read) {slot : Fin n} {other : Fin m}
    (equal : picture.results.get slot = image.results.get other) :
    Access.Alike (Both view picture image) Eq (onResult slot read)
      (onResult other read) := by
  intro set plain known
  obtain ⟨still, answers⟩ := onResultReads clear equal set plain known
  exact ⟨still, Access.matchingMono And.left answers⟩

theorem onResultGives {read : Access ρ α} (clear : Clear view read) {slot : Fin n} {value : α}
    (decided : Reads view read (picture.results.get slot) value) :
    (onResult slot read).Gives (Shows view picture) value := by
  intro set shown
  exact ⟨(onResultKeeps clear.keeps slot set).trans shown, decided _ (showsResult shown slot)⟩

/- Columns that are mirrored one by one. -/
def Paired (results : Vector γ n) (images : Vector γ m) :
    List (Column n) → List (Column m) → Prop :=
  List.Forall₂ fun column other => entry results column = entry images other

theorem pairedColumns {results : Vector γ n} {images : Vector γ m} {columns : List (Column n)}
    {others : List (Column m)} :
    Paired results images columns others ↔
      columns.map (entry results) = others.map (entry images) := by
  rw [← List.forall₂_eq_eq_eq, List.forall₂_map_left_iff, List.forall₂_map_right_iff]
  rfl

theorem pairedNames {results : Vector γ n} {images : Vector γ m} {columns : List (Column n)}
    {others : List (Column m)} (paired : Paired results images columns others) :
    columns.map Column.name = others.map Column.name := by
  induction paired with
  | nil => rfl
  | cons first later ih => rw [List.map_cons, List.map_cons, ih, (Prod.mk.inj first).1]

theorem anyMoreAlike [ResultSet ρ] (clear : Clear view (ResultSet.hasMore : Access ρ Bool))
    {columns : List (Column n)} {others : List (Column m)}
    (paired : Paired picture.results image.results columns others) :
    Access.Alike (Both view picture image) Eq (anyMore columns)
      (anyMore others) := by
  induction paired with
  | nil => exact Access.alikePure rfl
  | cons first later ih =>
    refine Access.alikeBind (onResultAlike clear (Prod.mk.inj first).2) fun found _ equal => ?_
    subst equal
    cases found with
    | true => exact Access.alikePure rfl
    | false => exact ih

theorem compareRestAlike [DecidableEq α] {get : Access ρ α} (clear : Clear view get) (row : Nat)
    (what : Agreed) (value : α) {columns : List (Column n)} {others : List (Column m)}
    (paired : Paired picture.results image.results columns others) :
    Access.Alike (Both view picture image) Eq (compareRest row what get value columns)
      (compareRest row what get value others) := by
  induction paired with
  | nil => exact Access.alikePure rfl
  | cons first later ih =>
    refine Access.alikeBind (onResultAlike clear (Prod.mk.inj first).2) fun found _ equal => ?_
    subst equal
    split
    · exact ih
    · exact Access.alikeFail _

/- Columns of one result have nothing to disagree on. -/
def Uniform (picture : Federation γ n) (result : γ) (columns : List (Column n)) : Prop :=
  ∀ column ∈ columns, picture.results.get column.slot = result

theorem pairedUniform {columns : List (Column n)} {others : List (Column m)} {result : γ}
    (paired : Paired picture.results image.results columns others) :
    Uniform picture result columns ↔ Uniform image result others := by
  unfold Uniform
  induction paired with
  | nil => simp
  | cons first later ih =>
    rw [List.forall_mem_cons, List.forall_mem_cons, ih, (Prod.mk.inj first).2]

theorem unjoinedSlots {first : Column n} {rest : List (Column n)}
    (unjoined : Shape.of (first :: rest) ≠ some .join) :
    ∀ column ∈ rest, column.slot = first.slot := by
  intro column member
  cases rest with
  | nil => contradiction
  | cons next others =>
    simp only [Shape.of] at unjoined
    split at unjoined
    · rename_i all
      exact of_decide_eq_true (List.all_eq_true.mp all column member)
    · exact absurd rfl unjoined

theorem unjoinedUniform {first : Column n} {rest : List (Column n)}
    (unjoined : Shape.of (first :: rest) ≠ some .join) :
    Uniform picture (picture.results.get first.slot) rest := by
  intro column member
  rw [unjoinedSlots unjoined column member]

theorem compareRestGives [DecidableEq α] {get : Access ρ α} (clear : Clear view get) {row : Nat}
    {what : Agreed} {value : α} {columns : List (Column n)} {result : γ}
    (decided : Reads view get result value) (uniform : Uniform picture result columns) :
    (compareRest row what get value columns).Gives (Shows view picture) () := by
  induction columns with
  | nil => exact Access.givesPure ()
  | cons column rest ih =>
    have here := uniform column List.mem_cons_self
    refine Access.givesBind (onResultGives clear (here ▸ decided)) ?_
    rw [if_pos rfl]
    exact ih fun other member => uniform other (List.mem_cons_of_mem column member)

end

end Federation

end QueryFederation
