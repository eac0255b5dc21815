import QueryFederation.Proofs.Order
import QueryFederation.Proofs.Federation.Sheet

/-! Joining results. If all can be counted, it goes by the first column whose count differs from
that of the column before all others. Whether columns share results does not count. -/
namespace QueryFederation.Federation
open Entity Result

variable {ρ α : Type} {n : Nat}

theorem onSlotSteady {slot : Fin n} {access : Access ρ α} {results : Vector ρ n}
    {answer : Except Fault α} (steady : access (results.get slot) = (answer, results.get slot)) :
    onSlot slot access results = (answer, results) := by
  unfold onSlot
  rw [steady]
  have same : results.set slot.val (results.get slot) slot.isLt = results := by
    refine getExt fun other => ?_
    rw [getSet]
    split
    · rename_i equal
      rw [equal]
    · rfl
  exact congrArg (Prod.mk answer) same

variable [ResultSet ρ] {count : Fin n → Nat} {results : Vector ρ n}

def Countable (count : Fin n → Nat) (results : Vector ρ n) : Prop :=
  ∀ slot, ResultSet.rowCount (results.get slot) = (.ok (count slot), results.get slot)

def odd? (count : Fin n → Nat) (expected : Nat) (columns : List (Column n)) : Option (Column n) :=
  columns.find? fun column => count column.slot ≠ expected

def oddFault (count : Fin n → Nat) (expected : Nat) (column : Column n) : Fault :=
  .rowCountMismatch column.name expected (count column.slot)

theorem checkCountsSteady (steady : Countable count results) (expected : Nat)
    (columns : List (Column n)) :
    checkCounts expected columns results =
      (match odd? count expected columns with
        | none => .ok ()
        | some column => .error (oddFault count expected column), results) := by
  induction columns with
  | nil => rfl
  | cons column rest ih =>
    have counted := onSlotSteady (steady column.slot)
    rw [checkCounts, Access.bindApply, counted]
    unfold odd?
    by_cases agrees : count column.slot = expected
    · simp only [agrees, if_true, ne_eq, not_true_eq_false, decide_false,
        List.find?_cons_of_neg, Bool.false_eq_true, not_false_eq_true]
      exact ih
    · simp only [agrees, if_false, ne_eq, not_false_eq_true, decide_true, List.find?_cons_of_pos]
      rfl

theorem joinSteady (steady : Countable count results) {first : Column n} {rest : List (Column n)}
    (unique : ((first :: rest).map Column.name).Nodup) (options : Options) (lookup : Lookup) :
    join (first :: rest) options lookup results =
      (match odd? count (count first.slot) rest with
        | none => .ok ⟨first :: rest, count first.slot, options, lookup, results, false⟩
        | some column => .error (oddFault count (count first.slot) column), results) := by
  have counted := onSlotSteady (steady first.slot)
  have checked := checkCountsSteady steady (count first.slot) rest
  unfold join
  rw [Order.firstRepeatNone.mpr unique]
  simp only [alignedCount, Access.bindApply, counted, checked]
  cases odd? count (count first.slot) rest <;> rfl

section
variable {γ : Type} {m : Nat} {view : ρ → γ} {pictures : Vector γ n} {images : Vector γ m}

def Mirrored (view : ρ → γ) (pictures : Vector γ n) (images : Vector γ m) (results : Vector ρ n)
    (others : Vector ρ m) : Prop :=
  results.map view = pictures ∧ others.map view = images

omit [ResultSet ρ] in
theorem onSlotAlike {read : Access ρ α} (clear : Clear view read) {slot : Fin n} {other : Fin m}
    (equal : pictures.get slot = images.get other) :
    Access.Alike (Mirrored view pictures images) Eq (onSlot slot read) (onSlot other read) := by
  intro results others known
  obtain ⟨shown, mirrored⟩ := known
  have left := (onSlotKeeps clear.keeps slot results).trans shown
  have right := (onSlotKeeps clear.keeps other others).trans mirrored
  refine ⟨⟨left, right⟩, Access.matchingEq.mpr ?_⟩
  refine clear.decides (results.get slot) (others.get other) ?_
  rw [← shown, ← mirrored, Vector.get_map, Vector.get_map] at equal
  exact equal

variable {columns : List (Column n)} {others : List (Column m)}
  (clear : Clear view (ResultSet.rowCount : Access ρ Nat))
  (paired : Paired pictures images columns others)
include clear paired

theorem checkCountsAlike (expected : Nat) :
    Access.Alike (Mirrored view pictures images) Eq
      (checkCounts expected columns : Access (Vector ρ n) Unit) (checkCounts expected others) := by
  induction paired with
  | nil => exact Access.alikePure rfl
  | cons first later ih =>
    obtain ⟨name, equal⟩ := Prod.mk.inj first
    refine Access.alikeBind (onSlotAlike clear equal) fun actual _ same => ?_
    subst same
    split
    · exact ih
    · rw [name]
      exact Access.alikeFail _

theorem alignedCountAlike :
    Access.Alike (Mirrored view pictures images) Eq
      (alignedCount columns : Access (Vector ρ n) Nat) (alignedCount others) := by
  cases paired with
  | nil => exact Access.alikePure rfl
  | cons first later =>
    refine Access.alikeBind (onSlotAlike clear (Prod.mk.inj first).2) fun count _ same => ?_
    subst same
    exact Access.alikeBind (checkCountsAlike clear later count) fun _ _ _ => Access.alikePure rfl

theorem joinAlike (options : Options) (lookup : Lookup) :
    Access.Alike (Mirrored view pictures images)
      (fun (set : Federation ρ n) (plain : Federation ρ m) =>
        (set.map view).sheet = (plain.map view).sheet)
      (join columns options lookup) (join others options lookup) := by
  unfold join
  rw [pairedNames paired]
  split
  · exact Access.alikeFail _
  · refine Access.alikeBind (alignedCountAlike clear paired) fun rows _ same => ?_
    subst same
    refine Access.alikeLook fun results plain known => ?_
    obtain ⟨rfl, rfl⟩ := known
    have entries := pairedColumns.mp paired
    simp only [sheet, map, entries]

end

end QueryFederation.Federation
