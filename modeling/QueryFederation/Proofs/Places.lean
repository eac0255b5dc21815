import QueryFederation.Order.Places
import QueryFederation.Proofs.Order

/-! Where no member of a list is repeated, each of them is found at its place. -/
namespace QueryFederation.Order

variable {α β : Type} [DecidableEq α] {xs : List α} {found : AList fun _ : α => Nat}

/- What became of a list whose first member stands at `next`, behind members with known places. -/
inductive Placed (found : AList fun _ : α => Nat) (next : Nat) (seen xs : List α) :
    Except α (AList fun _ : α => Nat) → Prop where
  | repeated {x : α} (first : firstRepeatFrom seen xs = some x) :
      Placed found next seen xs (.error x)
  | once {after : AList fun _ : α => Nat} (unrepeated : firstRepeatFrom seen xs = none)
      (known : ∀ y, after.lookup y = ((xs.idxOf? y).map (next + ·)).or (found.lookup y)) :
      Placed found next seen xs (.ok after)

theorem placesFromPlaced {seen : List α} {next : Nat}
    (known : ∀ y, (found.lookup y).isSome = true ↔ y ∈ seen) (xs : List α) :
    Placed found next seen xs (placesFrom found next xs) := by
  induction xs generalizing found seen next with
  | nil => exact .once rfl (by simp)
  | cons x rest ih =>
    rw [placesFrom]
    split
    · rename_i place before
      have again : x ∈ seen := (known x).mp (by simp [before])
      exact .repeated (by simp [firstRepeatFrom, again])
    rename_i unplaced
    have fresh : x ∉ seen := fun again => by simpa [unplaced] using (known x).mpr again
    have step : firstRepeatFrom seen (x :: rest) = firstRepeatFrom (x :: seen) rest := by
      simp [firstRepeatFrom, fresh]
    have now (y : α) :
        (found.insert x next).lookup y = if y = x then some next else found.lookup y := by
      split
      · rename_i same
        rw [same, AList.lookup_insert]
      · rename_i apart
        exact AList.lookup_insert_ne apart
    have nowKnown (y : α) : ((found.insert x next).lookup y).isSome = true ↔ y ∈ x :: seen := by
      rw [now, List.mem_cons, ← known]
      split <;> simp [*]
    have placed : Placed (found.insert x next) (next + 1) (x :: seen) rest
        (placesFrom (found.insert x next) (next + 1) rest) := ih nowKnown
    generalize placesFrom (found.insert x next) (next + 1) rest = result at placed ⊢
    cases placed with
    | repeated first => exact .repeated (step.trans first)
    | once unrepeated later =>
      have others := (firstRepeatFromNone.mp unrepeated).2
      refine .once (step.trans unrepeated) fun y => ?_
      rw [later, now, List.idxOf?_cons]
      by_cases same : x = y
      · subst same
        have absent : x ∉ rest := fun inside => others x inside List.mem_cons_self
        simp [List.idxOf?_eq_none_iff.mpr absent]
      · have apart : (x == y) = false := by simpa using same
        cases rest.idxOf? y <;> simp [apart, Ne.symm same, Nat.add_assoc, Nat.add_comm 1]

theorem placesPlaced (xs : List α) : Placed ∅ 0 [] xs (places xs) :=
  placesFromPlaced (by simp) xs

theorem placesRepeated {x : α} : places xs = .error x ↔ firstRepeat? xs = some x := by
  have placed := placesPlaced xs
  generalize places xs = result at placed ⊢
  cases placed with
  | repeated first => simp [firstRepeat?, first]
  | once unrepeated => simp [firstRepeat?, unrepeated]

theorem placesFound (placed : places xs = .ok found) :
    firstRepeat? xs = none ∧ ∀ x, found.lookup x = xs.idxOf? x := by
  have verdict := placesPlaced xs
  rw [placed] at verdict
  cases verdict with
  | once unrepeated known =>
    exact ⟨unrepeated, fun x => by simpa using known x⟩

theorem placeUnrepeated (unrepeated : xs.Nodup) {x : α} {place : Nat} :
    xs.idxOf? x = some place ↔ xs[place]? = some x := by
  rw [List.idxOf?_eq_some_iff, List.getElem?_eq_some_iff]
  constructor
  · rintro ⟨within, here, -⟩
    exact ⟨within, here⟩
  · rintro ⟨within, here⟩
    refine ⟨within, here, fun earlier before also => ?_⟩
    have same : earlier = place := unrepeated.getElem_inj_iff.mp (also.trans here.symm)
    exact Nat.ne_of_lt before same

/- The member at the place of a name is the first one with the name. -/
theorem findPlaced (name : β → α) (ys : List β) (x : α) :
    ((ys.map name).idxOf? x).bind (ys[·]?) = ys.find? fun y => name y = x := by
  induction ys with
  | nil => rfl
  | cons y rest ih =>
    rw [List.map_cons, List.idxOf?_cons, List.find?_cons]
    by_cases same : name y = x
    · simp [same]
    · have apart : (name y == x) = false := by simpa using same
      simp only [apart, same, decide_false, Bool.false_eq_true, if_false, ← ih]
      cases (rest.map name).idxOf? x <;> rfl

end QueryFederation.Order
