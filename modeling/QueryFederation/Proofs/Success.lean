import Mathlib.Data.List.Forall2

/-! Computations that end with a value: what their parts have answered. -/
namespace QueryFederation
variable {ε α β : Type}

theorem bindSucceeds {first : Except ε α} {next : α → Except ε β} {value : β} :
    (first >>= next) = .ok value ↔ ∃ middle, first = .ok middle ∧ next middle = .ok value := by
  cases first with
  | error fault => simp [bind, Except.bind]
  | ok middle => simp [bind, Except.bind]

theorem pureSucceeds {value other : α} : (pure value : Except ε α) = .ok other ↔ value = other := by
  simp [pure, Except.pure]

theorem buildSucceeds {first : Except ε α} {f : α → β} :
    (∃ value, (first >>= fun middle => pure (f middle)) = .ok value) ↔
      ∃ middle, first = .ok middle := by
  simp only [bindSucceeds, pureSucceeds]
  exact ⟨fun ⟨_, middle, ok, _⟩ => ⟨middle, ok⟩, fun ⟨middle, ok⟩ => ⟨_, middle, ok, rfl⟩⟩

theorem mapSucceeds {f : α → Except ε β} {xs : List α} {ys : List β} :
    xs.mapM f = .ok ys ↔ List.Forall₂ (fun x y => f x = .ok y) xs ys := by
  induction xs generalizing ys with
  | nil => cases ys <;> simp [pure, Except.pure]
  | cons x rest ih =>
    rw [List.mapM_cons, bindSucceeds]
    simp only [bindSucceeds, pureSucceeds]
    constructor
    · rintro ⟨y, head, tail, ok, rfl⟩
      exact .cons head (ih.mp ok)
    · intro each
      obtain _ | ⟨head, tail⟩ := each
      exact ⟨_, head, _, ih.mpr tail, rfl⟩

theorem mapAllSucceed {f : α → Except ε β} {xs : List α} :
    (∃ ys, xs.mapM f = .ok ys) ↔ ∀ x ∈ xs, ∃ y, f x = .ok y := by
  induction xs with
  | nil => simp [pure, Except.pure]
  | cons x rest ih =>
    simp only [List.mapM_cons, bindSucceeds, pureSucceeds, List.forall_mem_cons, ← ih]
    constructor
    · rintro ⟨_, y, head, ys, tail, rfl⟩
      exact ⟨⟨y, head⟩, ys, tail⟩
    · rintro ⟨⟨y, head⟩, ys, tail⟩
      exact ⟨_, y, head, ys, tail, rfl⟩

/- What is computed one from each of several things, and what these things mean. -/
theorem mapMeans {f : α → Except ε β} {holds : β → Prop} {meaning : α → Prop} {xs : List α}
    {ys : List β} (same : ∀ x ∈ xs, ∀ y, f x = .ok y → (holds y ↔ meaning x))
    (ok : xs.mapM f = .ok ys) :
    ((∃ y ∈ ys, holds y) ↔ ∃ x ∈ xs, meaning x) ∧
      ((∀ y ∈ ys, holds y) ↔ ∀ x ∈ xs, meaning x) := by
  induction mapSucceeds.mp ok with
  | nil => simp
  | cons head tail ih =>
    obtain ⟨first, others⟩ := List.forall_mem_cons.mp same
    obtain ⟨some, every⟩ := ih others (mapSucceeds.mpr tail)
    simp [first _ head, some, every]

end QueryFederation
