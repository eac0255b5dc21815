import Mathlib

/-! Computations that end with a fault: the first of their parts that has one. -/
namespace QueryFederation
variable {ε α β : Type}

theorem bindFails {first : Except ε α} {next : α → Except ε β} {fault : ε} :
    (first >>= next) = .error fault ↔
      first = .error fault ∨ ∃ middle, first = .ok middle ∧ next middle = .error fault := by
  cases first with
  | error other => simp [bind, Except.bind]
  | ok middle => simp [bind, Except.bind]

theorem buildFails {first : Except ε α} {f : α → β} {fault : ε} :
    (first >>= fun middle => pure (f middle)) = .error fault ↔ first = .error fault := by
  cases first with
  | error other => simp [bind, Except.bind]
  | ok middle => simp [bind, Except.bind, pure, Except.pure]

/- The fault of the first member of a list that is faulty. -/
inductive FirstFault (faulty : α → ε → Prop) : List α → ε → Prop where
  | here {x rest fault} (fails : faulty x fault) : FirstFault faulty (x :: rest) fault
  | later {x rest fault} (passes : ∀ other, ¬ faulty x other)
      (after : FirstFault faulty rest fault) : FirstFault faulty (x :: rest) fault

variable {faulty : α → ε → Prop} {xs ys : List α} {fault : ε}

theorem firstFaultSplit : FirstFault faulty xs fault ↔
    ∃ before x after, xs = before ++ x :: after ∧ (∀ y ∈ before, ∀ other, ¬ faulty y other) ∧
      faulty x fault := by
  constructor
  · intro first
    induction first with
    | here fails => exact ⟨[], _, _, rfl, by simp, fails⟩
    | later passes _ ih =>
      obtain ⟨before, x, after, rfl, pass, fails⟩ := ih
      exact ⟨_ :: before, x, after, rfl, List.forall_mem_cons.mpr ⟨passes, pass⟩, fails⟩
  · rintro ⟨before, x, after, rfl, pass, fails⟩
    induction before with
    | nil => exact .here fails
    | cons y rest ih =>
      obtain ⟨passes, others⟩ := List.forall_mem_cons.mp pass
      exact .later passes (ih others)

theorem firstFaultPass {x : α} (passes : ∀ other, ¬ faulty x other) :
    FirstFault faulty (x :: xs) fault ↔ FirstFault faulty xs fault := by
  constructor
  · intro first
    cases first with
    | here fails => exact absurd fails (passes fault)
    | later _ after => exact after
  · exact .later passes

theorem firstFaultHere {x : α} {other : ε} (fails : faulty x fault)
    (single : ∀ other, faulty x other → fault = other) :
    FirstFault faulty (x :: xs) other ↔ fault = other := by
  constructor
  · intro first
    cases first with
    | here also => exact single other also
    | later passes _ => exact absurd fails (passes fault)
  · rintro rfl
    exact .here fails

theorem firstFaultMember (first : FirstFault faulty xs fault) : ∃ x ∈ xs, faulty x fault := by
  obtain ⟨before, x, after, rfl, -, fails⟩ := firstFaultSplit.mp first
  exact ⟨x, by simp, fails⟩

theorem firstFaultLeft (first : FirstFault faulty xs fault) : FirstFault faulty (xs ++ ys) fault := by
  induction first with
  | here fails => exact .here fails
  | later passes _ ih => exact .later passes ih

theorem firstFaultRight (pass : ∀ x ∈ xs, ∀ other, ¬ faulty x other)
    (first : FirstFault faulty ys fault) : FirstFault faulty (xs ++ ys) fault := by
  induction xs with
  | nil => exact first
  | cons x rest ih =>
    obtain ⟨passes, others⟩ := List.forall_mem_cons.mp pass
    exact .later passes (ih others)

theorem firstFaultUnique {other : ε}
    (single : ∀ x fault other, faulty x fault → faulty x other → fault = other)
    (first : FirstFault faulty xs fault) (also : FirstFault faulty xs other) : fault = other := by
  induction first with
  | here fails =>
    cases also with
    | here again => exact single _ _ _ fails again
    | later passes _ => exact absurd fails (passes _)
  | later passes _ ih =>
    cases also with
    | here again => exact absurd again (passes _)
    | later _ after => exact ih after

/- A list put together from the parts of others: the fault is in the part of the first faulty one. -/
theorem firstFaultFlatMap {faultyWhole : β → ε → Prop} {parts : β → List α} {wholes : List β}
    (first : FirstFault faultyWhole wholes fault)
    (faultyPart : ∀ whole ∈ wholes, faultyWhole whole fault →
      FirstFault faulty (parts whole) fault)
    (passes : ∀ whole ∈ wholes, (∀ other, ¬ faultyWhole whole other) →
      ∀ part ∈ parts whole, ∀ other, ¬ faulty part other) :
    FirstFault faulty (wholes.flatMap parts) fault := by
  induction first with
  | here fails =>
    rw [List.flatMap_cons]
    exact firstFaultLeft (faultyPart _ List.mem_cons_self fails)
  | later pass _ ih =>
    rw [List.flatMap_cons]
    exact firstFaultRight (passes _ List.mem_cons_self pass)
      (ih (fun whole member => faultyPart whole (List.mem_cons_of_mem _ member))
        fun whole member => passes whole (List.mem_cons_of_mem _ member))

theorem mapFails {f : α → Except ε β} :
    xs.mapM f = .error fault ↔ FirstFault (fun x fault => f x = .error fault) xs fault := by
  induction xs with
  | nil => exact ⟨fun done => (nomatch done), fun first => (nomatch first)⟩
  | cons x rest ih =>
    rw [List.mapM_cons, bindFails]
    constructor
    · rintro (fails | ⟨value, ok, more⟩)
      · exact .here fails
      · rcases bindFails.mp more with fails | ⟨values, -, impossible⟩
        · exact .later (by simp [ok]) (ih.mp fails)
        · exact nomatch impossible
    · intro first
      cases first with
      | here fails => exact .inl fails
      | later passes after =>
        cases ok : f x with
        | error other => exact absurd ok (passes other)
        | ok value => exact .inr ⟨value, rfl, bindFails.mpr (.inl (ih.mpr after))⟩

end QueryFederation
