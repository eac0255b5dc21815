import Mathlib
import QueryFederation.Proofs.Success

/-! Two runs of one computation that differ in what they start from. They end together, or one of
them refuses some of what the other one accepts. -/
namespace QueryFederation
variable {ε ε' α β γ δ : Type}

/- Both fail, for whatever reasons, or both succeed with related values. -/
inductive Together (related : α → β → Prop) : Except ε α → Except ε' β → Prop where
  | ok {value other} (same : related value other) : Together related (.ok value) (.ok other)
  | error (fault : ε) (other : ε') : Together related (.error fault) (.error other)

section Together
variable {related : α → β → Prop} {also : γ → δ → Prop}

theorem togetherBind {first : Except ε α} {mirror : Except ε' β} {next : α → Except ε γ}
    {after : β → Except ε' δ} (head : Together related first mirror)
    (tail : ∀ value other, related value other → Together also (next value) (after other)) :
    Together also (first >>= next) (mirror >>= after) := by
  cases head with
  | ok same => exact tail _ _ same
  | error fault other => exact .error fault other

/- What is done with the values does not fail. -/
theorem togetherMap {first : Except ε α} {mirror : Except ε' β} {f : α → γ} {g : β → δ}
    (head : Together related first mirror)
    (keeps : ∀ value other, related value other → also (f value) (g other)) :
    Together also (first >>= fun value => pure (f value))
      (mirror >>= fun other => pure (g other)) :=
  togetherBind head fun value other same => .ok (keeps value other same)

theorem togetherMapM {f : α → Except ε γ} {g : β → Except ε' δ} {xs : List α} {ys : List β}
    (each : List.Forall₂ (fun x y => Together also (f x) (g y)) xs ys) :
    Together (List.Forall₂ also) (xs.mapM f) (ys.mapM g) := by
  induction each with
  | nil => exact .ok .nil
  | cons one others ih =>
    rw [List.mapM_cons, List.mapM_cons]
    exact togetherBind one fun _ _ same => togetherMap ih fun _ _ alike => .cons same alike

theorem togetherSelf {same : α → α → Prop} (reflexive : ∀ value, same value value)
    (run : Except ε α) : Together same run run := by
  cases run with
  | ok value => exact .ok (reflexive value)
  | error fault => exact .error fault fault

theorem togetherWeaken {weaker : α → β → Prop} {run : Except ε α} {mirror : Except ε' β}
    (together : Together related run mirror)
    (weaken : ∀ value other, related value other → weaker value other) :
    Together weaker run mirror := by
  cases together with
  | ok same => exact .ok (weaken _ _ same)
  | error fault other => exact .error fault other

/- The two ways to end, spelled out. -/
theorem togetherEnds {run : Except ε α} {mirror : Except ε' β} :
    Together related run mirror ↔
      (∃ value other, run = .ok value ∧ mirror = .ok other ∧ related value other) ∨
        (∃ fault, run = .error fault) ∧ ∃ other, mirror = .error other := by
  constructor
  · intro ends
    cases ends with
    | ok same => exact .inl ⟨_, _, rfl, rfl, same⟩
    | error fault other => exact .inr ⟨⟨fault, rfl⟩, other, rfl⟩
  · rintro (⟨value, other, rfl, rfl, same⟩ | ⟨⟨fault, rfl⟩, other, rfl⟩)
    · exact .ok same
    · exact .error fault other

theorem togetherSucceed {run : Except ε α} {mirror : Except ε' β}
    (together : Together related run mirror) :
    (∃ value, run = .ok value) ↔ ∃ other, mirror = .ok other := by
  cases together with
  | ok same => exact iff_of_true ⟨_, rfl⟩ ⟨_, rfl⟩
  | error fault other => exact iff_of_false (by simp) (by simp)

end Together

/- The strict run accepts what the lenient one does where the value is good, and changes nothing
about it. -/
def Sieved (good : α → Prop) (strict lenient : Except ε α) : Prop :=
  ∀ value, strict = .ok value ↔ lenient = .ok value ∧ good value

section Sieved
variable {good : α → Prop} {fine : β → Prop}

theorem sievedSelf {run : Except ε α} (passes : ∀ value, run = .ok value → good value) :
    Sieved good run run :=
  fun value => ⟨fun ok => ⟨ok, passes value ok⟩, fun both => both.1⟩

/- A value that is refused at once must be found bad in the end. -/
theorem sievedBind {strict lenient : Except ε α} {next after : α → Except ε β}
    (head : Sieved good strict lenient)
    (tail : ∀ value, lenient = .ok value →
      ∀ last, good value ∧ next value = .ok last ↔ after value = .ok last ∧ fine last) :
    Sieved fine (strict >>= next) (lenient >>= after) := by
  intro last
  rw [bindSucceeds, bindSucceeds]
  constructor
  · rintro ⟨value, ok, done⟩
    obtain ⟨accepted, passes⟩ := (head value).mp ok
    obtain ⟨also, ends⟩ := (tail value accepted last).mp ⟨passes, done⟩
    exact ⟨⟨value, accepted, also⟩, ends⟩
  · rintro ⟨⟨value, accepted, also⟩, ends⟩
    obtain ⟨passes, done⟩ := (tail value accepted last).mpr ⟨also, ends⟩
    exact ⟨value, (head value).mpr ⟨accepted, passes⟩, done⟩

theorem sievedMap {strict lenient : Except ε α} {f : α → β} (head : Sieved good strict lenient)
    (same : ∀ value, lenient = .ok value → (fine (f value) ↔ good value)) :
    Sieved fine (strict >>= fun value => pure (f value)) (lenient >>= fun value => pure (f value)) := by
  refine sievedBind head fun value accepted last => ?_
  rw [pureSucceeds]
  constructor
  · rintro ⟨passes, rfl⟩
    exact ⟨rfl, (same value accepted).mpr passes⟩
  · rintro ⟨rfl, ends⟩
    exact ⟨(same value accepted).mp ends, rfl⟩

/- Nothing is refused before the last step. -/
theorem sievedAfter {run : Except ε α} {next after : α → Except ε β}
    (tail : ∀ value, run = .ok value → Sieved fine (next value) (after value)) :
    Sieved fine (run >>= next) (run >>= after) := by
  have same : Sieved (fun _ => True) run run := sievedSelf fun _ _ => trivial
  refine sievedBind same fun value accepted last => ?_
  rw [true_and]
  exact tail value accepted last

theorem sievedMapM {f g : α → Except ε β} {xs : List α}
    (each : ∀ x ∈ xs, Sieved fine (f x) (g x)) :
    Sieved (fun values => ∀ value ∈ values, fine value) (xs.mapM f) (xs.mapM g) := by
  intro values
  rw [mapSucceeds, mapSucceeds]
  beta_reduce
  induction xs generalizing values with
  | nil => cases values <;> simp
  | cons x rest ih =>
    obtain ⟨one, others⟩ := List.forall_mem_cons.mp each
    cases values with
    | nil => simp
    | cons value values =>
      rw [List.forall₂_cons, List.forall₂_cons, one, ih others, List.forall_mem_cons]
      exact and_and_and_comm

end Sieved

end QueryFederation
