import QueryFederation.Fault

/-! Access to something that changes as it is used: an answer or a fault, and what the thing is
afterwards. A fault does not undo the changes before it. -/
namespace QueryFederation

def Access (σ α : Type) : Type := σ → Except Fault α × σ

namespace Access

variable {σ τ α β : Type}

instance : Monad (Access σ) where
  pure value := fun state => (.ok value, state)
  bind first next := fun state =>
    match first state with
    | (.ok value, after) => next value after
    | (.error fault, after) => (.error fault, after)

def fail (fault : Fault) : Access σ α := fun state => (.error fault, state)

def look (view : σ → α) : Access σ α := fun state => (.ok (view state), state)

def ofExcept (answer : Except Fault α) : Access σ α := fun state => (answer, state)

def attempt (access : Access σ α) : Access σ (Except Fault α) := fun state =>
  let (answer, after) := access state
  (.ok answer, after)

theorem pureApply (value : α) (state : σ) : (pure value : Access σ α) state = (.ok value, state) :=
  rfl

theorem bindApply (first : Access σ α) (next : α → Access σ β) (state : σ) :
    (first >>= next) state =
      match first state with
      | (.ok value, after) => next value after
      | (.error fault, after) => (.error fault, after) :=
  rfl

theorem mapIdApply (access : Access σ α) : id <$> access = access := by
  funext state
  change (match access state with
    | (.ok value, after) => (Except.ok value, after)
    | (.error fault, after) => (.error fault, after)) = access state
  rcases access state with ⟨answer | answer, after⟩ <;> rfl

instance : LawfulMonad (Access σ) := LawfulMonad.mk' _ mapIdApply (fun _ _ => rfl) <| by
  intro α β γ access f g
  funext state
  simp only [bindApply]
  rcases access state with ⟨answer | answer, after⟩ <;> rfl

end Access

end QueryFederation
