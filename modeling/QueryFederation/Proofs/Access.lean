import Mathlib.Data.List.Forall2
import QueryFederation.Access

/-! What an access leaves as it was, and when two accesses to different things answer alike. -/
namespace QueryFederation.Access

variable {σ τ α β γ δ : Type}

/- A view of the thing that is the same before and after, also after a fault. -/
def Keeps (view : σ → δ) (access : Access σ α) : Prop :=
  ∀ state, view (access state).2 = view state

section
variable {view : σ → δ}

theorem keepsPure (value : α) : (pure value : Access σ α).Keeps view := fun _ => rfl

theorem keepsFail (fault : Fault) : (fail fault : Access σ α).Keeps view := fun _ => rfl

theorem keepsLook (look : σ → α) : (Access.look look).Keeps view := fun _ => rfl

theorem keepsOfExcept (answer : Except Fault α) : (ofExcept answer : Access σ α).Keeps view :=
  fun _ => rfl

theorem keepsAttempt {access : Access σ α} (keeps : access.Keeps view) :
    access.attempt.Keeps view := fun state => keeps state

theorem keepsBind {first : Access σ α} {next : α → Access σ β} (head : first.Keeps view)
    (tail : ∀ value, (next value).Keeps view) : (first >>= next).Keeps view := by
  intro state
  have before := head state
  rw [bindApply]
  rcases ran : first state with ⟨fault | value, after⟩ <;> rw [ran] at before
  · exact before
  · exact (tail value after).trans before

theorem keepsMap {access : Access σ α} (f : α → β) (keeps : access.Keeps view) :
    (f <$> access).Keeps view :=
  keepsBind keeps fun _ => keepsPure _

theorem keepsMapM {f : α → Access σ β} (keeps : ∀ x, (f x).Keeps view) (xs : List α) :
    (xs.mapM f).Keeps view := by
  induction xs with
  | nil => exact keepsPure []
  | cons x rest ih =>
    rw [List.mapM_cons]
    exact keepsBind (keeps x) fun _ => keepsBind ih fun _ => keepsPure _

end

/- Answers with related values, or the same fault. -/
inductive Matching (same : α → β → Prop) : Except Fault α → Except Fault β → Prop where
  | ok {value other} (related : same value other) : Matching same (.ok value) (.ok other)
  | error (fault : Fault) : Matching same (.error fault) (.error fault)

theorem matchingMono {same also : α → β → Prop}
    (implies : ∀ {value other}, same value other → also value other) {answer : Except Fault α}
    {other : Except Fault β} (alike : Matching same answer other) : Matching also answer other := by
  cases alike with
  | ok related => exact .ok (implies related)
  | error fault => exact .error fault

theorem matchingEq {answer other : Except Fault α} :
    Matching Eq answer other ↔ answer = other := by
  constructor
  · intro alike
    cases alike with
    | ok related => rw [related]
    | error fault => rfl
  · rintro rfl
    cases answer with
    | error fault => exact .error fault
    | ok value => exact .ok rfl

/- Two accesses that leave related things related, and answer alike. -/
def Alike (along : σ → τ → Prop) (same : α → β → Prop) (access : Access σ α)
    (mirror : Access τ β) : Prop :=
  ∀ state other, along state other →
    along (access state).2 (mirror other).2 ∧ Matching same (access state).1 (mirror other).1

section
variable {along : σ → τ → Prop}

theorem alikePure {same : α → β → Prop} {value : α} {mirror : β} (related : same value mirror) :
    Alike along same (pure value) (pure mirror) :=
  fun _ _ known => ⟨known, .ok related⟩

theorem alikeFail {same : α → β → Prop} (fault : Fault) :
    Alike along same (fail fault) (fail fault) :=
  fun _ _ known => ⟨known, .error fault⟩

theorem alikeLook {same : α → β → Prop} {look : σ → α} {mirror : τ → β}
    (related : ∀ state other, along state other → same (look state) (mirror other)) :
    Alike along same (Access.look look) (Access.look mirror) :=
  fun state other known => ⟨known, .ok (related state other known)⟩

theorem alikeOfExcept (answer : Except Fault α) :
    Alike along Eq (ofExcept answer) (ofExcept answer) :=
  fun _ _ known => ⟨known, matchingEq.mpr rfl⟩

theorem alikeAttempt {access : Access σ α} {mirror : Access τ α}
    (alike : Alike along Eq access mirror) : Alike along Eq access.attempt mirror.attempt := by
  intro state other known
  obtain ⟨still, answers⟩ := alike state other known
  exact ⟨still, .ok (matchingEq.mp answers)⟩

theorem alikeBind {same : α → β → Prop} {also : γ → δ → Prop} {first : Access σ α}
    {mirror : Access τ β} {next : α → Access σ γ} {after : β → Access τ δ}
    (head : Alike along same first mirror)
    (tail : ∀ value image, same value image → Alike along also (next value) (after image)) :
    Alike along also (first >>= next) (mirror >>= after) := by
  intro state other known
  obtain ⟨still, answers⟩ := head state other known
  rw [bindApply, bindApply]
  generalize first state = ran at still answers ⊢
  generalize mirror other = mirrored at still answers ⊢
  obtain ⟨answer, left⟩ := ran
  obtain ⟨image, right⟩ := mirrored
  cases answers with
  | error fault => exact ⟨still, .error fault⟩
  | ok related => exact tail _ _ related left right still

theorem alikeMap {access : Access σ α} {mirror : Access τ α} (f : α → β)
    (alike : Alike along Eq access mirror) :
    Alike along Eq (f <$> access) (f <$> mirror) :=
  alikeBind alike fun _ _ equal => alikePure (congrArg f equal)

theorem alikeMapM {f : α → Access σ γ} {g : β → Access τ γ} {xs : List α} {ys : List β}
    (alike : List.Forall₂ (fun x y => Alike along Eq (f x) (g y)) xs ys) :
    Alike along Eq (xs.mapM f) (ys.mapM g) := by
  induction alike with
  | nil => exact alikePure rfl
  | cons first others ih =>
    rw [List.mapM_cons, List.mapM_cons]
    refine alikeBind first fun value _ equal => ?_
    subst equal
    refine alikeBind ih fun values _ equals => ?_
    subst equals
    exact alikePure rfl

end

section
variable {first : Access σ α} {next : α → Access σ β} {state : σ}

theorem bindOk {value : β} : ((first >>= next) state).1 = .ok value ↔
    ∃ middle, (first state).1 = .ok middle ∧ (next middle (first state).2).1 = .ok value := by
  rw [bindApply]
  rcases first state with ⟨fault | middle, after⟩ <;> simp

theorem bindError {fault : Fault} : ((first >>= next) state).1 = .error fault ↔
    (first state).1 = .error fault ∨
      ∃ middle, (first state).1 = .ok middle ∧ (next middle (first state).2).1 = .error fault := by
  rw [bindApply]
  rcases first state with ⟨early | middle, after⟩ <;> simp

end

/- What an access is known to answer. -/
def Gives (here : σ → Prop) (access : Access σ α) (value : α) : Prop :=
  ∀ state, here state → here (access state).2 ∧ (access state).1 = .ok value

section
variable {here : σ → Prop} {there : τ → Prop}

theorem givesPure (value : α) : (pure value : Access σ α).Gives here value :=
  fun _ known => ⟨known, rfl⟩

theorem givesLook {look : σ → α} {value : α} (known : ∀ state, here state → look state = value) :
    (Access.look look).Gives here value :=
  fun state holds => ⟨holds, congrArg Except.ok (known state holds)⟩

theorem givesBind {first : Access σ α} {next : α → Access σ β} {value : α} {last : β}
    (head : first.Gives here value) (tail : (next value).Gives here last) :
    (first >>= next).Gives here last := by
  intro state known
  obtain ⟨kept, answer⟩ := head state known
  rw [bindApply]
  generalize first state = ran at kept answer ⊢
  obtain ⟨image, after⟩ := ran
  cases answer
  exact tail after kept

/- What an access is known to answer, which may be a fault. -/
def Answers (here : σ → Prop) (access : Access σ α) (answer : Except Fault α) : Prop :=
  ∀ state, here state → here (access state).2 ∧ (access state).1 = answer

theorem answersOk {access : Access σ α} {value : α} (gives : access.Gives here value) :
    access.Answers here (.ok value) := gives

theorem answersFail (fault : Fault) : (fail fault : Access σ α).Answers here (.error fault) :=
  fun _ known => ⟨known, rfl⟩

theorem answersBind {first : Access σ α} {next : α → Access σ β} {answer : Except Fault α}
    {after : α → Except Fault β} (head : first.Answers here answer)
    (tail : ∀ value, answer = .ok value → (next value).Answers here (after value)) :
    (first >>= next).Answers here (answer >>= after) := by
  intro state known
  obtain ⟨kept, answered⟩ := head state known
  rw [bindApply]
  generalize first state = ran at kept answered ⊢
  obtain ⟨image, left⟩ := ran
  cases answered
  cases image with
  | error fault => exact ⟨kept, rfl⟩
  | ok value => exact tail value rfl left kept

/- What comes after a fault is not done. -/
theorem answersFault {first : Access σ α} {next : α → Access σ β} {fault : Fault}
    (head : first.Answers here (.error fault)) :
    (first >>= next).Answers here (.error fault) := by
  have stopped : (first >>= next).Answers here
      ((.error fault : Except Fault α) >>= fun _ => .error fault) :=
    answersBind head fun _ impossible => nomatch impossible
  exact stopped

theorem answersAfter {first : Access σ α} {next : α → Access σ β} {value : α}
    {answer : Except Fault β} (head : first.Gives here value)
    (tail : (next value).Answers here answer) : (first >>= next).Answers here answer := by
  have continued : (first >>= next).Answers here
      ((.ok value : Except Fault α) >>= fun _ => answer) :=
    answersBind (answersOk head) fun _ same => Except.ok.inj same ▸ tail
  exact continued

/- Looking at the answer of an access leads to no fault. -/
theorem answersAttempt {access : Access σ α} {answer : Except Fault α}
    (answers : access.Answers here answer) : access.attempt.Gives here answer :=
  fun state known => ⟨(answers state known).1, congrArg Except.ok (answers state known).2⟩

theorem answersMap {access : Access σ α} {answer : Except Fault α} (f : α → β)
    (answers : access.Answers here answer) : (f <$> access).Answers here (f <$> answer) :=
  answersBind answers fun value _ => answersOk (givesPure (f value))

theorem answersMapM {f : α → Access σ β} {answer : α → Except Fault β} {xs : List α}
    (each : ∀ x ∈ xs, (f x).Answers here (answer x)) :
    (xs.mapM f).Answers here (xs.mapM answer) := by
  induction xs with
  | nil => exact answersOk (givesPure [])
  | cons x rest ih =>
    obtain ⟨first, others⟩ := List.forall_mem_cons.mp each
    rw [List.mapM_cons, List.mapM_cons]
    refine answersBind first fun value _ => answersBind (ih others) fun values _ => ?_
    exact answersOk (givesPure (value :: values))

/- What an access keeps stays known beside all else that is. -/
theorem answersAlong {access : Access σ α} {answer : Except Fault α} {view : σ → δ} {seen : δ}
    (answers : access.Answers here answer) (keeps : access.Keeps view) :
    access.Answers (fun state => here state ∧ view state = seen) answer := by
  intro state ⟨known, same⟩
  obtain ⟨still, answered⟩ := answers state known
  exact ⟨⟨still, (keeps state).trans same⟩, answered⟩

theorem alikeGives {access : Access σ α} {mirror : Access τ α} {value : α}
    (left : access.Gives here value) (right : mirror.Gives there value) :
    Alike (fun state other => here state ∧ there other) Eq access mirror := by
  intro state other ⟨known, also⟩
  obtain ⟨kept, answer⟩ := left state known
  obtain ⟨still, image⟩ := right other also
  rw [answer, image]
  exact ⟨⟨kept, still⟩, .ok rfl⟩

end

/- The answers of accesses that are made one after the other, each to what the earlier ones have
left. A fault keeps none of them from being made. -/
def inTurn (f : α → Access σ β) : List α → σ → List (Except Fault β)
  | [], _ => []
  | x :: rest, state => (f x state).1 :: inTurn f rest (f x state).2

theorem mapMInTurn (f : α → Access σ β) (xs : List α) (state : σ) :
    (xs.mapM f state).1 = (inTurn f xs state).mapM id := by
  induction xs generalizing state with
  | nil => rfl
  | cons x rest ih =>
    rw [List.mapM_cons, bindApply, inTurn, List.mapM_cons]
    rcases f x state with ⟨fault | value, after⟩
    · rfl
    · change ((rest.mapM f >>= fun values => pure (value :: values)) after).1 =
        ((inTurn f rest after).mapM id >>= fun values => pure (value :: values))
      rw [← ih, bindApply]
      rcases rest.mapM f after with ⟨fault | values, last⟩ <;> rfl

end QueryFederation.Access
