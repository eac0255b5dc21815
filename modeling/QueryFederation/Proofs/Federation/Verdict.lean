import QueryFederation.Proofs.Federation.Release
import QueryFederation.Proofs.Success

/-! What comes of the answers of all selectors for one row, where each is compared with the first.
Nothing is known here of which selectors share a result. -/
namespace QueryFederation.Federation

variable {α : Type} {row : Nat} {what : Agreed} {value : α}

/- A value other than the given one is met before any fault. -/
def Strays (value : α) (answers : List (Except Fault α)) : Prop :=
  ∃ other, .ok other ∈ answers.takeWhile Except.isOk ∧ other ≠ value

/- A value other than the first one is met before any fault. -/
def Differs : List (Except Fault α) → Prop
  | .ok value :: rest => Strays value rest
  | _ => False

theorem straysNil : ¬ Strays value [] := by
  rintro ⟨other, member, -⟩
  contradiction

theorem straysFault (fault : Fault) (rest : List (Except Fault α)) :
    ¬ Strays value (.error fault :: rest) := by
  rintro ⟨other, member, -⟩
  rw [List.takeWhile_cons_of_neg Bool.false_ne_true] at member
  contradiction

theorem straysCons (other : α) (rest : List (Except Fault α)) :
    Strays value (.ok other :: rest) ↔ other ≠ value ∨ Strays value rest := by
  unfold Strays
  rw [List.takeWhile_cons_of_pos rfl]
  constructor
  · rintro ⟨next, member, apart⟩
    rcases List.mem_cons.mp member with same | later
    · exact .inl (Except.ok.inj same ▸ apart)
    · exact .inr ⟨next, later, apart⟩
  · rintro (apart | ⟨next, later, apart⟩)
    · exact ⟨other, List.mem_cons_self, apart⟩
    · exact ⟨next, List.mem_cons_of_mem _ later, apart⟩

theorem unfailingFaults {answers : List (Except Fault α)}
    (unfailing : ∀ answer ∈ answers, ∃ value, answer = .ok value) :
    answers.findSome? faultOf? = none := by
  rw [List.findSome?_eq_none_iff]
  intro answer member
  obtain ⟨value, rfl⟩ := unfailing answer member
  rfl

variable [DecidableEq α]

def compareAll (row : Nat) (what : Agreed) (value : α) : List (Except Fault α) → Except Fault Unit
  | [] => .ok ()
  | answer :: rest => do
    let other ← answer
    if other = value then compareAll row what value rest else .error (.ambiguous row what)

def verdict (row : Nat) (what : Agreed) : List (Except Fault α) → Except Fault α
  | [] => .error .emptyFederation
  | first :: rest => do
    let value ← first
    compareAll row what value rest
    return value

theorem compareAllOk {answers : List (Except Fault α)} :
    compareAll row what value answers = .ok () ↔ ∀ answer ∈ answers, answer = .ok value := by
  induction answers with
  | nil => simp [compareAll]
  | cons answer rest ih =>
    rw [List.forall_mem_cons, ← ih]
    cases answer with
    | error fault => simp [compareAll, bind, Except.bind]
    | ok other =>
      change (if other = value then _ else _) = _ ↔ _
      split
      · rename_i same
        simp [same]
      · rename_i apart
        simp [apart]

theorem compareAllFault {answers : List (Except Fault α)} {fault : Fault} :
    compareAll row what value answers = .error fault ↔
      (Strays value answers ∧ fault = .ambiguous row what) ∨
        (¬ Strays value answers ∧ answers.findSome? faultOf? = some fault) := by
  induction answers with
  | nil => simp [compareAll, straysNil]
  | cons answer rest ih =>
    cases answer with
    | error first =>
      change Except.error first = _ ↔ _
      rw [List.findSome?_cons]
      simp [straysFault, faultOf?]
    | ok other =>
      change (if other = value then _ else _) = _ ↔ _
      rw [straysCons, List.findSome?_cons]
      split
      · rename_i same
        simpa [same, faultOf?] using ih
      · rename_i apart
        simp [apart, eq_comm]

theorem verdictHead (head : α) (rest : List (Except Fault α)) :
    verdict row what (.ok head :: rest) =
      (do compareAll row what head rest; return head) := rfl

theorem verdictOk {answers : List (Except Fault α)} (filled : answers ≠ []) :
    verdict row what answers = .ok value ↔ ∀ answer ∈ answers, answer = .ok value := by
  match answers with
  | [] => contradiction
  | .error fault :: rest =>
    change Except.error fault = _ ↔ _
    simp
  | .ok head :: rest =>
    rw [List.forall_mem_cons, verdictHead, bindSucceeds]
    constructor
    · rintro ⟨_, compared, built⟩
      cases built
      exact ⟨rfl, compareAllOk.mp compared⟩
    · rintro ⟨same, all⟩
      cases same
      exact ⟨(), compareAllOk.mpr all, rfl⟩

theorem verdictFault {answers : List (Except Fault α)} (filled : answers ≠ []) {fault : Fault} :
    verdict row what answers = .error fault ↔
      (Differs answers ∧ fault = .ambiguous row what) ∨
        (¬ Differs answers ∧ answers.findSome? faultOf? = some fault) := by
  match answers with
  | [] => contradiction
  | .error early :: rest =>
    change Except.error early = _ ↔ _
    rw [List.findSome?_cons]
    simp [Differs, faultOf?]
  | .ok head :: rest =>
    have compared : verdict row what (.ok head :: rest) = .error fault ↔
        compareAll row what head rest = .error fault := by
      rw [verdictHead]
      cases compareAll row what head rest with
      | error late => simp [bind, Except.bind]
      | ok done => simp [bind, Except.bind, pure, Except.pure]
    exact compared.trans compareAllFault

/- Where nothing fails, the order of the selectors does not count. -/
theorem verdictPerm {answers others : List (Except Fault α)} (permuted : others.Perm answers)
    (filled : answers ≠ []) (unfailing : ∀ answer ∈ answers, ∃ value, answer = .ok value) :
    verdict row what others = verdict row what answers := by
  have among {answer : Except Fault α} : answer ∈ others ↔ answer ∈ answers := permuted.mem_iff
  have also : others ≠ [] := fun none => filled (none ▸ permuted).nil_eq.symm
  have same (value : α) :
      verdict row what others = .ok value ↔ verdict row what answers = .ok value := by
    rw [verdictOk also, verdictOk filled]
    simp only [among]
  cases judged : verdict row what answers with
  | ok value => exact (same value).mpr judged
  | error fault =>
    cases other : verdict row what others with
    | ok value => exact nomatch judged.symm.trans ((same value).mp other)
    | error late =>
      have one := (verdictFault filled).mp judged
      have two := (verdictFault also).mp other
      have quiet := unfailingFaults fun answer member => unfailing answer (among.mp member)
      simp only [unfailingFaults unfailing, quiet, reduceCtorEq, and_false, or_false] at one two
      rw [one.2, two.2]

end QueryFederation.Federation
