import QueryFederation.Proofs.Federation.Outline
import QueryFederation.Proofs.Federation.Sheet
import QueryFederation.Proofs.Federation.Verdict

/-! The values that a federation answers without naming a selector are those that all selectors
agree on. That the selectors of one result are not compared makes no difference. -/
namespace QueryFederation
open Entity Result Number

namespace Result

variable {ρ : Type} [ResultSet ρ]

/- What can become of a result by reading it. -/
inductive ReadFrom (result : ρ) : ρ → Prop where
  | start : ReadFrom result result
  | rowCount {later} (earlier : ReadFrom result later) :
      ReadFrom result (ResultSet.rowCount later).2
  | hasMore {later} (earlier : ReadFrom result later) :
      ReadFrom result (ResultSet.hasMore later).2
  | entityId {later} (earlier : ReadFrom result later) (row : Nat) :
      ReadFrom result (ResultSet.entityId row later).2
  | score {later} (earlier : ReadFrom result later) (row : Nat) :
      ReadFrom result (ResultSet.score row later).2

/- The answers of a result depend on nothing but the row, whatever was read before. -/
structure AnswersByRow (result : ρ) (ids : Nat → Except Fault EntityId)
    (scores : Nat → Except Fault Binary32) : Prop where
  entityId : ∀ later, ReadFrom result later → ∀ row, (ResultSet.entityId row later).1 = ids row
  score : ∀ later, ReadFrom result later → ∀ row, (ResultSet.score row later).1 = scores row

/- Reading hits changes nothing of them. -/
theorem readFromHits {hits later : Hits} (read : ReadFrom hits later) : later = hits := by
  induction read with
  | start => rfl
  | rowCount _ same => exact same
  | hasMore _ same => exact same
  | entityId _ row same => exact same
  | score _ row same => exact same

def heldIds {n : Nat} (results : Vector Hits n) (slot : Fin n) (row : Nat) : Except Fault EntityId :=
  (ResultSet.entityId row (results.get slot)).1

def heldScores {n : Nat} (results : Vector Hits n) (slot : Fin n) (row : Nat) :
    Except Fault Binary32 := (ResultSet.score row (results.get slot)).1

theorem hitsAnswerByRow {n : Nat} (results : Vector Hits n) (slot : Fin n) :
    AnswersByRow (results.get slot) (heldIds results slot) (heldScores results slot) where
  entityId later read row := by rw [readFromHits read, heldIds]
  score later read row := by rw [readFromHits read, heldScores]

end Result

namespace Federation

variable {ρ α : Type} {n : Nat} [ResultSet ρ]

/- What can become of a federation by reading its results. -/
structure Perused (set later : Federation ρ n) : Prop where
  closed : later.closed = set.closed
  columns : later.columns = set.columns
  rows : later.rows = set.rows
  results : ∀ slot, ReadFrom (set.results.get slot) (later.results.get slot)

theorem perusedStart (set : Federation ρ n) : Perused set set :=
  ⟨rfl, rfl, rfl, fun _ => .start⟩

/- A read of single results that has one answer for each slot. -/
structure Steady (set : Federation ρ n) (get : Access ρ α) (answer : Fin n → Except Fault α) :
    Prop where
  reads : ∀ result later, ReadFrom result later → ReadFrom result (get later).2
  answers : ∀ column ∈ set.columns, ∀ later, ReadFrom (set.results.get column.slot) later →
    (get later).1 = answer column.slot

variable {set : Federation ρ n} {get : Access ρ α} {answer : Fin n → Except Fault α}

theorem onResultAnswers (steady : Steady set get answer) {column : Column n}
    (member : column ∈ set.columns) :
    (onResult column.slot get).Answers (Perused set) (answer column.slot) := by
  intro later perused
  refine ⟨⟨perused.closed, perused.columns, perused.rows, fun other => ?_⟩, ?_⟩
  · simp only [onResult, onSlot, getSet]
    split
    · rename_i same
      rw [← same]
      exact steady.reads _ _ (perused.results column.slot)
    · exact perused.results other
  · exact steady.answers column member _ (perused.results column.slot)

omit [ResultSet ρ] in
theorem unjoinedOk {first : Column n} {rest : List (Column n)}
    (unjoined : Shape.of (first :: rest) ≠ some .join) {value : α}
    (answered : answer first.slot = .ok value) :
    ∀ other ∈ rest.map fun column => answer column.slot, other = .ok value := by
  intro other member
  obtain ⟨column, inside, rfl⟩ := List.mem_map.mp member
  rw [unjoinedSlots unjoined column inside, answered]

theorem rowCountPerused {count : Nat} (counted : (rowCount set).1 = .ok count) :
    (rowCount : Access (Federation ρ n) Nat).Gives (Perused set) count := by
  intro later perused
  rw [rowCountEq] at counted ⊢
  rw [perused.closed, perused.columns, perused.rows]
  exact ⟨perused, counted⟩

theorem checkRowPerused {count row : Nat} (counted : (rowCount set).1 = .ok count)
    (below : row < count) : (checkRow row).Gives (Perused set) () := by
  refine Access.givesBind (rowCountPerused counted) ?_
  rw [if_pos below]
  exact Access.givesPure ()

variable [DecidableEq α] {row : Nat} {what : Agreed}

theorem compareRestAnswers (steady : Steady set get answer) (value : α) {columns : List (Column n)}
    (among : ∀ column ∈ columns, column ∈ set.columns) :
    (compareRest row what get value columns).Answers (Perused set)
      (compareAll row what value (columns.map fun column => answer column.slot)) := by
  induction columns with
  | nil => exact Access.answersOk (Access.givesPure ())
  | cons column rest ih =>
    obtain ⟨here, later⟩ := List.forall_mem_cons.mp among
    refine Access.answersBind (onResultAnswers steady here) fun other _ => ?_
    split
    · exact ih later
    · exact Access.answersFail _

/- Selectors of one result answer alike, so that nothing is lost if they are not compared. -/
theorem agreedAnswers (steady : Steady set get answer) {count : Nat}
    (counted : (rowCount set).1 = .ok count) (below : row < count) :
    (agreed row what get).Answers (Perused set)
      (verdict row what (set.columns.map fun column => answer column.slot)) := by
  refine Access.answersAfter (checkRowPerused counted below) ?_
  refine Access.answersAfter (Access.givesLook fun _ perused => perused.columns) ?_
  cases known : set.columns with
  | nil => exact Access.answersFail _
  | cons first rest =>
    have among : ∀ column ∈ first :: rest, column ∈ set.columns := fun _ member => known ▸ member
    obtain ⟨here, later⟩ := List.forall_mem_cons.mp among
    have joined : (Access.look fun later : Federation ρ n =>
        decide (later.shape = some .join)).Gives (Perused set)
          (decide (Shape.of (first :: rest) = some .join)) :=
      Access.givesLook fun _ perused => by rw [shape, perused.columns, known]
    refine Access.answersBind (onResultAnswers steady here) fun value answered => ?_
    refine Access.answersAfter joined ?_
    split
    · refine Access.answersBind (compareRestAnswers steady value later) fun _ _ => ?_
      exact Access.answersOk (Access.givesPure value)
    · rename_i unjoined
      rw [compareAllOk.mpr (unjoinedOk (by simpa using unjoined) answered)]
      exact Access.answersOk (Access.givesPure value)

/- What a read that names no selector answers, given what each result answers. A fault of a
result stands for itself, unless the selectors have differed before it. -/
structure Resolved (row : Nat) (what : Agreed) (answer : Fin n → Except Fault α)
    (read : Access (Federation ρ n) α) (set : Federation ρ n) : Prop where
  value : ∀ value, (read set).1 = .ok value ↔
    ∀ column ∈ set.columns, answer column.slot = .ok value
  fault : ∀ fault, (read set).1 = .error fault ↔
    let answers := set.columns.map fun column => answer column.slot
    (Differs answers ∧ fault = .ambiguous row what) ∨
      (¬ Differs answers ∧ answers.findSome? faultOf? = some fault)
  comparing : (read set).1 =
    verdict row what (set.columns.map fun column => answer column.slot)
  permuted : (∀ column ∈ set.columns, ∃ value, answer column.slot = .ok value) →
    ∀ columns, columns.Perm set.columns →
      (read { set with columns := columns }).1 = (read set).1

omit [DecidableEq α] in
theorem steadyPermuted (steady : Steady set get answer) {columns : List (Column n)}
    (permuted : columns.Perm set.columns) :
    Steady { set with columns := columns } get answer :=
  ⟨steady.reads, fun column member => steady.answers column (permuted.mem_iff.mp member)⟩

omit [ResultSet ρ] in
theorem rowCountPermuted {columns : List (Column n)} (permuted : columns.Perm set.columns) :
    (rowCount { set with columns := columns }).1 = (rowCount set).1 := by
  have empty : columns = [] ↔ set.columns = [] :=
    ⟨fun none => (none ▸ permuted).nil_eq.symm, fun none => (none ▸ permuted).eq_nil⟩
  simp only [rowCountEq, empty]

theorem agreedResolved (steady : Steady set get answer) {count : Nat}
    (counted : (rowCount set).1 = .ok count) (below : row < count) :
    Resolved row what answer (agreed row what get) set := by
  have read {set : Federation ρ n} (steady : Steady set get answer)
      (counted : (rowCount set).1 = .ok count) : (agreed row what get set).1 =
        verdict row what (set.columns.map fun column => answer column.slot) :=
    (agreedAnswers steady counted below set (perusedStart set)).2
  have filled : set.columns.map (fun column => answer column.slot) ≠ [] := by
    intro none
    rw [rowCountEq, if_pos (List.map_eq_nil_iff.mp none)] at counted
    split at counted <;> contradiction
  refine ⟨fun value => ?_, fun fault => ?_, read steady counted, fun unfailing columns permuted => ?_⟩
  · rw [read steady counted, verdictOk filled]
    simp only [List.forall_mem_map]
  · rw [read steady counted]
    exact verdictFault filled
  · rw [read steady counted,
      read (steadyPermuted steady permuted) ((rowCountPermuted permuted).trans counted)]
    refine verdictPerm (permuted.map _) filled fun answer member => ?_
    obtain ⟨column, inside, rfl⟩ := List.mem_map.mp member
    exact unfailing column inside

theorem selectorsAgree {set : Federation ρ n} {ids : Fin n → Nat → Except Fault EntityId}
    {scores : Fin n → Nat → Except Fault Binary32}
    (steady : ∀ column ∈ set.columns,
      AnswersByRow (set.results.get column.slot) (ids column.slot) (scores column.slot))
    {count row : Nat} (counted : (rowCount set).1 = .ok count) (below : row < count) :
    Resolved row .entityId (fun slot => ids slot row) (entityId row) set ∧
      Resolved row .score (fun slot => scores slot row) (score row) set := by
  constructor
  · refine agreedResolved ⟨fun _ _ earlier => .entityId earlier row, ?_⟩ counted below
    exact fun column member later read => (steady column member).entityId later read row
  · refine agreedResolved ⟨fun _ _ earlier => .score earlier row, ?_⟩ counted below
    exact fun column member later read => (steady column member).score later read row

/- The first and the last selector share a result. The scores of the two results are no numbers,
and differ in their bits. -/
def oddScores : Federation Hits 2 :=
  { columns := [⟨"first", ⟨0, Nat.zero_lt_two⟩⟩, ⟨"middle", ⟨1, Nat.one_lt_two⟩⟩,
      ⟨"last", ⟨0, Nat.zero_lt_two⟩⟩]
    rows := 1
    options := {}
    lookup := Register.lookup {}
    results := #v[Hits.ofRows [⟨⟨"file"⟩, ⟨0x7fc00000⟩⟩] false,
      Hits.ofRows [⟨⟨"file"⟩, ⟨0x7fc00001⟩⟩] false] }

theorem oddScoresDiffer :
    (∀ column ∈ oddScores.columns, AnswersByRow (oddScores.results.get column.slot)
      (heldIds oddScores.results column.slot) (heldScores oddScores.results column.slot)) ∧
    (rowCount oddScores).1 = .ok 1 ∧ 0 < 1 ∧
    (entityId 0 oddScores).1 = .ok ⟨"file"⟩ ∧
    (score 0 oddScores).1 = .error (.ambiguous 0 .score) := by
  have steady : ∀ column ∈ oddScores.columns, AnswersByRow (oddScores.results.get column.slot)
      (heldIds oddScores.results column.slot) (heldScores oddScores.results column.slot) :=
    fun column _ => hitsAnswerByRow oddScores.results column.slot
  have counted : (rowCount oddScores).1 = .ok 1 := rfl
  obtain ⟨ids, scores⟩ := selectorsAgree steady counted Nat.zero_lt_one
  have differs : Differs (oddScores.columns.map fun column =>
      heldScores oddScores.results column.slot 0) :=
    ⟨⟨0x7fc00001⟩, List.mem_cons_self, by decide⟩
  refine ⟨steady, counted, Nat.zero_lt_one, (ids.value _).mpr (by decide), ?_⟩
  exact (scores.fault _).mpr (.inl ⟨differs, rfl⟩)

end Federation

end QueryFederation
