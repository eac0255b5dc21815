import QueryFederation.Proofs.Federation.RowReads

/-! A page shows a federation row by row. It is answered exactly if every single read that goes into
it succeeds, and it says of a row what the reads of this row answer. Selectors that differ leave a
gap, and are no fault. -/
namespace QueryFederation
open Entity Result Number

namespace Result

variable {ρ : Type} [ResultSet ρ]

/- The answers of a result are those of functions, whatever was read before. -/
structure AnswersAsFunction (result : ρ) (ids : Nat → Except Fault EntityId)
    (scores : Nat → Except Fault Binary32) (more : Except Fault Bool) : Prop
    extends AnswersByRow result ids scores where
  hasMore : ∀ later, ReadFrom result later → (ResultSet.hasMore later).1 = more

def heldMore {n : Nat} (results : Vector Hits n) (slot : Fin n) : Except Fault Bool :=
  (ResultSet.hasMore (results.get slot)).1

theorem hitsAnswerAsFunction {n : Nat} (results : Vector Hits n) (slot : Fin n) :
    AnswersAsFunction (results.get slot) (heldIds results slot) (heldScores results slot)
      (heldMore results slot) where
  toAnswersByRow := hitsAnswerByRow results slot
  hasMore later read := by rw [readFromHits read, heldMore]

end Result

namespace Federation

variable {ρ α : Type} {n : Nat}

/- What a page shows of an answer. -/
def unambiguous : Except Fault α → Except Fault (Option α)
  | .ok value => .ok (some value)
  | .error (.ambiguous _ _) => .ok none
  | .error fault => .error fault

theorem unlessAmbiguousAnswers {here : Federation ρ n → Prop} {access : Access (Federation ρ n) α}
    {answer : Except Fault α} (answers : access.Answers here answer) :
    (unlessAmbiguous access).Answers here (unambiguous answer) := by
  refine Access.answersAfter (Access.answersAttempt answers) ?_
  cases answer with
  | ok value => exact Access.answersOk (Access.givesPure (some value))
  | error fault =>
    cases fault with
    | ambiguous row what => exact Access.answersOk (Access.givesPure none)
    | _ => exact Access.answersFail _

/- What is shown of a value that the selectors may differ on: the value, or a gap. -/
structure Told (row : Nat) (what : Agreed) (answer : Except Fault α) (shown : Option α) : Prop where
  value : ∀ value, shown = some value ↔ answer = .ok value
  gap : shown = none ↔ answer = .error (.ambiguous row what)

section Verdicts
variable [DecidableEq α] {columns : List (Column n)} {answer : Column n → Except Fault α}

theorem verdictTold (row : Nat) (what : Agreed) (filled : columns ≠ [])
    (unfailing : ∀ column ∈ columns, ∃ value, answer column = .ok value) :
    ∃ shown, unambiguous (verdict row what (columns.map answer)) = .ok shown ∧
      Told row what (verdict row what (columns.map answer)) shown := by
  cases judged : verdict row what (columns.map answer) with
  | ok value => exact ⟨some value, rfl, by simp, by simp⟩
  | error fault =>
    cases verdictAmbiguous filled unfailing judged
    exact ⟨none, rfl, by simp, by simp⟩

end Verdicts

section Values
variable {columns : List (Column n)} {id : Column n → Except Fault EntityId}
  {score : Column n → Except Fault Binary32} {ids : List (String × EntityId)}
  {scores : List (String × Binary32)}

/- The values of a selector, under its name. -/
def Valued (id : Column n → Except Fault EntityId) (score : Column n → Except Fault Binary32)
    (column : Column n) (value : SelectorValue) : Prop :=
  value.selector = column.name ∧ id column = .ok value.entity ∧ score column = .ok value.score

/- Identities and scores that are read one after the other belong together. -/
theorem selectorValuesAligned
    (known : List.Forall₂ (fun column found => named id column = .ok found) columns ids)
    (valued : List.Forall₂ (fun column found => named score column = .ok found) columns scores) :
    List.Forall₂ (Valued id score) columns (selectorValues ids scores) := by
  induction known generalizing scores with
  | nil => exact .nil
  | cons first _ ih =>
    obtain _ | ⟨second, others⟩ := valued
    obtain ⟨name, answered⟩ := namedSucceeds.mp first
    obtain ⟨-, also⟩ := namedSucceeds.mp second
    exact .cons ⟨name, answered, also⟩ (ih others)

end Values

variable [ResultSet ρ] {set : Federation ρ n}

/- Whether there is more is known once a selector says so. -/
def moreAmong : List (Except Fault Bool) → Except Fault Bool
  | [] => .ok false
  | answer :: rest => do if ← answer then return true else moreAmong rest

theorem anyMoreAnswers {more : Fin n → Except Fault Bool}
    (steady : Steady set ResultSet.hasMore more) {columns : List (Column n)}
    (among : ∀ column ∈ columns, column ∈ set.columns) :
    (anyMore columns).Answers (Perused set)
      (moreAmong (columns.map fun column => more column.slot)) := by
  induction columns with
  | nil => exact Access.answersOk (Access.givesPure false)
  | cons column rest ih =>
    obtain ⟨here, later⟩ := List.forall_mem_cons.mp among
    refine Access.answersBind (onResultAnswers steady here) fun found _ => ?_
    cases found with
    | true => exact Access.answersOk (Access.givesPure true)
    | false => exact ih later

theorem hasMoreAnswers {more : Fin n → Except Fault Bool}
    (steady : Steady set ResultSet.hasMore more) (opened : set.closed = false) :
    (hasMore : Access (Federation ρ n) Bool).Answers (Perused set) (hasMore set).1 := by
  have answers : (hasMore : Access (Federation ρ n) Bool).Answers (Perused set)
      (moreAmong (set.columns.map fun column => more column.slot)) := by
    refine Access.answersAfter (ensureOpenPerused opened) ?_
    refine Access.answersAfter (Access.givesLook fun _ perused => perused.columns) ?_
    exact anyMoreAnswers steady fun _ member => member
  rw [(answers set (perusedStart set)).2]
  exact answers

section Page
variable {ids : Fin n → Nat → Except Fault EntityId} {scores : Fin n → Nat → Except Fault Binary32}
  {more : Fin n → Except Fault Bool}

/- All selectors of a federation answer as functions. -/
def AnswersAsFunctions (set : Federation ρ n) (ids : Fin n → Nat → Except Fault EntityId)
    (scores : Fin n → Nat → Except Fault Binary32) (more : Fin n → Except Fault Bool) : Prop :=
  ∀ column ∈ set.columns, AnswersAsFunction (set.results.get column.slot) (ids column.slot)
    (scores column.slot) (more column.slot)

section
variable (functions : AnswersAsFunctions set ids scores more)
include functions

theorem functionsByRow : ∀ column ∈ set.columns,
    AnswersByRow (set.results.get column.slot) (ids column.slot) (scores column.slot) :=
  fun column member => (functions column member).toAnswersByRow

theorem steadyMore : Steady set ResultSet.hasMore more where
  reads _ _ earlier := .hasMore earlier
  answers column member later read := (functions column member).hasMore later read

end

/- What a page shows of a row, from the answers of the selectors. -/
def rowShown (columns : List (Column n)) (ids : Fin n → Nat → Except Fault EntityId)
    (scores : Fin n → Nat → Except Fault Binary32) (row : Nat) : Except Fault PageRow := do
  let known ← columns.mapM (named fun column => ids column.slot row)
  let valued ← columns.mapM (named fun column => scores column.slot row)
  let entity ← unambiguous (verdict row .entityId (columns.map fun column => ids column.slot row))
  let score ← unambiguous (verdict row .score (columns.map fun column => scores column.slot row))
  return ⟨row, entity, score, selectorValues known valued⟩

variable (functions : AnswersAsFunctions set ids scores more) (opened : set.closed = false)
  (filled : set.columns ≠ [])

include functions opened filled

theorem pageRowAnswers {row : Nat} (below : row < set.rows) :
    (pageRow row).Answers (Perused set) (rowShown set.columns ids scores row) := by
  have counted := openCount opened filled
  have identities := steadyIds (functionsByRow functions) row
  have values := steadyScores (functionsByRow functions) row
  refine Access.answersBind (readAllAnswers opened identities) fun known _ => ?_
  refine Access.answersBind (readAllAnswers opened values) fun valued _ => ?_
  refine Access.answersBind (unlessAmbiguousAnswers (agreedAnswers identities counted below)) ?_
  intro entity _
  refine Access.answersBind (unlessAmbiguousAnswers (agreedAnswers values counted below)) ?_
  intro score _
  exact Access.answersOk (Access.givesPure (PageRow.mk row entity score _))

/- The page of a federation, from the answers of the selectors. -/
def pageShown (set : Federation ρ n) (ids : Fin n → Nat → Except Fault EntityId)
    (scores : Fin n → Nat → Except Fault Binary32) : Except Fault Page := do
  let rows ← (List.range set.rows).mapM (rowShown set.columns ids scores)
  let more ← (hasMore set).1
  return ⟨set.options.skip, rows.length, more, rows⟩

theorem pageAnswers : (page set).1 = pageShown set ids scores := by
  let here (later : Federation ρ n) : Prop := Perused set later ∧ later.outline = set.outline
  have known : here set := ⟨perusedStart set, rfl⟩
  have rows : ((List.range set.rows).mapM pageRow).Answers here
      ((List.range set.rows).mapM (rowShown set.columns ids scores)) := by
    refine Access.answersMapM fun row inside => ?_
    have below : row < set.rows := List.mem_range.mp inside
    exact Access.answersAlong (pageRowAnswers functions opened filled below)
      (pageRowKeeps readsKeepNothing row)
  have counted : (rowCount : Access (Federation ρ n) Nat).Gives here set.rows :=
    Access.answersAlong (Access.answersOk (rowCountPerused (openCount opened filled))) rowCountKeeps
  have more : (hasMore : Access (Federation ρ n) Bool).Answers here (hasMore set).1 :=
    Access.answersAlong (hasMoreAnswers (steadyMore functions) opened)
      (hasMoreKeeps readsKeepNothing)
  have skipped : (Access.look start).Gives here set.options.skip :=
    Access.givesLook fun _ same => congrArg (fun outline => outline.options.skip) same.2
  have whole : (page : Access (Federation ρ n) Page).Answers here (pageShown set ids scores) := by
    refine Access.answersAfter counted (Access.answersBind rows fun shown _ => ?_)
    refine Access.answersBind more fun left _ => Access.answersAfter skipped ?_
    exact Access.answersOk (Access.givesPure (Page.mk set.options.skip shown.length left shown))
  exact (whole set known).2

end Page

section Shown
variable {ids : Fin n → Nat → Except Fault EntityId} {scores : Fin n → Nat → Except Fault Binary32}
  {more : Fin n → Except Fault Bool}

/- Every selector can be read in a row. -/
def Readable (columns : List (Column n)) (ids : Fin n → Nat → Except Fault EntityId)
    (scores : Fin n → Nat → Except Fault Binary32) (row : Nat) : Prop :=
  ∀ column ∈ columns, (∃ id, ids column.slot row = .ok id) ∧
    ∃ score, scores column.slot row = .ok score

/- What a page says of a row is what the reads of this row answer. -/
structure ShowsRow (set : Federation ρ n) (ids : Fin n → Nat → Except Fault EntityId)
    (scores : Fin n → Nat → Except Fault Binary32) (row : Nat) (shown : PageRow) : Prop where
  number : shown.row = row
  selectors : List.Forall₂
    (Valued (fun column => ids column.slot row) fun column => scores column.slot row)
    set.columns shown.selectors
  entity : Told row .entityId (entityId row set).1 shown.entity
  score : Told row .score (score row set).1 shown.score

/- What a page says of a federation. -/
structure ShowsAll (set : Federation ρ n) (ids : Fin n → Nat → Except Fault EntityId)
    (scores : Fin n → Nat → Except Fault Binary32) (page : Page) : Prop where
  start : page.start = set.start
  count : (rowCount set).1 = .ok page.count
  length : page.rows.length = page.count
  more : (hasMore set).1 = .ok page.more
  rows : List.Forall₂ (ShowsRow set ids scores) (List.range page.count) page.rows

/- A row is shown exactly if every selector can be read in it. -/
theorem rowShownSucceeds {columns : List (Column n)} (filled : columns ≠ []) (row : Nat) :
    (∃ shown, rowShown columns ids scores row = .ok shown) ↔ Readable columns ids scores row := by
  constructor
  · rintro ⟨shown, answered⟩
    obtain ⟨known, first, more⟩ := bindSucceeds.mp answered
    obtain ⟨valued, second, -⟩ := bindSucceeds.mp more
    intro column member
    exact ⟨namedAll.mp ⟨known, first⟩ column member, namedAll.mp ⟨valued, second⟩ column member⟩
  · intro readable
    have identified := fun column member => (readable column member).1
    have scored := fun column member => (readable column member).2
    obtain ⟨known, first⟩ := namedAll.mpr identified
    obtain ⟨valued, second⟩ := namedAll.mpr scored
    obtain ⟨entity, third, -⟩ := verdictTold row .entityId filled identified
    obtain ⟨score, fourth, -⟩ := verdictTold row .score filled scored
    refine ⟨⟨row, entity, score, selectorValues known valued⟩, ?_⟩
    simp only [rowShown, first, second, third, fourth]
    rfl

section
variable (functions : AnswersAsFunctions set ids scores more) (opened : set.closed = false)
  (filled : set.columns ≠ [])
include functions opened filled

theorem rowShownTells {row : Nat} (below : row < set.rows) {shown : PageRow}
    (answered : rowShown set.columns ids scores row = .ok shown) :
    ShowsRow set ids scores row shown := by
  have byRow := functionsByRow functions
  have readable := (rowShownSucceeds filled row).mp ⟨shown, answered⟩
  obtain ⟨entity, told, one⟩ :=
    verdictTold row .entityId filled fun column member => (readable column member).1
  obtain ⟨score, also, other⟩ :=
    verdictTold row .score filled fun column member => (readable column member).2
  obtain ⟨known, first, more⟩ := bindSucceeds.mp answered
  obtain ⟨valued, second, more⟩ := bindSucceeds.mp more
  rw [told, also] at more
  cases more
  refine ⟨rfl, selectorValuesAligned (mapSucceeds.mp first) (mapSucceeds.mp second), ?_, ?_⟩
  · rw [entityIdVerdict byRow opened filled below]
    exact one
  · rw [scoreVerdict byRow opened filled below]
    exact other

theorem pageShownTells {shown : Page} (answered : pageShown set ids scores = .ok shown) :
    ShowsAll set ids scores shown := by
  obtain ⟨rows, each, rest⟩ := bindSucceeds.mp answered
  obtain ⟨left, told, built⟩ := bindSucceeds.mp rest
  cases built
  have numbered := mapSucceeds.mp each
  have length : rows.length = set.rows := by
    rw [← numbered.length_eq, List.length_range]
  refine ⟨rfl, ?_, rfl, told, ?_⟩
  · rw [openCount opened filled, length]
  · rw [length]
    refine List.forall₂_iff_zip.mpr ⟨numbered.length_eq, fun {row _} member => ?_⟩
    have inside : row < set.rows := List.mem_range.mp (List.of_mem_zip member).1
    exact rowShownTells functions opened filled inside (List.forall₂_zip numbered member)

/- A page is refused for nothing but a read that fails, and is otherwise the federation as its
single reads show it. -/
theorem pagePointwise :
    ((∃ shown, (page set).1 = .ok shown) ↔
      (∀ row < set.rows, Readable set.columns ids scores row) ∧
        ∃ left, (hasMore set).1 = .ok left) ∧
    ∀ shown, (page set).1 = .ok shown → ShowsAll set ids scores shown := by
  rw [pageAnswers functions opened filled]
  refine ⟨?_, fun shown answered => pageShownTells functions opened filled answered⟩
  have rows : (∃ rows, (List.range set.rows).mapM (rowShown set.columns ids scores) = .ok rows) ↔
      ∀ row < set.rows, Readable set.columns ids scores row := by
    simp only [mapAllSucceed, List.mem_range, rowShownSucceeds filled]
  rw [← rows]
  constructor
  · rintro ⟨shown, answered⟩
    obtain ⟨rows, each, rest⟩ := bindSucceeds.mp answered
    obtain ⟨left, told, -⟩ := bindSucceeds.mp rest
    exact ⟨⟨rows, each⟩, left, told⟩
  · rintro ⟨⟨rows, each⟩, left, told⟩
    refine ⟨⟨set.options.skip, rows.length, left, rows⟩, ?_⟩
    simp only [pageShown, each, told]
    rfl

end

def halfAgreed : Federation Hits 2 :=
  { columns := trio
    rows := 2
    options := { skip := 7 }
    lookup := Register.lookup {}
    results := trioResults }

def halfAgreedPage : Page :=
  { start := 7
    count := 2
    more := true
    rows := [
      ⟨0, some ⟨"a"⟩, none, [⟨"first", ⟨"a"⟩, ⟨0⟩⟩, ⟨"middle", ⟨"a"⟩, ⟨1⟩⟩, ⟨"last", ⟨"a"⟩, ⟨0⟩⟩]⟩,
      ⟨1, none, some ⟨5⟩, [⟨"first", ⟨"b"⟩, ⟨5⟩⟩, ⟨"middle", ⟨"c"⟩, ⟨5⟩⟩, ⟨"last", ⟨"b"⟩, ⟨5⟩⟩]⟩] }

theorem halfAgreedShown :
    AnswersAsFunctions halfAgreed (heldIds halfAgreed.results) (heldScores halfAgreed.results)
      (heldMore halfAgreed.results) ∧
    halfAgreed.closed = false ∧ halfAgreed.columns ≠ [] ∧
    (page halfAgreed).1 = .ok halfAgreedPage ∧
    (∀ row < 2, Readable halfAgreed.columns (heldIds halfAgreed.results)
      (heldScores halfAgreed.results) row) ∧
    ShowsAll halfAgreed (heldIds halfAgreed.results) (heldScores halfAgreed.results)
      halfAgreedPage := by
  have functions : AnswersAsFunctions halfAgreed (heldIds halfAgreed.results)
      (heldScores halfAgreed.results) (heldMore halfAgreed.results) :=
    fun column _ => hitsAnswerAsFunction halfAgreed.results column.slot
  have filled : halfAgreed.columns ≠ [] := List.cons_ne_nil _ _
  have answered : (page halfAgreed).1 = .ok halfAgreedPage := by cbv
  obtain ⟨succeeds, tells⟩ := pagePointwise functions rfl filled
  obtain ⟨readable, -⟩ := succeeds.mp ⟨halfAgreedPage, answered⟩
  exact ⟨functions, rfl, filled, answered, readable, tells halfAgreedPage answered⟩

end Shown

end Federation

end QueryFederation
