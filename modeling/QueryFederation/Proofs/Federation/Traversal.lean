import QueryFederation.Proofs.Federation.Outline

/-! Traversals of a federation. Whatever is done in between, the advances of one cursor answer the
rows in their order, each of them once. After the last row they answer nothing more; on a closed
set they fail once in place of the rows that are left. -/
namespace QueryFederation
open Entity Result Number

namespace Federation

abbrev Item : Type := Option (Except Fault RowView)

/- What the advances of one cursor answered. -/
def Event.itemOf? (number : Nat) : Event → Option Item
  | ⟨.advance other, .ok item⟩ => if other = number then some item else none
  | _ => none

def items (number : Nat) (events : List Event) : List Item :=
  events.filterMap (Event.itemOf? number)

def advances (number : Nat) (operations : List Operation) : Nat :=
  operations.count (.advance number)

theorem advancesSelf (number : Nat) (rest : List Operation) :
    advances number (.advance number :: rest) = advances number rest + 1 := List.count_cons_self

theorem advancesOther {number : Nat} {operation : Operation} (other : operation ≠ .advance number)
    (rest : List Operation) : advances number (operation :: rest) = advances number rest :=
  List.count_cons_of_ne other

def beforeClose (operations : List Operation) : List Operation :=
  operations.takeWhile fun operation => operation ≠ .close

def fromClose (operations : List Operation) : List Operation :=
  operations.dropWhile fun operation => operation ≠ .close

/- Advances while the set is open, from a position on. -/
def rowItems (rows position count : Nat) : List Item :=
  (List.range' position count).map fun row => if row < rows then some (.ok ⟨row⟩) else none

/- Advances once the set is closed. Only the first one has something to say, and only if there
were rows left. -/
def closedItems (left : Bool) : Nat → List Item
  | 0 => []
  | count + 1 => (if left then some (.error .closed) else none) :: List.replicate count none

theorem rowItemsSucc (rows position count : Nat) :
    rowItems rows position (count + 1) =
      (if position < rows then some (.ok ⟨position⟩) else none) ::
        rowItems rows (position + 1) count := by
  rw [rowItems, List.range'_succ, List.map_cons]
  rfl

theorem closedItemsSucc (left : Bool) (count : Nat) :
    closedItems left (count + 1) =
      (if left then some (.error .closed) else none) :: closedItems false count := by
  cases count <;> rfl

section
variable {ρ : Type} {n : Nat} {set : Federation ρ n}

theorem advanceOpen (opened : set.closed = false) (position rows : Nat) :
    (Cursor.mk (min position rows) rows).advance set =
      (if position < rows then some (.ok ⟨position⟩) else none,
        ⟨min (position + 1) rows, rows⟩) := by
  unfold Cursor.advance
  by_cases inside : position < rows
  · have least : min position rows = position := by omega
    have next : min (position + 1) rows = position + 1 := by omega
    simp [inside, least, opened]
  · have least : min position rows = rows := by omega
    have next : min (position + 1) rows = rows := by omega
    simp [inside, least, next]

theorem advanceClosed (closed : set.closed = true) (cursor : Cursor) :
    (cursor.advance set).1 = (if cursor.next < cursor.stop then some (.error .closed) else none) ∧
      ¬ (cursor.advance set).2.next < (cursor.advance set).2.stop := by
  unfold Cursor.advance
  by_cases left : cursor.next < cursor.stop
  · have unfinished : ¬ cursor.stop ≤ cursor.next := by omega
    simp [left, unfinished, closed]
  · have finished : cursor.stop ≤ cursor.next := by omega
    simp [left, finished]

theorem advanceInside {cursor : Cursor} (inside : cursor.next ≤ cursor.stop) :
    (cursor.advance set).2.next ≤ (cursor.advance set).2.stop := by
  unfold Cursor.advance
  split
  · exact inside
  split
  · exact Nat.le_refl _
  · simp only
    omega

/- Every item is paid for with a row that was still to come. -/
theorem advanceSpends (set : Federation ρ n) (cursor : Cursor) :
    (if (cursor.advance set).1.isSome then 1 else 0) +
        ((cursor.advance set).2.stop - (cursor.advance set).2.next) ≤
      cursor.stop - cursor.next := by
  unfold Cursor.advance
  split
  · simp
  split
  · simp only [Option.isSome_some, if_true]
    omega
  · simp only [Option.isSome_some, if_true]
    omega

end

namespace Session

variable {ρ : Type} {n : Nat} [ResultSet ρ] {session : Session ρ n} {number : Nat} {cursor : Cursor}

theorem openCursorEq (session : Session ρ n) :
    perform .openCursor session =
      if session.set.closed then (.error .closed, session)
      else if session.set.columns = [] then (.error .emptyFederation, session)
      else
        (.ok session.cursors.length,
          { session with cursors := session.cursors ++ [⟨0, session.set.rows⟩] }) := by
  simp only [perform, onSet, Federation.cursor, Access.bindApply, rowCountEq]
  cases session.set.closed with
  | true => rfl
  | false =>
    by_cases none : session.set.columns = []
    · simp only [none, if_true, Bool.false_eq_true, if_false]
      rfl
    · simp only [none, Bool.false_eq_true, if_false]
      rfl

theorem advanceHeld (held : session.cursors[number]? = some cursor) :
    perform (.advance number) session =
      (.ok (cursor.advance session.set).1,
        { session with
          cursors := session.cursors.set number (cursor.advance session.set).2 }) := by
  simp only [perform, advanceCursor, held]
  rfl

/- The step lemmas: an operation moves a cursor only if it advances this one, and only then does
it answer an item of its traversal. -/
theorem performCursor (held : session.cursors[number]? = some cursor) (operation : Operation) :
    (perform operation session).2.cursors[number]? =
      some (if operation = .advance number then (cursor.advance session.set).2 else cursor) := by
  by_cases advances : operation = .advance number
  · subst advances
    have inside : number < session.cursors.length := (List.getElem?_eq_some_iff.mp held).1
    rw [advanceHeld held, if_pos rfl]
    exact List.getElem?_set_self inside
  rw [if_neg advances]
  cases operation with
  | openCursor =>
    have inside : number < session.cursors.length := (List.getElem?_eq_some_iff.mp held).1
    rw [openCursorEq]
    split
    · exact held
    split
    · exact held
    · exact (List.getElem?_append_left inside).trans held
  | advance other =>
    have apart : other ≠ number := fun same => advances (congrArg Operation.advance same)
    cases moved : session.cursors[other]? with
    | none =>
      simp only [perform, advanceCursor, moved]
      exact held
    | some next =>
      rw [advanceHeld moved]
      exact (List.getElem?_set_ne apart).trans held
  | _ => exact held

theorem performItem (held : session.cursors[number]? = some cursor) (operation : Operation) :
    Event.itemOf? number ⟨operation, (perform operation session).1⟩ =
      if operation = .advance number then some (cursor.advance session.set).1 else none := by
  by_cases advances : operation = .advance number
  · subst advances
    rw [advanceHeld held, if_pos rfl]
    exact if_pos rfl
  rw [if_neg advances]
  cases operation with
  | advance other =>
    have apart : other ≠ number := fun same => advances (congrArg Operation.advance same)
    cases answer : (perform (.advance other) session).1 with
    | error fault => rfl
    | ok item => exact if_neg apart
  | _ => rfl

theorem itemsCons (held : session.cursors[number]? = some cursor) (operation : Operation)
    (rest : List Operation) :
    items number (run (operation :: rest) session).1 =
      (if operation = .advance number then [(cursor.advance session.set).1] else []) ++
        items number (run rest (perform operation session).2).1 := by
  change items number (⟨operation, (perform operation session).1⟩ :: _) = _
  rw [items, List.filterMap_cons, performItem held]
  by_cases advancing : operation = .advance number
  · simp only [if_pos advancing]
    rfl
  · simp only [if_neg advancing]
    rfl

theorem stillClosed (closed : session.set.closed = true) (operation : Operation) :
    (perform operation session).2.set.closed = true := by
  have outline := congrArg Federation.closed (performOutline operation session)
  split at outline
  · exact outline
  · exact outline.trans closed

theorem stillOpen (opened : session.set.closed = false) {operation : Operation}
    (read : operation ≠ .close) : (perform operation session).2.set.closed = false := by
  have outline := congrArg Federation.closed (performOutline operation session)
  rw [if_neg read] at outline
  exact outline.trans opened

/- The run lemmas: what the advances of a cursor answer in all that is done later. -/
theorem closedRun (operations : List Operation) (closed : session.set.closed = true)
    (held : session.cursors[number]? = some cursor) :
    items number (run operations session).1 =
      closedItems (cursor.next < cursor.stop) (advances number operations) := by
  induction operations generalizing session cursor with
  | nil => rfl
  | cons operation rest ih =>
    have later := stillClosed closed operation
    have after := performCursor held operation
    rw [itemsCons held]
    by_cases advancing : operation = .advance number
    · obtain ⟨item, ended⟩ := advanceClosed closed cursor
      rw [if_pos advancing] at after
      rw [if_pos advancing, ih later after, advancing, advancesSelf, closedItemsSucc, item,
        decide_eq_false ended]
      simp only [decide_eq_true_eq]
      rfl
    · rw [if_neg advancing] at after
      rw [if_neg advancing, ih later after, advancesOther advancing]
      rfl

theorem openRun (operations : List Operation) {position rows : Nat}
    (opened : session.set.closed = false)
    (held : session.cursors[number]? = some ⟨min position rows, rows⟩) :
    items number (run operations session).1 =
      rowItems rows position (advances number (beforeClose operations)) ++
        closedItems (position + advances number (beforeClose operations) < rows)
          (advances number (fromClose operations)) := by
  induction operations generalizing session position with
  | nil => rfl
  | cons operation rest ih =>
    rw [itemsCons held]
    have after := performCursor held operation
    by_cases closing : operation = .close
    · subst closing
      have closed : (perform .close session).2.set.closed = true :=
        runClosed [.close] session List.mem_cons_self
      have left : min position rows < rows ↔ position < rows := by omega
      rw [if_neg (by simp)] at after
      rw [closedRun rest closed after]
      simp [beforeClose, fromClose, advances, rowItems, left]
    · have later := stillOpen opened closing
      have before : beforeClose (operation :: rest) = operation :: beforeClose rest := by
        simp [beforeClose, closing]
      have last : fromClose (operation :: rest) = fromClose rest := by
        simp [fromClose, closing]
      rw [before, last]
      by_cases advancing : operation = .advance number
      · rw [if_pos advancing, advanceOpen opened] at after
        rw [if_pos advancing, advanceOpen opened, ih later after, advancing]
        have place : ∀ count, position + 1 + count = position + (count + 1) := by omega
        simp only [advancesSelf, rowItemsSucc, place]
        rfl
      · rw [if_neg advancing] at after
        rw [if_neg advancing, ih later after, advancesOther advancing]
        rfl

theorem itemsWithin (operations : List Operation)
    (held : session.cursors[number]? = some cursor) :
    (items number (run operations session).1).countP Option.isSome ≤ cursor.stop - cursor.next := by
  induction operations generalizing session cursor with
  | nil => exact Nat.zero_le _
  | cons operation rest ih =>
    have later := ih (performCursor held operation)
    rw [itemsCons held, List.countP_append]
    by_cases advancing : operation = .advance number
    · have spends := advanceSpends session.set cursor
      simp only [if_pos advancing] at later ⊢
      rw [List.countP_singleton]
      omega
    · simp only [if_neg advancing] at later ⊢
      simpa using later

theorem performInside (inside : ∀ cursor ∈ session.cursors, cursor.next ≤ cursor.stop)
    (operation : Operation) :
    ∀ cursor ∈ (perform operation session).2.cursors, cursor.next ≤ cursor.stop := by
  cases operation with
  | openCursor =>
    rw [openCursorEq]
    split
    · exact inside
    split
    · exact inside
    · intro cursor member
      rcases List.mem_append.mp member with before | new
      · exact inside cursor before
      · rw [List.mem_singleton.mp new]
        exact Nat.zero_le _
  | advance number =>
    cases held : session.cursors[number]? with
    | none =>
      simp only [perform, advanceCursor, held]
      exact inside
    | some moved =>
      rw [advanceHeld held]
      intro cursor member
      rcases List.mem_or_eq_of_mem_set member with before | rfl
      · exact inside cursor before
      · exact advanceInside (inside moved (List.mem_of_getElem? held))
  | _ => exact inside

theorem runInside (operations : List Operation)
    (inside : ∀ cursor ∈ session.cursors, cursor.next ≤ cursor.stop) :
    ∀ cursor ∈ (run operations session).2.cursors, cursor.next ≤ cursor.stop := by
  induction operations generalizing session with
  | nil => exact inside
  | cons operation rest ih => exact ih (performInside inside operation)

theorem openedRun (operations : List Operation)
    (opens : (perform .openCursor session).1 = .ok number) :
    items number (run operations (perform .openCursor session).2).1 =
      rowItems session.set.rows 0 (advances number (beforeClose operations)) ++
        closedItems (advances number (beforeClose operations) < session.set.rows)
          (advances number (fromClose operations)) := by
  rw [openCursorEq] at opens ⊢
  split at opens
  · contradiction
  split at opens
  · contradiction
  rename_i opened filled
  cases opens
  rw [if_neg opened, if_neg filled]
  let after : Session ρ n := { session with cursors := session.cursors ++ [⟨0, session.set.rows⟩] }
  have held : after.cursors[session.cursors.length]? =
      some ⟨min 0 session.set.rows, session.set.rows⟩ := by simp [after]
  have still : after.set.closed = false := by simpa using opened
  simpa only [Nat.zero_add] using openRun operations still held

theorem advanceAlone (session : Session ρ n) (number : Nat) :
    (perform (.advance number) session).2.set = session.set ∧
      ∀ other, other ≠ number →
        (perform (.advance number) session).2.cursors[other]? = session.cursors[other]? := by
  cases held : session.cursors[number]? with
  | none => simp [perform, advanceCursor, held]
  | some cursor =>
    rw [advanceHeld held]
    exact ⟨rfl, fun other apart => List.getElem?_set_ne apart.symm⟩

theorem cursorsTraverse (set : Federation ρ n) (operations : List Operation) :
    let session := (run operations (start set)).2
    (session.set.closed = false → set.columns ≠ [] →
      (perform .openCursor session).1 = .ok session.cursors.length) ∧
    (∀ number : Nat, (perform .openCursor session).1 = .ok number → ∀ later,
      items number (run later (perform .openCursor session).2).1 =
        rowItems set.rows 0 (advances number (beforeClose later)) ++
          closedItems (advances number (beforeClose later) < set.rows)
            (advances number (fromClose later))) ∧
    (∀ number, (perform (.advance number) session).2.set = session.set ∧
      ∀ other, other ≠ number →
        (perform (.advance number) session).2.cursors[other]? = session.cursors[other]?) ∧
    ∀ number cursor, session.cursors[number]? = some cursor →
      cursor.next ≤ cursor.stop ∧ ∀ later,
        (items number (run later session).1).countP Option.isSome ≤ cursor.sizeHint.2 := by
  intro session
  have columns : session.set.columns = set.columns := runColumns operations (start set)
  have rows : session.set.rows = set.rows := runRows operations (start set)
  refine ⟨fun opened filled => ?_, fun number opens later => ?_, advanceAlone session, ?_⟩
  · rw [openCursorEq, opened, columns, if_neg Bool.false_ne_true, if_neg filled]
  · rw [openedRun later opens, rows]
  · intro number cursor held
    have inside : ∀ cursor ∈ session.cursors, cursor.next ≤ cursor.stop :=
      runInside operations fun _ member => nomatch member
    exact ⟨inside cursor (List.mem_of_getElem? held), fun later => itemsWithin later held⟩

def twoRows : Federation Hits 1 :=
  { columns := [⟨"only", 0⟩]
    rows := 2
    options := {}
    lookup := Register.lookup {}
    results := #v[Hits.ofRows [⟨⟨"one"⟩, ⟨0⟩⟩, ⟨⟨"two"⟩, ⟨0⟩⟩] false] }

/- The second cursor is opened when the first one has a row behind it. The set is closed while
both have rows left. -/
theorem twoRowsTraversed :
    let session := (run [.openCursor, .advance 0] (start twoRows)).2
    let later : List Operation := [.advance 1, .advance 0, .close, .advance 1, .advance 1]
    session.set.closed = false ∧ twoRows.columns ≠ [] ∧
      (perform .openCursor session).1 = .ok (1 : Nat) ∧
      items 1 (run later (perform .openCursor session).2).1 =
        [some (.ok ⟨0⟩), some (.error .closed), none] ∧
      (1 ≠ 0 ∧ (perform (.advance 0) session).2.cursors[1]? = session.cursors[1]?) ∧
      session.cursors[0]? = some ⟨1, 2⟩ ∧
      (items 0 (run later session).1).countP Option.isSome ≤ 1 := by
  intro session later
  obtain ⟨opens, traverses, alone, within⟩ :=
    cursorsTraverse twoRows [.openCursor, .advance 0]
  have filled : twoRows.columns ≠ [] := List.cons_ne_nil _ _
  have opened : (perform .openCursor session).1 = .ok (1 : Nat) := opens rfl filled
  refine ⟨rfl, filled, opened, traverses 1 opened later, ⟨by decide, ?_⟩, rfl, ?_⟩
  · exact (alone 0).2 1 (by decide)
  · exact (within 0 ⟨1, 2⟩ rfl).2 later

end Session

end Federation

end QueryFederation
