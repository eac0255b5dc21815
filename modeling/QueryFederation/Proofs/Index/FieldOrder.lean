import QueryFederation.Index.Leaves
import QueryFederation.Proofs.Order

/-! The fields of a query stand in the order in which its leaves first read them. How the clauses are
nested makes no difference. -/
namespace QueryFederation.Index.Query

/- One clause, here or further down, is replaced by a Boolean query with this clause only. -/
inductive Wraps : Query → Query → Prop where
  | here (before after : List (Occur × Query)) (clause : Occur × Query) (occur : Occur)
      (minimum least : Nat) :
      Wraps (.boolean (before ++ clause :: after) minimum)
        (.boolean (before ++ (occur, .boolean [clause] least) :: after) minimum)
  | deeper (before after : List (Occur × Query)) (occur : Occur) (minimum : Nat)
      {query other : Query} (inner : Wraps query other) :
      Wraps (.boolean (before ++ (occur, query) :: after) minimum)
        (.boolean (before ++ (occur, other) :: after) minimum)

theorem usesWrapped {query other : Query} (wraps : query.Wraps other) : other.uses = query.uses := by
  induction wraps with
  | here before after clause occur minimum least => simp [usesBoolean]
  | deeper before after occur minimum inner same => simp [usesBoolean, same]

mutual
/- What is found so far goes through the whole query, from one leaf to the next. -/
theorem gatherFieldsEq (found : List String) (query : Query) :
    gatherFields found query = Order.distinctFrom found query.uses := by
  match query with
  | .matchAll => rfl
  | .term field _ | .phrase field _ | .wildcard field _ | .range field _ _ | .present field => rfl
  | .boolean clauses minimum =>
    rw [usesBoolean]
    exact gatherClauseFieldsEq found clauses

theorem gatherClauseFieldsEq (found : List String) (clauses : List (Occur × Query)) :
    gatherClauseFields found clauses =
      Order.distinctFrom found (clauses.flatMap fun clause => clause.2.uses) := by
  match clauses with
  | [] => rfl
  | (occur, query) :: rest =>
    rw [gatherClauseFields, gatherClauseFieldsEq _ rest, gatherFieldsEq found query,
      List.flatMap_cons, Order.distinctFromAppend]
end

theorem fieldsDistinct (query : Query) : query.fields = Order.distinct query.uses :=
  gatherFieldsEq [] query

theorem memFields {query : Query} {name : String} : name ∈ query.fields ↔ name ∈ query.uses := by
  rw [fieldsDistinct, Order.memDistinct]

theorem fieldsInOrder (query : Query) :
    query.fields = (query.leaves.filterMap field?).eraseDups ∧
      (∀ name, name ∈ query.fields ↔ ∃ leaf ∈ query.leaves, leaf.field? = some name) ∧
      query.fields.Nodup ∧ ∀ other, query.Wraps other → other.fields = query.fields := by
  refine ⟨?_, fun name => ?_, ?_, fun other wraps => ?_⟩
  · rw [fieldsDistinct, Order.distinctEq]
    rfl
  · rw [memFields, uses, List.mem_filterMap]
  · rw [fieldsDistinct]
    exact Order.nodupDistinct _
  · rw [fieldsDistinct, fieldsDistinct, usesWrapped wraps]

def filedWith (excluded : Occur × Query) : Query :=
  .boolean [(.should, .term "b" "1"), (.must, .boolean [(.must, .matchAll), excluded] 0),
    (.mustNot, .boolean [] 0), (.must, .phrase "b" ["2", "3"])] 0

/- The wrapped clause stands two levels down, and a field is read again after it. -/
theorem filedInOrder :
    (filedWith (.mustNot, .present "a")).Wraps
        (filedWith (.must, .boolean [(.mustNot, .present "a")] 1)) ∧
      (filedWith (.mustNot, .present "a")).fields = ["b", "a"] ∧
      (filedWith (.must, .boolean [(.mustNot, .present "a")] 1)).fields = ["b", "a"] := by
  have wraps : (filedWith (.mustNot, .present "a")).Wraps
      (filedWith (.must, .boolean [(.mustNot, .present "a")] 1)) :=
    .deeper [(.should, .term "b" "1")] [(.mustNot, .boolean [] 0), (.must, .phrase "b" ["2", "3"])]
      .must 0 (.here [(.must, .matchAll)] [] (.mustNot, .present "a") .must 0 1)
  have listed : (filedWith (.mustNot, .present "a")).fields = ["b", "a"] := by decide
  obtain ⟨-, -, -, unchanged⟩ := fieldsInOrder (filedWith (.mustNot, .present "a"))
  exact ⟨wraps, listed, (unchanged _ wraps).trans listed⟩

end QueryFederation.Index.Query
