import QueryFederation.Json.Reader
import QueryFederation.Json.Writer
import QueryFederation.Json.WrittenNumber

/-! A tree is read back from its text, without blanks or over lines: both texts spell the tokens of
the tree, and the tokens make no other tree. -/
namespace QueryFederation.Json
open Number

theorem numberWriteHead (number : NumberText) : ∃ c cs, number.write = c :: cs ∧
    (c = '-' ∨ c.isDigit = true) := by
  cases negative : number.negative with
  | true => exact ⟨'-', _, by simp [NumberText.write, withSign, negative]; rfl, .inl rfl⟩
  | false =>
    obtain ⟨d, ds, same, digit⟩ := digitsHeadIsDigit number.whole
    exact ⟨d, _, by simp [NumberText.write, withSign, negative, same]; rfl, .inr digit⟩

def Token.mayPrecede (rest : List Char) : Token → Bool
  | .number _ => endsNumber rest
  | _ => true

theorem scanTokenNumber {c : Char} (cs : List Char) (head : c = '-' ∨ c.isDigit = true) :
    scanToken? (c :: cs) =
      (scanNumber? (c :: cs)).map fun (number, after) => (.number number, after) := by
  rw [scanToken?.eq_def]
  split
  case h_11 => rfl
  all_goals
    next same =>
    rw [(List.cons.inj same).1] at head
    exact absurd head (by decide)

theorem scanTokenWrite (token : Token) {rest : List Char}
    (follows : token.mayPrecede rest = true) :
    scanToken? (token.write ++ rest) = some (token, rest) := by
  cases token with
  | number value =>
    obtain ⟨c, cs, same, head⟩ := numberWriteHead value
    have scanned := scanNumberWrite value follows
    simp only [Token.write, same, List.cons_append] at scanned ⊢
    rw [scanTokenNumber _ head, scanned]
    rfl
  | text value =>
    obtain ⟨inside, same, scanned⟩ := scanTextQuote value rest
    simp only [Token.write]
    rw [same]
    simp [scanToken?, scanned]
  | bool value => cases value <;> rfl
  | _ => rfl

theorem tokenWriteHead (token : Token) : ∃ c cs, token.write = c :: cs ∧ isBlank c = false := by
  cases token with
  | number value =>
    obtain ⟨c, cs, same, head⟩ := numberWriteHead value
    refine ⟨c, cs, same, ?_⟩
    cases blank : isBlank c with
    | false => rfl
    | true =>
      simp only [isBlank, Bool.or_eq_true, beq_iff_eq] at blank
      rcases blank with ((rfl | rfl) | rfl) | rfl <;> exact absurd head (by decide)
  | text value => cases value <;> exact ⟨'"', _, rfl, rfl⟩
  | bool value => cases value <;> exact ⟨_, _, rfl, rfl⟩
  | _ => exact ⟨_, _, rfl, rfl⟩

/-- A text that consists of these tokens and of blanks. -/
inductive Spells : List Char → List Token → Prop where
  | nil : Spells [] []
  | blank {c cs tokens} (isBlank : isBlank c = true) (rest : Spells cs tokens) :
      Spells (c :: cs) tokens
  | token {cs tokens} (token : Token) (follows : token.mayPrecede cs = true)
      (rest : Spells cs tokens) : Spells (token.write ++ cs) (token :: tokens)

theorem scanTokensOfSpells {cs : List Char} {tokens : List Token} (spells : Spells cs tokens)
    {steps : Nat} (enough : cs.length < steps) : scanTokens? steps cs = some tokens := by
  induction spells generalizing steps with
  | nil =>
    cases steps with
    | zero => exact absurd enough (by simp)
    | succ steps => rfl
  | @blank c cs tokens blank rest ih =>
    have same := ih (Nat.lt_of_succ_lt enough)
    cases steps with
    | zero => exact absurd enough (by simp)
    | succ steps => simpa [scanTokens?, blank] using same
  | @token cs tokens token follows rest ih =>
    obtain ⟨c, front, same, visible⟩ := tokenWriteHead token
    have scanned := scanTokenWrite token follows
    cases steps with
    | zero => exact absurd enough (by simp)
    | succ steps =>
      rw [same] at scanned enough ⊢
      simp only [List.cons_append, List.length_cons, List.length_append] at scanned enough ⊢
      have others := ih (by omega : cs.length < steps)
      simp [scanTokens?, visible, scanned, others]

theorem tokensOfSpells {cs : List Char} {tokens : List Token} (spells : Spells cs tokens) :
    tokens? cs = some tokens := scanTokensOfSpells spells (Nat.lt_succ_self _)

theorem spellsNewLine (level : Nat) {cs : List Char} {tokens : List Token}
    (spells : Spells cs tokens) : Spells (newLine level ++ cs) tokens := by
  refine .blank rfl ?_
  induction 2 * level with
  | zero => exact spells
  | succ n ih => exact .blank rfl ih

mutual
theorem spellsWrite (tree : Tree) {cs : List Char} {tokens : List Token}
    (ends : endsNumber cs = true) (spells : Spells cs tokens) :
    Spells (tree.tokens.flatMap Token.write ++ cs) (tree.tokens ++ tokens) := by
  match tree with
  | .null => exact .token .null rfl spells
  | .bool value => simpa [Tree.tokens] using .token (.bool value) rfl spells
  | .number value => simpa [Tree.tokens] using .token (.number value) ends spells
  | .text value => simpa [Tree.tokens] using .token (.text value) rfl spells
  | .array items =>
    have last := Spells.token .arrayEnd rfl spells
    have inner := spellsItems items rfl last
    simpa [Tree.tokens] using Spells.token .arrayStart rfl inner
  | .object members =>
    have last := Spells.token .objectEnd rfl spells
    have inner := spellsMembers members rfl last
    simpa [Tree.tokens] using Spells.token .objectStart rfl inner

theorem spellsItems (items : List Tree) {cs : List Char} {tokens : List Token}
    (ends : endsNumber cs = true) (spells : Spells cs tokens) :
    Spells ((itemTokens items).flatMap Token.write ++ cs) (itemTokens items ++ tokens) := by
  match items with
  | [] => exact spells
  | [item] => exact spellsWrite item ends spells
  | item :: second :: rest =>
    have others := spellsItems (second :: rest) ends spells
    have comma := Spells.token .comma rfl others
    simpa [itemTokens] using spellsWrite item rfl comma

theorem spellsMembers (members : List (Option String × Tree)) {cs : List Char}
    {tokens : List Token} (ends : endsNumber cs = true) (spells : Spells cs tokens) :
    Spells ((memberTokens members).flatMap Token.write ++ cs) (memberTokens members ++ tokens) := by
  match members with
  | [] => exact spells
  | [(name, value)] =>
    have colon := Spells.token .colon rfl (spellsWrite value ends spells)
    simpa [memberTokens] using Spells.token (.text name) rfl colon
  | (name, value) :: second :: rest =>
    have others := spellsMembers (second :: rest) ends spells
    have comma := Spells.token .comma rfl others
    have colon := Spells.token .colon rfl (spellsWrite value rfl comma)
    simpa [memberTokens] using Spells.token (.text name) rfl colon
end


mutual
theorem spellsLayOut (tree : Tree) (level : Nat) {cs : List Char} {tokens : List Token}
    (ends : endsNumber cs = true) (spells : Spells cs tokens) :
    Spells (tree.layOut level ++ cs) (tree.tokens ++ tokens) := by
  match tree with
  | .array (item :: rest) =>
    have last := spellsNewLine level (.token .arrayEnd rfl spells)
    have inner := spellsNewLine (level + 1) (spellsLayOutItems (item :: rest) (level + 1) rfl last)
    simpa [Tree.tokens, Tree.layOut, Token.write] using Spells.token .arrayStart rfl inner
  | .object (member :: rest) =>
    have last := spellsNewLine level (.token .objectEnd rfl spells)
    have inner := spellsNewLine (level + 1)
      (spellsLayOutMembers (member :: rest) (level + 1) rfl last)
    simpa [Tree.tokens, Tree.layOut, Token.write] using Spells.token .objectStart rfl inner
  | .array [] => exact spellsWrite (.array []) ends spells
  | .object [] => exact spellsWrite (.object []) ends spells
  | .null => exact spellsWrite .null ends spells
  | .bool value => exact spellsWrite (.bool value) ends spells
  | .number value => exact spellsWrite (.number value) ends spells
  | .text value => exact spellsWrite (.text value) ends spells

theorem spellsLayOutItems (items : List Tree) (level : Nat) {cs : List Char}
    {tokens : List Token} (ends : endsNumber cs = true) (spells : Spells cs tokens) :
    Spells (layOutItems level items ++ cs) (itemTokens items ++ tokens) := by
  match items with
  | [] => exact spells
  | [item] => exact spellsLayOut item level ends spells
  | item :: second :: rest =>
    have others := spellsNewLine level (spellsLayOutItems (second :: rest) level ends spells)
    have comma := Spells.token .comma rfl others
    simpa [itemTokens, layOutItems, Token.write] using spellsLayOut item level rfl comma

theorem spellsLayOutMembers (members : List (Option String × Tree)) (level : Nat)
    {cs : List Char} {tokens : List Token} (ends : endsNumber cs = true)
    (spells : Spells cs tokens) :
    Spells (layOutMembers level members ++ cs) (memberTokens members ++ tokens) := by
  match members with
  | [] => exact spells
  | [(name, value)] =>
    have blank := Spells.blank (c := ' ') rfl (spellsLayOut value level ends spells)
    have colon := Spells.token .colon rfl blank
    simpa [memberTokens, layOutMembers, Token.write] using Spells.token (.text name) rfl colon
  | (name, value) :: second :: rest =>
    have others := spellsNewLine level (spellsLayOutMembers (second :: rest) level ends spells)
    have comma := Spells.token .comma rfl others
    have blank := Spells.blank (c := ' ') rfl (spellsLayOut value level rfl comma)
    have colon := Spells.token .colon rfl blank
    simpa [memberTokens, layOutMembers, Token.write] using Spells.token (.text name) rfl colon
end

theorem treeTokensHead (tree : Tree) : ∃ token tokens, tree.tokens = token :: tokens ∧
    token ≠ .arrayEnd ∧ token ≠ .objectEnd := by
  cases tree <;> exact ⟨_, _, rfl, by simp, by simp⟩

theorem scanTreeArray {steps : Nat} {token : Token} {tokens : List Token}
    (opens : token ≠ .arrayEnd) :
    scanTree? (steps + 1) (.arrayStart :: token :: tokens) =
      (scanItems? steps (token :: tokens)).map fun (items, after) => (.array items, after) := by
  rw [scanTree?.eq_def]
  split <;> simp_all

theorem scanTreeObject {steps : Nat} {token : Token} {tokens : List Token}
    (opens : token ≠ .objectEnd) :
    scanTree? (steps + 1) (.objectStart :: token :: tokens) =
      (scanMembers? steps (token :: tokens)).map fun (members, after) =>
        (.object members, after) := by
  rw [scanTree?.eq_def]
  split <;> simp_all

theorem itemTokensHead (item : Tree) (items : List Tree) : ∃ token tokens,
    itemTokens (item :: items) = token :: tokens ∧ token ≠ .arrayEnd := by
  obtain ⟨token, tokens, same, opens, _⟩ := treeTokensHead item
  cases items with
  | nil => exact ⟨token, tokens, same, opens⟩
  | cons second rest => exact ⟨token, _, by simp [itemTokens, same]; rfl, opens⟩

theorem memberTokensHead (name : Option String) (value : Tree)
    (members : List (Option String × Tree)) : ∃ tokens,
    memberTokens ((name, value) :: members) = .text name :: tokens := by
  cases members with
  | nil => exact ⟨_, rfl⟩
  | cons second rest => exact ⟨_, rfl⟩

mutual
theorem scanTreeTokens (tree : Tree) (rest : List Token) (steps : Nat)
    (enough : 2 * tree.tokens.length ≤ steps) :
    scanTree? steps (tree.tokens ++ rest) = some (tree, rest) := by
  match steps, tree with
  | 0, tree =>
    obtain ⟨token, tokens, same, _⟩ := treeTokensHead tree
    rw [same] at enough
    exact absurd enough (by simp)
  | steps + 1, .null => rfl
  | steps + 1, .bool value => rfl
  | steps + 1, .number value => rfl
  | steps + 1, .text value => rfl
  | steps + 1, .array [] => rfl
  | steps + 1, .object [] => rfl
  | steps + 1, .array (item :: items) =>
    simp only [Tree.tokens, List.length_append, List.length_cons, List.length_nil] at enough
    have scanned := scanItemsTokens item items rest steps (by omega)
    obtain ⟨token, tokens, same, opens⟩ := itemTokensHead item items
    simp only [Tree.tokens, List.append_assoc, List.cons_append, List.nil_append] at scanned ⊢
    rw [same] at scanned ⊢
    simp only [List.cons_append] at scanned ⊢
    rw [scanTreeArray opens, scanned]
    rfl
  | steps + 1, .object ((name, value) :: members) =>
    simp only [Tree.tokens, List.length_append, List.length_cons, List.length_nil] at enough
    have scanned := scanMembersTokens name value members rest steps (by omega)
    obtain ⟨tokens, same⟩ := memberTokensHead name value members
    simp only [Tree.tokens, List.append_assoc, List.cons_append, List.nil_append] at scanned ⊢
    rw [same] at scanned ⊢
    simp only [List.cons_append] at scanned ⊢
    rw [scanTreeObject (by simp), scanned]
    rfl

theorem scanItemsTokens (item : Tree) (items : List Tree) (rest : List Token) (steps : Nat)
    (enough : 2 * (itemTokens (item :: items)).length + 1 ≤ steps) :
    scanItems? steps (itemTokens (item :: items) ++ .arrayEnd :: rest) =
      some (item :: items, rest) := by
  match steps, items with
  | 0, _ => exact absurd enough (by simp)
  | steps + 1, [] =>
    have scanned := scanTreeTokens item (.arrayEnd :: rest) steps
      (by simp only [itemTokens] at enough; omega)
    simp [itemTokens, scanItems?, scanned]
  | steps + 1, second :: others =>
    simp only [itemTokens, List.length_append, List.length_cons] at enough
    have scanned := scanTreeTokens item
      (.comma :: itemTokens (second :: others) ++ .arrayEnd :: rest) steps (by omega)
    have following := scanItemsTokens second others rest steps (by omega)
    simp only [List.cons_append] at scanned
    simp [itemTokens, scanItems?, scanned, following]

theorem scanMembersTokens (name : Option String) (value : Tree)
    (members : List (Option String × Tree)) (rest : List Token) (steps : Nat)
    (enough : 2 * (memberTokens ((name, value) :: members)).length + 1 ≤ steps) :
    scanMembers? steps (memberTokens ((name, value) :: members) ++ .objectEnd :: rest) =
      some ((name, value) :: members, rest) := by
  match steps, members with
  | 0, _ => exact absurd enough (by simp)
  | steps + 1, [] =>
    simp only [memberTokens, List.length_cons] at enough
    have scanned := scanTreeTokens value (.objectEnd :: rest) steps (by omega)
    simp [memberTokens, scanMembers?, scanned]
  | steps + 1, (second, other) :: others =>
    simp only [memberTokens, List.length_append, List.length_cons] at enough
    have scanned := scanTreeTokens value
      (.comma :: memberTokens ((second, other) :: others) ++ .objectEnd :: rest) steps
      (by omega)
    have following := scanMembersTokens second other others rest steps (by omega)
    simp only [List.cons_append] at scanned
    simp [memberTokens, scanMembers?, scanned, following]
end

theorem ofTokensTokens (tree : Tree) : Tree.ofTokens? tree.tokens = some tree := by
  have scanned := scanTreeTokens tree [] _ (Nat.le_succ (2 * tree.tokens.length))
  rw [List.append_nil] at scanned
  simp [Tree.ofTokens?, scanned]

theorem spellsTokens (tree : Tree) : Spells (tree.tokens.flatMap Token.write) tree.tokens := by
  have spells : Spells (tree.tokens.flatMap Token.write ++ []) (tree.tokens ++ []) :=
    spellsWrite tree rfl .nil
  rwa [List.append_nil, List.append_nil] at spells

theorem spellsLines (tree : Tree) : Spells (tree.layOut 0) tree.tokens := by
  have spells : Spells (tree.layOut 0 ++ []) (tree.tokens ++ []) := spellsLayOut tree 0 rfl .nil
  rwa [List.append_nil, List.append_nil] at spells

/- Blanks make no difference. -/
theorem readSpelled {tree : Tree} {cs : List Char} (spells : Spells cs tree.tokens) :
    Tree.read? (String.ofList cs) = some tree := by
  simp [Tree.read?, tokensOfSpells spells, ofTokensTokens]

theorem readWrite (tree : Tree) : Tree.read? tree.write = some tree :=
  readSpelled (spellsTokens tree)

theorem readWriteLines (tree : Tree) : Tree.read? tree.writeLines = some tree :=
  readSpelled (spellsLines tree)

end QueryFederation.Json
