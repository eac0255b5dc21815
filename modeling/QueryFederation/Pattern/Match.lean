import QueryFederation.Pattern.Glob

/-! Which texts match a pattern. The wildcard syntax of the index spells every pattern: a pattern
written in it is read back as it was. -/
namespace QueryFederation.Pattern

inductive Matches : List Piece → List Char → Prop where
  | nil : Matches [] []
  | anyRun {ps s} (skipped : List Char) (rest : Matches ps s) :
      Matches (.anyRun :: ps) (skipped ++ s)
  | anyOne {ps s} (c : Char) (rest : Matches ps s) : Matches (.anyOne :: ps) (c :: s)
  | char {ps s} (c : Char) (rest : Matches ps s) : Matches (.char c :: ps) (c :: s)

/- Reads a pattern in the wildcard syntax. A backslash makes the next character stand for itself;
at the end it stands for itself. -/
def ofWildcard : List Char → List Piece
  | [] => []
  | ['\\'] => [.char '\\']
  | '\\' :: c :: rest => .char c :: ofWildcard rest
  | '*' :: rest => .anyRun :: ofWildcard rest
  | '?' :: rest => .anyOne :: ofWildcard rest
  | c :: rest => .char c :: ofWildcard rest

theorem ofWildcardPlain {c : Char} (rest : List Char) (plain : isReserved c = false) :
    ofWildcard (c :: rest) = .char c :: ofWildcard rest := by
  simp only [isReserved, Bool.or_eq_false_iff, beq_eq_false_iff_ne] at plain
  obtain ⟨⟨star, mark⟩, slash⟩ := plain
  rw [ofWildcard.eq_def]
  split <;> simp_all

theorem ofWildcardEscaped (c : Char) (rest : List Char) :
    ofWildcard ('\\' :: c :: rest) = .char c :: ofWildcard rest := by
  simp [ofWildcard]

theorem ofWildcardAppend (p : Piece) (rest : List Char) :
    ofWildcard (p.toWildcard ++ rest) = p :: ofWildcard rest := by
  cases p with
  | anyRun => simp [Piece.toWildcard, ofWildcard]
  | anyOne => simp [Piece.toWildcard, ofWildcard]
  | char c =>
    by_cases reserved : isReserved c = true
    · simp [Piece.toWildcard, reserved, ofWildcardEscaped]
    · simp [Piece.toWildcard, reserved, ofWildcardPlain]

theorem ofWildcardToWildcard (ps : List Piece) : ofWildcard (toWildcard ps) = ps := by
  induction ps with
  | nil => rfl
  | cons p rest ih =>
    rw [toWildcard, List.flatMap_cons, ofWildcardAppend]
    exact congrArg (p :: ·) ih

theorem matchesCharIff {c : Char} {ps : List Piece} {s : List Char} :
    Matches (.char c :: ps) s ↔ ∃ rest, s = c :: rest ∧ Matches ps rest := by
  constructor
  · intro h
    cases h with
    | char c rest => exact ⟨_, rfl, rest⟩
  · rintro ⟨rest, rfl, h⟩
    exact .char c h

theorem matchesAnyOneIff {ps : List Piece} {s : List Char} :
    Matches (.anyOne :: ps) s ↔ ∃ c rest, s = c :: rest ∧ Matches ps rest := by
  constructor
  · intro h
    cases h with
    | anyOne c rest => exact ⟨c, _, rfl, rest⟩
  · rintro ⟨c, rest, rfl, h⟩
    exact .anyOne c h

theorem matchesAnyRunIff {ps : List Piece} {s : List Char} :
    Matches (.anyRun :: ps) s ↔ ∃ skipped rest, s = skipped ++ rest ∧ Matches ps rest := by
  constructor
  · intro h
    cases h with
    | anyRun skipped rest => exact ⟨skipped, _, rfl, rest⟩
  · rintro ⟨skipped, rest, rfl, h⟩
    exact .anyRun skipped h

end QueryFederation.Pattern
