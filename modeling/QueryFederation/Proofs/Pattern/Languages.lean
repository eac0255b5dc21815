import Mathlib.Data.List.Induction
import QueryFederation.Pattern.Match

/-! What patterns mean as they are written. LIKE patterns and those of the index differ in the
characters that stand for others, and share the backslash. A LIKE pattern is converted into one that
matches the same texts. -/
namespace QueryFederation.Pattern

/- Which texts a pattern matches where `run` stands for any number of characters and `one` for one
character. A backslash makes the next character stand for itself. All else stands for itself, also a
backslash at the end. -/
inductive MatchesWritten (run one : Char) : List Char → List Char → Prop where
  | nil : MatchesWritten run one [] []
  | anyRun {p s} (skipped : List Char) (rest : MatchesWritten run one p s) :
      MatchesWritten run one (run :: p) (skipped ++ s)
  | anyOne {p s} (c : Char) (rest : MatchesWritten run one p s) :
      MatchesWritten run one (one :: p) (c :: s)
  | escaped {p s} (c : Char) (rest : MatchesWritten run one p s) :
      MatchesWritten run one ('\\' :: c :: p) (c :: s)
  | lastSlash : MatchesWritten run one ['\\'] ['\\']
  | plain {p s} {c : Char} (noRun : c ≠ run) (noOne : c ≠ one) (noSlash : c ≠ '\\')
      (rest : MatchesWritten run one p s) : MatchesWritten run one (c :: p) (c :: s)

def MatchesLike (pattern s : String) : Prop := MatchesWritten '%' '_' pattern.toList s.toList

def MatchesWildcard (pattern s : String) : Prop := MatchesWritten '*' '?' pattern.toList s.toList

/- A reader of patterns that takes each piece for what it is written for. -/
structure Reads (run one : Char) (read : List Char → List Piece) : Prop where
  nil : read [] = []
  anyRun : ∀ rest, read (run :: rest) = .anyRun :: read rest
  anyOne : ∀ rest, read (one :: rest) = .anyOne :: read rest
  escaped : ∀ c rest, read ('\\' :: c :: rest) = .char c :: read rest
  lastSlash : read ['\\'] = [.char '\\']
  plain : ∀ c rest, c ≠ run → c ≠ one → c ≠ '\\' → read (c :: rest) = .char c :: read rest

section
variable {run one : Char} {read : List Char → List Piece} (reads : Reads run one read)
include reads

theorem writtenMatches {p s : List Char} (matched : MatchesWritten run one p s) :
    Matches (read p) s := by
  induction matched with
  | nil =>
    rw [reads.nil]
    exact .nil
  | anyRun skipped _ ih =>
    rw [reads.anyRun]
    exact .anyRun skipped ih
  | anyOne c _ ih =>
    rw [reads.anyOne]
    exact .anyOne c ih
  | escaped c _ ih =>
    rw [reads.escaped]
    exact .char c ih
  | lastSlash =>
    rw [reads.lastSlash]
    exact .char '\\' .nil
  | plain noRun noOne noSlash _ ih =>
    rw [reads.plain _ _ noRun noOne noSlash]
    exact .char _ ih

/- A character other than the backslash is read by itself. -/
theorem matchesFirst {c : Char} (noSlash : c ≠ '\\') {p s : List Char}
    (rest : ∀ {s}, Matches (read p) s → MatchesWritten run one p s)
    (matched : Matches (read (c :: p)) s) : MatchesWritten run one (c :: p) s := by
  by_cases anyRun : c = run
  · subst anyRun
    rw [reads.anyRun, matchesAnyRunIff] at matched
    obtain ⟨skipped, later, rfl, more⟩ := matched
    exact .anyRun skipped (rest more)
  by_cases anyOne : c = one
  · subst anyOne
    rw [reads.anyOne, matchesAnyOneIff] at matched
    obtain ⟨d, later, rfl, more⟩ := matched
    exact .anyOne d (rest more)
  rw [reads.plain c p anyRun anyOne noSlash, matchesCharIff] at matched
  obtain ⟨later, rfl, more⟩ := matched
  exact .plain anyRun anyOne noSlash (rest more)

theorem matchesWritten {p s : List Char} (matched : Matches (read p) s) :
    MatchesWritten run one p s := by
  induction p using List.twoStepInduction generalizing s with
  | nil =>
    rw [reads.nil] at matched
    cases matched
    exact .nil
  | singleton c =>
    by_cases slash : c = '\\'
    · subst slash
      rw [reads.lastSlash, matchesCharIff] at matched
      obtain ⟨later, rfl, more⟩ := matched
      cases more
      exact .lastSlash
    · refine matchesFirst reads slash (fun more => ?_) matched
      rw [reads.nil] at more
      cases more
      exact .nil
  | cons_cons c d rest beyond next =>
    by_cases slash : c = '\\'
    · subst slash
      rw [reads.escaped, matchesCharIff] at matched
      obtain ⟨later, rfl, more⟩ := matched
      exact .escaped d (beyond more)
    · exact matchesFirst reads slash (next d) matched

theorem writtenIff {p s : List Char} : MatchesWritten run one p s ↔ Matches (read p) s :=
  ⟨writtenMatches reads, matchesWritten reads⟩

end

theorem ofLikeReads : Reads '%' '_' ofLike where
  nil := rfl
  anyRun rest := by simp [ofLike]
  anyOne rest := by simp [ofLike]
  escaped c rest := by simp [ofLike]
  lastSlash := rfl
  plain c rest noRun noOne noSlash := by
    rw [ofLike.eq_def]
    split <;> simp_all

theorem ofWildcardReads : Reads '*' '?' ofWildcard where
  nil := rfl
  anyRun rest := by simp [ofWildcard]
  anyOne rest := by simp [ofWildcard]
  escaped := ofWildcardEscaped
  lastSlash := rfl
  plain c rest noRun noOne noSlash :=
    ofWildcardPlain rest (by simp [isReserved, noRun, noOne, noSlash])

/- What a character of a LIKE pattern becomes is never read together with what comes after it. -/
theorem likeLanguageKept (pattern s : String) :
    MatchesLike pattern s ↔ MatchesWildcard (likeToWildcard pattern) s := by
  have converted : ofWildcard (likeToWildcard pattern).toList = ofLike pattern.toList := by
    rw [likeToWildcard, String.toList_ofList, ofWildcardToWildcard]
  rw [MatchesLike, MatchesWildcard, writtenIff ofLikeReads, writtenIff ofWildcardReads, converted]

end QueryFederation.Pattern
