import Mathlib
import QueryFederation.Pattern.Lowered
import QueryFederation.Proofs.Unicode.CaseMapping

/-! Which patterns still match in lower case. A text that matches a pattern matches the lowered one in
lower case, whatever the text, exactly if what stands beside each capital sigma of the pattern
decides its form. -/
namespace QueryFederation.Pattern
open Unicode

section Characters

/- The characters with a meaning in patterns have no case and are no marks. -/
theorem reservedCases {c : Char} (reserved : isReserved c = true) :
    c = '*' ∨ c = '?' ∨ c = '\\' := by
  simpa [isReserved, or_assoc] using reserved

theorem reservedLowers {c : Char} (reserved : isReserved c = true) : lowerChar c = [c] := by
  obtain rfl | rfl | rfl := reservedCases reserved <;> decide

theorem reservedCaseless {c : Char} (reserved : isReserved c = true) :
    isCaseIgnorable c = false ∧ isCased c = false := by
  obtain rfl | rfl | rfl := reservedCases reserved <;> decide

theorem reservedWithheld {c : Char} (reserved : isReserved c = true) :
    c.toNat ≠ 0 ∧ c.toNat ∉ givenPoints lowerRuns lowerExpansions := by
  obtain rfl | rfl | rfl := reservedCases reserved <;> decide +kernel

/- No other character becomes one of them. -/
theorem lowersPlain {c : Char} (plain : isReserved c = false) :
    ∀ d ∈ lowerChar c, isReserved d = false := by
  intro d made
  by_contra special
  have reserved := Bool.not_eq_false _ ▸ special
  have other : c ≠ d := by
    rintro rfl
    exact special plain
  obtain ⟨nonzero, withheld⟩ := reservedWithheld reserved
  exact mappedApart nonzero withheld other made

theorem lowersSingly {c : Char} (undotted : c ≠ 'İ') : ∃ d, lowerChar c = [d] := by
  generalize same : lowerChar c = mapped
  cases mapPointMaps same with
  | listed member =>
    have point : c.toNat = 0x0130 := congrArg Prod.fst (List.mem_singleton.mp member)
    exact absurd (Char.toNat_inj.mp point) undotted
  | given _ _ => exact ⟨_, rfl⟩
  | kept => exact ⟨_, rfl⟩

theorem meetsCons (c : Char) (rest : List Char) :
    meetsCased (c :: rest) = if isCaseIgnorable c then meetsCased rest else isCased c := by
  unfold meetsCased
  rw [List.dropWhile_cons]
  split <;> simp_all

theorem meetsReserved {c : Char} (reserved : isReserved c = true) (rest : List Char) :
    meetsCased (c :: rest) = false := by
  obtain ⟨mark, cased⟩ := reservedCaseless reserved
  simp [meetsCons, mark, cased]

theorem sigmaPlain (before after : List Piece) : isReserved (sigmaAmong before after) = false := by
  unfold sigmaAmong
  split <;> decide

end Characters

section Writing

theorem writtenPlain {cs : List Char} (plain : ∀ c ∈ cs, isReserved c = false) :
    toWildcard (cs.map .char) = cs := by
  induction cs with
  | nil => rfl
  | cons c rest ih =>
    obtain ⟨first, others⟩ := List.forall_mem_cons.mp plain
    rw [List.map_cons, toWildcard, List.flatMap_cons, ← toWildcard, ih others]
    simp [Piece.toWildcard, first]

theorem writtenAppend (ps qs : List Piece) :
    toWildcard (ps ++ qs) = toWildcard ps ++ toWildcard qs := List.flatMap_append

theorem writtenCons (p : Piece) (ps : List Piece) :
    toWildcard (p :: ps) = p.toWildcard ++ toWildcard ps := List.flatMap_cons

theorem meetsWritten (ps : List Piece) :
    meetsCased (toWildcard ps) = (meetsCased? ps).getD false := by
  induction ps with
  | nil => rfl
  | cons p rest ih =>
    rw [writtenCons]
    cases p with
    | anyRun => exact meetsReserved rfl _
    | anyOne => exact meetsReserved rfl _
    | char c =>
      cases reserved : isReserved c with
      | true =>
        obtain ⟨mark, cased⟩ := reservedCaseless reserved
        have slash : isReserved '\\' = true := rfl
        simp [Piece.toWildcard, reserved, meetsCased?, mark, cased, meetsReserved slash]
      | false =>
        simp only [Piece.toWildcard, reserved, meetsCased?, Bool.false_eq_true, if_false,
          List.singleton_append, meetsCons, ih]
        split <;> rfl

/- What stands before, nearest first, ends with the piece itself also where it is written with a
backslash. -/
theorem meetsWrittenBefore {before : List Piece} {b : List Char}
    (same : meetsCased b = (meetsCased? before).getD false) (p : Piece) :
    meetsCased (p.toWildcard.reverse ++ b) = (meetsCased? (p :: before)).getD false := by
  cases p with
  | anyRun => exact meetsReserved rfl _
  | anyOne => exact meetsReserved rfl _
  | char c =>
    cases reserved : isReserved c with
    | true =>
      obtain ⟨mark, cased⟩ := reservedCaseless reserved
      simp [Piece.toWildcard, reserved, meetsCased?, mark, cased, meetsReserved]
    | false =>
      simp only [Piece.toWildcard, reserved, meetsCased?, Bool.false_eq_true, if_false,
        List.reverse_singleton, List.singleton_append, meetsCons, same]
      split <;> rfl

theorem sigmaWritten {before : List Piece} {b : List Char}
    (same : meetsCased b = (meetsCased? before).getD false) (after : List Piece) :
    sigma b (toWildcard after) = sigmaAmong before after := by
  rw [sigma, sigmaAmong, same, meetsWritten]

theorem lowerReserved {c : Char} (reserved : isReserved c = true) (b rest : List Char) :
    lowerFrom b (c :: rest) = c :: lowerFrom (c :: b) rest := by
  have other : c ≠ 'Σ' := by
    rintro rfl
    contradiction
  rw [lowerFrom, if_neg other, reservedLowers reserved, List.singleton_append]

theorem lowerFirst {before : List Piece} {b : List Char}
    (same : meetsCased b = (meetsCased? before).getD false) (p : Piece) (rest : List Piece) :
    lowerFrom b (p.toWildcard ++ toWildcard rest) =
      toWildcard (p.lowered before rest) ++
        lowerFrom (p.toWildcard.reverse ++ b) (toWildcard rest) := by
  cases p with
  | anyRun => exact lowerReserved rfl _ _
  | anyOne => exact lowerReserved rfl _ _
  | char c =>
    cases reserved : isReserved c with
    | true =>
      have slash : isReserved '\\' = true := rfl
      have other : c ≠ 'Σ' := by
        rintro rfl
        contradiction
      simp [Piece.toWildcard, Piece.lowered, toWildcard, reserved, other, reservedLowers,
        lowerReserved slash, lowerReserved reserved]
    | false =>
      have written : (Piece.char c).toWildcard = [c] := by simp [Piece.toWildcard, reserved]
      rw [written, List.singleton_append, lowerFrom, Piece.lowered, List.reverse_singleton,
        List.singleton_append, sigmaWritten same, writtenPlain]
      split
      · exact List.forall_mem_singleton.mpr (sigmaPlain before rest)
      · exact lowersPlain reserved

/- To lower a pattern as it is written is to lower its pieces. -/
theorem lowerWritten (ps : List Piece) {before : List Piece} {b : List Char}
    (same : meetsCased b = (meetsCased? before).getD false) :
    lowerFrom b (toWildcard ps) = toWildcard (lowerPiecesFrom before ps) := by
  induction ps generalizing before b with
  | nil => rfl
  | cons p rest ih =>
    rw [writtenCons, lowerFirst same, ih (meetsWrittenBefore same p), lowerPiecesFrom,
      writtenAppend]

theorem readLowered (ps : List Piece) : ofWildcard (lower (toWildcard ps)) = lowerPieces ps := by
  have start : meetsCased [] = (meetsCased? []).getD false := rfl
  rw [lower, lowerWritten ps start, ofWildcardToWildcard, lowerPieces]

end Writing

section Matching
variable {ps : List Piece} {s : List Char}

theorem singlyMatches (matched : MatchesSingly ps s) : Matches ps s := by
  induction matched with
  | nil => exact .nil
  | anyRun skipped _ ih => exact .anyRun skipped ih
  | anyOne c _ _ ih => exact .anyOne c ih
  | char c _ ih => exact .char c ih

theorem matchesLiteral (cs : List Char) (rest : Matches ps s) :
    Matches (cs.map .char ++ ps) (cs ++ s) := by
  induction cs with
  | nil => exact rest
  | cons c others ih => exact .char c ih

/- What is known of a side of the pattern is right of the text. -/
def Tells (side : Option Bool) (cs : List Char) : Prop :=
  ∀ cased, side = some cased → meetsCased cs = cased

theorem tellsNothing (cs : List Char) : Tells none cs := fun _ known => nomatch known

theorem tellsCons {before : List Piece} {b : List Char} (tells : Tells (meetsCased? before) b)
    (c : Char) : Tells (meetsCased? (.char c :: before)) (c :: b) := by
  intro cased known
  rw [meetsCased?] at known
  rw [meetsCons]
  split at known
  · rename_i mark
    rw [if_pos mark]
    exact tells cased known
  · rename_i plain
    rw [if_neg plain]
    exact Option.some.inj known

theorem matchesTell (matched : Matches ps s) : Tells (meetsCased? ps) s := by
  induction matched with
  | nil => exact fun _ known => Option.some.inj known
  | anyRun skipped _ _ => exact tellsNothing _
  | anyOne c _ _ => exact tellsNothing _
  | char c _ ih => exact tellsCons ih c

theorem settledSigma {before after : List Piece} {b s : List Char}
    (settled : Settled (meetsCased? before) (meetsCased? after))
    (left : Tells (meetsCased? before) b) (right : Tells (meetsCased? after) s) :
    sigmaAmong before after = sigma b s := by
  unfold sigmaAmong sigma
  generalize meetsCased? before = before at settled left
  generalize meetsCased? after = after at settled right
  cases settled with
  | starts => simp [left false rfl]
  | goesOn => simp [right true rfl]
  | ends => simp [left true rfl, right false rfl]

theorem lowerFromSkips (b skipped s : List Char) :
    ∃ front, lowerFrom b (skipped ++ s) = front ++ lowerFrom (skipped.reverse ++ b) s := by
  induction skipped generalizing b with
  | nil => exact ⟨[], rfl⟩
  | cons c rest ih =>
    obtain ⟨front, split⟩ := ih (c :: b)
    rw [List.cons_append, lowerFrom, split, ← List.append_assoc, List.reverse_cons,
      List.append_assoc rest.reverse [c] b, List.singleton_append]
    exact ⟨_, rfl⟩

theorem settledNil (before : List Piece) : SettledAfter before [] := by simp [SettledAfter]

/- A pattern is settled piece by piece. -/
theorem settledCons {before : List Piece} {p : Piece} :
    SettledAfter before (p :: ps) ↔
      (p = .char 'Σ' → Settled (meetsCased? before) (meetsCased? ps)) ∧
        SettledAfter (p :: before) ps := by
  constructor
  · intro settled
    constructor
    · rintro rfl
      exact settled [] ps rfl
    · rintro front back rfl
      have here := settled (p :: front) back rfl
      rwa [List.reverse_cons, List.append_assoc, List.singleton_append] at here
  · rintro ⟨here, rest⟩ front back split
    cases front with
    | nil =>
      cases split
      exact here rfl
    | cons q others =>
      cases split
      have there := rest others back rfl
      rwa [List.reverse_cons, List.append_assoc, List.singleton_append]

/- The text stays aligned with the pattern as it was. -/
theorem loweredMatches (matched : MatchesSingly ps s) {before : List Piece} {b : List Char}
    (tells : Tells (meetsCased? before) b) (settled : SettledAfter before ps) :
    Matches (lowerPiecesFrom before ps) (lowerFrom b s) := by
  induction matched generalizing before b with
  | nil => exact .nil
  | anyRun skipped rest ih =>
    obtain ⟨front, split⟩ := lowerFromSkips b skipped _
    rw [split]
    exact .anyRun front (ih (tellsNothing _) (settledCons.mp settled).2)
  | @anyOne ps s c undotted rest ih =>
    have alone : ∃ d, (if c = 'Σ' then [sigma b s] else lowerChar c) = [d] := by
      split
      · exact ⟨_, rfl⟩
      · exact lowersSingly undotted
    obtain ⟨d, same⟩ := alone
    rw [lowerFrom, same]
    exact .anyOne d (ih (tellsNothing _) (settledCons.mp settled).2)
  | @char ps s c rest ih =>
    have next := ih (tellsCons tells c) (settledCons.mp settled).2
    have same : (if c = 'Σ' then [sigmaAmong before ps] else lowerChar c) =
        if c = 'Σ' then [sigma b s] else lowerChar c := by
      split
      · rename_i capital
        subst capital
        have right := matchesTell (singlyMatches rest)
        rw [settledSigma ((settledCons.mp settled).1 rfl) tells right]
      · rfl
    rw [lowerPiecesFrom, Piece.lowered, lowerFrom, same]
    exact matchesLiteral _ next

end Matching

section Unsettled

/- Places are filled with one character each. -/
inductive Filled : List Piece → List Char → Prop where
  | nil : Filled [] []
  | place {p ps s} (c : Char) (wild : p = .anyRun ∨ p = .anyOne) (neutral : c = 'a' ∨ c = ' ')
      (rest : Filled ps s) : Filled (p :: ps) (c :: s)
  | char {ps s} (c : Char) (rest : Filled ps s) : Filled (.char c :: ps) (c :: s)

def Piece.literal? : Piece → Option Char
  | .char c => some c
  | _ => none

def fillWith (filler : Char) (ps : List Piece) : List Char :=
  ps.map fun p => p.literal?.getD filler

def isSigma (c : Char) : Bool := c == 'σ' || c == 'ς'

/- The small sigmas among the characters that stand for themselves. -/
def sigmas (ps : List Piece) : List Char := (ps.filterMap Piece.literal?).filter isSigma

variable {ps front back : List Piece} {s t fs bs : List Char}

theorem sigmasMatched (matched : Matches ps t) : (sigmas ps).Sublist (t.filter isSigma) := by
  unfold sigmas
  refine List.Sublist.filter _ ?_
  induction matched with
  | nil => exact .slnil
  | anyRun skipped _ ih => exact ih.trans (List.sublist_append_right _ _)
  | anyOne c _ ih => exact ih.cons c
  | char c _ ih => exact ih.cons_cons c

theorem filledWith {filler : Char} (neutral : filler = 'a' ∨ filler = ' ') (ps : List Piece) :
    Filled ps (fillWith filler ps) := by
  induction ps with
  | nil => exact .nil
  | cons p rest ih =>
    cases p with
    | anyRun => exact .place filler (.inl rfl) neutral ih
    | anyOne => exact .place filler (.inr rfl) neutral ih
    | char c => exact .char c ih

theorem filledAppend (left : Filled front fs) (right : Filled ps s) :
    Filled (front ++ ps) (fs ++ s) := by
  induction left with
  | nil => exact right
  | place c wild neutral _ ih => exact .place c wild neutral ih
  | char c _ ih => exact .char c ih

theorem neutralLowers {c : Char} (neutral : c = 'a' ∨ c = ' ') : lowerChar c = [c] := by
  obtain rfl | rfl := neutral <;> decide +kernel

theorem filledMatches (filled : Filled ps s) : MatchesSingly ps s := by
  induction filled with
  | nil => exact .nil
  | place c wild neutral _ ih =>
    obtain rfl | rfl := wild
    · exact .anyRun [c] ih
    · refine .anyOne c ?_ ih
      obtain rfl | rfl := neutral <;> decide
  | char c _ ih => exact .char c ih

theorem meetsFilled {filler : Char} (counts : isCaseIgnorable filler = false) (ps : List Piece) :
    meetsCased (fillWith filler ps) = (meetsCased? ps).getD (isCased filler) := by
  induction ps with
  | nil => rfl
  | cons p rest ih =>
    rw [fillWith, List.map_cons, ← fillWith, meetsCons]
    cases p with
    | anyRun => simp [counts, meetsCased?, Piece.literal?]
    | anyOne => simp [counts, meetsCased?, Piece.literal?]
    | char c =>
      rw [meetsCased?, ih, Piece.literal?, Option.getD_some]
      split <;> rfl

theorem sigmasAppend (ps qs : List Piece) : sigmas (ps ++ qs) = sigmas ps ++ sigmas qs := by
  rw [sigmas, List.filterMap_append, List.filter_append, sigmas, sigmas]

theorem sigmasLiteral (cs : List Char) : sigmas (cs.map .char) = cs.filter isSigma := by
  have chars : (cs.map Piece.char).filterMap Piece.literal? = cs := by
    rw [List.filterMap_map]
    exact List.filterMap_some
  rw [sigmas, chars]

theorem sigmaIsSigma (b s : List Char) : isSigma (sigma b s) = true := by
  unfold sigma
  split <;> rfl

theorem sigmaAmongIsSigma (before after : List Piece) :
    isSigma (sigmaAmong before after) = true := by
  unfold sigmaAmong
  split <;> rfl

section Places
variable {before : List Piece} {b : List Char}

theorem wildSigmas {p : Piece} (wild : p = .anyRun ∨ p = .anyOne) :
    sigmas (lowerPiecesFrom before (p :: ps)) = sigmas (lowerPiecesFrom (p :: before) ps) := by
  rw [lowerPiecesFrom, sigmasAppend]
  obtain rfl | rfl := wild <;> rfl

theorem neutralSigmas {c : Char} (neutral : c = 'a' ∨ c = ' ') :
    (lowerFrom b (c :: s)).filter isSigma = (lowerFrom (c :: b) s).filter isSigma := by
  have plain : c ≠ 'Σ' ∧ isSigma c = false := by obtain rfl | rfl := neutral <;> decide
  rw [lowerFrom, if_neg plain.1, neutralLowers neutral, List.filter_append]
  simp [plain.2]

theorem capitalInPattern :
    sigmas (lowerPiecesFrom before (.char 'Σ' :: ps)) =
      sigmaAmong before ps :: sigmas (lowerPiecesFrom (.char 'Σ' :: before) ps) := by
  rw [lowerPiecesFrom, sigmasAppend, Piece.lowered, sigmasLiteral]
  simp [sigmaAmongIsSigma]

theorem capitalInText :
    (lowerFrom b ('Σ' :: s)).filter isSigma =
      sigma b s :: (lowerFrom ('Σ' :: b) s).filter isSigma := by
  rw [lowerFrom, List.filter_append]
  simp [sigmaIsSigma]

/- A character becomes equally many small sigmas in the pattern and in the text. -/
theorem charSigmas (c : Char) :
    ∃ one other, one.length = other.length ∧
      sigmas (lowerPiecesFrom before (.char c :: ps)) =
        one ++ sigmas (lowerPiecesFrom (.char c :: before) ps) ∧
      (lowerFrom b (c :: s)).filter isSigma = other ++ (lowerFrom (c :: b) s).filter isSigma := by
  by_cases capital : c = 'Σ'
  · subst capital
    exact ⟨[sigmaAmong before ps], [sigma b s], rfl, capitalInPattern, capitalInText⟩
  · refine ⟨(lowerChar c).filter isSigma, _, rfl, ?_, ?_⟩
    · rw [lowerPiecesFrom, sigmasAppend, Piece.lowered, if_neg capital, sigmasLiteral]
    · rw [lowerFrom, if_neg capital, List.filter_append]

theorem sigmasCounted (filled : Filled ps s) :
    (sigmas (lowerPiecesFrom before ps)).length = ((lowerFrom b s).filter isSigma).length := by
  induction filled generalizing before b with
  | nil => rfl
  | place c wild neutral rest ih => rw [wildSigmas wild, neutralSigmas neutral, ih]
  | char c rest ih =>
    obtain ⟨one, other, sizes, pattern, text⟩ := charSigmas c
    rw [pattern, text, List.length_append, List.length_append, sizes, ih]

/- Where all small sigmas are the same, so is the form of each capital one. -/
theorem sigmaPlaced (left : Filled front fs)
    (same : sigmas (lowerPiecesFrom before (front ++ .char 'Σ' :: back)) =
      (lowerFrom b (fs ++ 'Σ' :: bs)).filter isSigma) :
    sigmaAmong (front.reverse ++ before) back = sigma (fs.reverse ++ b) bs := by
  induction left generalizing before b with
  | nil =>
    rw [List.nil_append, List.nil_append, capitalInPattern, capitalInText] at same
    exact (List.cons.inj same).1
  | place c wild neutral rest ih =>
    rw [List.cons_append, List.cons_append, wildSigmas wild, neutralSigmas neutral] at same
    simpa using ih same
  | char c rest ih =>
    rw [List.cons_append, List.cons_append] at same
    obtain ⟨one, other, sizes, pattern, text⟩ := charSigmas c
    rw [pattern, text] at same
    simpa using ih (List.append_inj same sizes).2

end Places

theorem filledSigma {d : Char} (neutral : d = 'a' ∨ d = ' ')
    (every : ∀ s, MatchesSingly (front ++ .char 'Σ' :: back) s →
      Matches (lowerPieces (front ++ .char 'Σ' :: back)) (lower s)) :
    sigmaAmong front.reverse back = sigma (fillWith 'a' front.reverse) (fillWith d back) := by
  have left := filledWith (.inl rfl : 'a' = 'a' ∨ 'a' = ' ') front
  have filled := filledAppend left (.char 'Σ' (filledWith neutral back))
  have matched := sigmasMatched (every _ (filledMatches filled))
  have placed := sigmaPlaced left (matched.eq_of_length (sigmasCounted filled))
  rw [List.append_nil, List.append_nil] at placed
  rwa [fillWith, List.map_reverse, ← fillWith]

/- Letters in front and blanks behind make a sigma final, letters behind keep it from that. -/
theorem settledOfEvery (every : ∀ s, MatchesSingly ps s → Matches (lowerPieces ps) (lower s)) :
    SigmasSettled ps := by
  rintro front back rfl
  rw [List.append_nil]
  have blank := filledSigma (.inr rfl) every
  have letter := filledSigma (.inl rfl) every
  have counts : isCaseIgnorable 'a' = false ∧ isCaseIgnorable ' ' = false := by decide
  have cased : isCased 'a' = true ∧ isCased ' ' = false := by decide
  unfold sigmaAmong sigma at blank letter
  rw [meetsFilled counts.1, meetsFilled counts.2] at blank
  rw [meetsFilled counts.1, meetsFilled counts.1] at letter
  generalize meetsCased? front.reverse = before at *
  generalize meetsCased? back = after at *
  match before, after with
  | some false, _ => exact .starts
  | _, some true => exact .goesOn
  | some true, some false => exact .ends
  | some true, none => simp [cased] at letter
  | none, some false => simp [cased] at blank
  | none, none => simp [cased] at blank

end Unsettled

/- Patterns that every text still matches in lower case that matches them before. -/
theorem loweredExactly (ps : List Piece) :
    (∀ s, MatchesSingly ps s → Matches (lowerPieces ps) (lower s)) ↔ SigmasSettled ps := by
  constructor
  · exact settledOfEvery
  · intro settled s matched
    exact loweredMatches matched (fun _ known => Option.some.inj known) settled

end QueryFederation.Pattern
