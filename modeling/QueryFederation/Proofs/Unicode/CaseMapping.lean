import Mathlib
import QueryFederation.Unicode.Case

/-! What the case tables make of a character: what is listed for it, what its run gives, or the
character itself. No table changes what it gives, so that a text in lower case or in upper case is
left as it is by the same mapping. -/
namespace QueryFederation.Unicode

section Points
variable {points others : List Nat} {point : Nat}

/- Code points as the bits of one number. Two long lists are compared by one operation on it, where
to look up each member of one in the other takes too long. -/
def pointSet (points : List Nat) : Nat := points.foldr (fun point set => 1 <<< point ||| set) 0

theorem memPointSet : (pointSet points).testBit point = true ↔ point ∈ points := by
  induction points with
  | nil => simp [pointSet]
  | cons first rest ih =>
    rw [pointSet, List.foldr_cons, ← pointSet, Nat.testBit_or, Bool.or_eq_true, ih, List.mem_cons,
      Nat.one_shiftLeft, Nat.testBit_two_pow, decide_eq_true_eq, eq_comm]

theorem pointsApart (apart : pointSet points &&& pointSet others = 0) : points.Disjoint others := by
  intro point one other
  have both := congrArg (·.testBit point) apart
  simp [memPointSet.mpr one, memPointSet.mpr other] at both

end Points

section Runs
variable {run : CaseRun} {point image : Nat}

/- As many code points as the run has, at its distance from each other. -/
def CaseRun.stretch (run : CaseRun) (start : Nat) : List Nat :=
  List.range' start ((run.last - run.first) / run.step + 1) run.step

theorem imageStretch (given : run.image? point = some image) :
    point ∈ run.stretch run.first ∧ image ∈ run.stretch run.image := by
  unfold CaseRun.image? at given
  split at given
  · rename_i inside
    obtain ⟨starts, ends, divides⟩ := inside
    cases given
    have distance : run.step * ((point - run.first) / run.step) = point - run.first :=
      Nat.mul_div_cancel' (Nat.dvd_of_mod_eq_zero divides)
    have fits : (point - run.first) / run.step < (run.last - run.first) / run.step + 1 :=
      Nat.lt_succ_of_le (Nat.div_le_div_right (by omega))
    rw [CaseRun.stretch, CaseRun.stretch, List.mem_range', List.mem_range']
    exact ⟨⟨_, fits, by omega⟩, ⟨_, fits, by omega⟩⟩
  · contradiction

end Runs

section Tables
variable {runs : List CaseRun} {expansions : List (Nat × List Nat)} {c d : Char}
variable {mapped : List Char}

def changedPoints (runs : List CaseRun) (expansions : List (Nat × List Nat)) : List Nat :=
  expansions.map Prod.fst ++ runs.flatMap fun run => run.stretch run.first

def givenPoints (runs : List CaseRun) (expansions : List (Nat × List Nat)) : List Nat :=
  expansions.flatMap Prod.snd ++ runs.flatMap fun run => run.stretch run.image

/- How a table maps a character. -/
inductive Maps (runs : List CaseRun) (expansions : List (Nat × List Nat)) (c : Char) :
    List Char → Prop where
  | listed {points} (member : (c.toNat, points) ∈ expansions) :
      Maps runs expansions c (points.map Char.ofNat)
  | given {run point} (member : run ∈ runs) (image : run.image? c.toNat = some point) :
      Maps runs expansions c [Char.ofNat point]
  | kept : Maps runs expansions c [c]

theorem mapPointMaps (same : mapPoint runs expansions c = mapped) :
    Maps runs expansions c mapped := by
  subst same
  unfold mapPoint
  split
  · rename_i points known
    obtain ⟨before, after, same, -⟩ := List.lookup_eq_some_iff.mp known
    exact .listed (by simp [same])
  · split
    · rename_i point found
      obtain ⟨run, member, image⟩ := List.exists_of_findSome?_eq_some found
      exact .given member image
    · exact .kept

theorem unchangedKept (unchanged : c.toNat ∉ changedPoints runs expansions) :
    mapPoint runs expansions c = [c] := by
  rw [changedPoints, List.mem_append, not_or] at unchanged
  generalize same : mapPoint runs expansions c = mapped
  cases mapPointMaps same with
  | listed member => exact absurd (List.mem_map_of_mem member) unchanged.1
  | given member image =>
    exact absurd (List.mem_flatMap.mpr ⟨_, member, (imageStretch image).1⟩) unchanged.2
  | kept => rfl

theorem mappedSource (inside : d ∈ mapPoint runs expansions c) :
    d = c ∧ mapPoint runs expansions c = [c] ∨
      ∃ point ∈ givenPoints runs expansions, d = Char.ofNat point := by
  generalize same : mapPoint runs expansions c = mapped at *
  cases mapPointMaps same with
  | listed member =>
    obtain ⟨point, listed, rfl⟩ := List.mem_map.mp inside
    exact .inr ⟨point, List.mem_append_left _ (List.mem_flatMap.mpr ⟨_, member, listed⟩), rfl⟩
  | given member image =>
    refine .inr ⟨_, List.mem_append_right _ ?_, List.mem_singleton.mp inside⟩
    exact List.mem_flatMap.mpr ⟨_, member, (imageStretch image).2⟩
  | kept => exact .inl ⟨List.mem_singleton.mp inside, rfl⟩

/- The table changes nothing that it gives. Code point zero stands for a wrong one. -/
def Settled (runs : List CaseRun) (expansions : List (Nat × List Nat)) : Prop :=
  (0 :: givenPoints runs expansions).Disjoint (changedPoints runs expansions)

theorem mappedKept (settled : Settled runs expansions) (inside : d ∈ mapPoint runs expansions c) :
    mapPoint runs expansions d = [d] := by
  obtain ⟨rfl, same⟩ | ⟨point, given, rfl⟩ := mappedSource inside
  · exact same
  · refine unchangedKept (settled ?_)
    rw [Char.toNat_ofNat]
    split
    · exact List.mem_cons_of_mem _ given
    · exact List.mem_cons_self

theorem mappedApart (nonzero : d.toNat ≠ 0) (withheld : d.toNat ∉ givenPoints runs expansions)
    (other : c ≠ d) : d ∉ mapPoint runs expansions c := by
  intro inside
  obtain ⟨same, -⟩ | ⟨point, given, rfl⟩ := mappedSource inside
  · exact other same.symm
  · rw [Char.toNat_ofNat] at nonzero withheld
    split at nonzero
    · exact withheld (by rwa [if_pos ‹_›])
    · exact nonzero rfl

theorem mappedFilled (filled : ∀ entry ∈ expansions, entry.2 ≠ []) (c : Char) :
    mapPoint runs expansions c ≠ [] := by
  generalize same : mapPoint runs expansions c = mapped
  cases mapPointMaps same with
  | listed member => simpa using filled _ member
  | given _ _ => exact List.cons_ne_nil _ _
  | kept => exact List.cons_ne_nil _ _

end Tables

section Texts
variable {before cs : List Char} {c d : Char}

theorem lowerSettled : Settled lowerRuns lowerExpansions := pointsApart (by decide +kernel)

theorem upperSettled : Settled upperRuns upperExpansions := pointsApart (by decide +kernel)

theorem lowerSource (inside : d ∈ lowerFrom before cs) :
    'Σ' ∈ cs ∧ (d = 'σ' ∨ d = 'ς') ∨ ∃ c ∈ cs, c ≠ 'Σ' ∧ d ∈ lowerChar c := by
  induction cs generalizing before with
  | nil => exact absurd inside List.not_mem_nil
  | cons c rest ih =>
    obtain first | later := List.mem_append.mp inside
    · split at first
      · rename_i capital
        rw [List.mem_singleton, sigma] at first
        refine .inl ⟨capital ▸ List.mem_cons_self, ?_⟩
        split at first
        · exact .inr first
        · exact .inl first
      · rename_i other
        exact .inr ⟨c, List.mem_cons_self, other, first⟩
    · obtain ⟨capital, small⟩ | ⟨source, member, made⟩ := ih later
      · exact .inl ⟨List.mem_cons_of_mem _ capital, small⟩
      · exact .inr ⟨source, List.mem_cons_of_mem _ member, made⟩

theorem lowersFilled (c : Char) : lowerChar c ≠ [] := mappedFilled (by decide) c

theorem lowerFilled (filled : cs ≠ []) : lower cs ≠ [] := by
  obtain ⟨c, rest, rfl⟩ := List.exists_cons_of_ne_nil filled
  rw [lower, lowerFrom]
  refine List.append_ne_nil_of_left_ne_nil ?_ _
  split
  · exact List.cons_ne_nil _ _
  · exact lowersFilled c

theorem lowerKept (kept : ∀ c ∈ cs, c ≠ 'Σ' ∧ lowerChar c = [c]) : lowerFrom before cs = cs := by
  induction cs generalizing before with
  | nil => rfl
  | cons c rest ih =>
    obtain ⟨⟨other, same⟩, others⟩ := List.forall_mem_cons.mp kept
    rw [lowerFrom, if_neg other, same, ih others, List.singleton_append]

theorem lowerAgain (cs : List Char) : lower (lower cs) = lower cs := by
  refine lowerKept fun d inside => ?_
  obtain ⟨-, rfl | rfl⟩ | ⟨c, -, other, made⟩ := lowerSource inside
  · decide +kernel
  · decide +kernel
  · refine ⟨?_, mappedKept lowerSettled made⟩
    rintro rfl
    exact mappedApart (by decide) (by decide +kernel) other made

theorem lowerTextAgain (s : String) : lowerText (lowerText s) = lowerText s := by
  rw [lowerText, lowerText, String.toList_ofList, lowerAgain]

theorem letterLowers (letter : c.isAlpha = true) :
    ∃ place < 26, lowerChar c = [Char.ofNat (97 + place)] := by
  have capitals : ∀ place < 26,
      lowerChar (Char.ofNat (65 + place)) = [Char.ofNat (97 + place)] := by decide +kernel
  have smalls : ∀ place < 26,
      lowerChar (Char.ofNat (97 + place)) = [Char.ofNat (97 + place)] := by decide +kernel
  have range : 65 ≤ c.toNat ∧ c.toNat ≤ 90 ∨ 97 ≤ c.toNat ∧ c.toNat ≤ 122 := by
    simpa [Char.isAlpha, Char.isUpper, Char.isLower, UInt32.le_iff_toNat_le] using letter
  obtain ⟨starts, ends⟩ | ⟨starts, ends⟩ := range
  · obtain ⟨place, reached⟩ := Nat.exists_eq_add_of_le starts
    refine ⟨place, by omega, ?_⟩
    rw [← capitals place (by omega), ← reached, Char.ofNat_toNat]
  · obtain ⟨place, reached⟩ := Nat.exists_eq_add_of_le starts
    refine ⟨place, by omega, ?_⟩
    rw [← smalls place (by omega), ← reached, Char.ofNat_toNat]

theorem lettersLower (letters : ∀ c ∈ cs, c.isAlpha = true) : ∀ d ∈ lower cs, d.isAlpha = true := by
  have smalls : ∀ place < 26, (Char.ofNat (97 + place)).isAlpha = true := by decide
  intro d inside
  obtain ⟨capital, -⟩ | ⟨c, member, -, made⟩ := lowerSource inside
  · exact absurd (letters _ capital) (by decide)
  · obtain ⟨place, fits, same⟩ := letterLowers (letters c member)
    rw [same, List.mem_singleton] at made
    exact made ▸ smalls place fits

theorem upperAgain (cs : List Char) : upper (upper cs) = upper cs := by
  have kept : ∀ d ∈ upper cs, upperChar d = [d] := by
    intro d inside
    obtain ⟨c, -, made⟩ := List.mem_flatMap.mp inside
    exact mappedKept upperSettled made
  calc upper (upper cs) = (upper cs).flatMap fun d => [d] := List.flatMap_congr kept
    _ = upper cs := List.flatMap_singleton' _

theorem upperTextAgain (s : String) : upperText (upperText s) = upperText s := by
  rw [upperText, upperText, String.toList_ofList, upperAgain]

theorem uppersFilled (c : Char) : upperChar c ≠ [] := mappedFilled (by decide) c

theorem upperFilled (filled : cs ≠ []) : upper cs ≠ [] := by
  intro nothing
  obtain ⟨c, rest, rfl⟩ := List.exists_cons_of_ne_nil filled
  exact uppersFilled c (List.flatMap_eq_nil_iff.mp nothing c List.mem_cons_self)

theorem upperApart (nonzero : d.toNat ≠ 0)
    (withheld : d.toNat ∉ givenPoints upperRuns upperExpansions) (absent : d ∉ cs) :
    d ∉ upper cs := by
  intro inside
  obtain ⟨c, member, made⟩ := List.mem_flatMap.mp inside
  refine mappedApart nonzero withheld ?_ made
  rintro rfl
  exact absent member

end Texts

end QueryFederation.Unicode
