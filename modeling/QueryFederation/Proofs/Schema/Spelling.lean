import Mathlib
import QueryFederation.Schema.QualifiedName

/-! The spellings of a name, and that all of them are read back as the name they stand for. -/
namespace QueryFederation.Schema
open QualifiedName

/- A letter or an underscore, then letters, digits, underscores, dots and hyphens. -/
structure IsLabel (label : String) : Prop where
  start : ∃ c rest, label.toList = c :: rest ∧ isLabelStart c = true
  word : ∀ c ∈ label.toList, isLabelChar c = true

structure IsLine (name : String) : Prop where
  filled : name ≠ ""
  oneLine : '\n' ∉ name.toList

/- A label, a colon and something on the same line. -/
def Labelled (text : String) : Prop :=
  ∃ label name, IsLabel label ∧ IsLine name ∧ text = label ++ ":" ++ name

def StartsPlain (text : String) : Prop := ∀ c ∈ text.toList.head?, Unicode.isBlank c = false

def EndsPlain (text : String) : Prop := ∀ c ∈ text.toList.getLast?, Unicode.isBlank c = false

theorem dropNone {p : Char → Bool} {cs : List Char} (first : ∀ c ∈ cs.head?, p c = false) :
    cs.dropWhile p = cs := by
  cases cs with
  | nil => rfl
  | cons c rest => rw [List.dropWhile_cons, first c rfl, if_neg Bool.false_ne_true]

theorem trimNothing {text : String} (starts : StartsPlain text) (ends : EndsPlain text) :
    Unicode.trim text.toList = text.toList := by
  have last : ∀ c ∈ text.toList.reverse.head?, Unicode.isBlank c = false := by
    rw [List.head?_reverse]
    exact ends
  rw [Unicode.trim, Unicode.trimStart, dropNone starts, Unicode.trimEnd, dropNone last,
    List.reverse_reverse]

theorem spanStops {p : Char → Bool} {run : List Char} {c : Char} (rest : List Char)
    (inside : ∀ c ∈ run, p c = true) (stop : p c = false) :
    (run ++ c :: rest).span p = (run, c :: rest) := by
  rw [List.span_eq_takeWhile_dropWhile, List.takeWhile_append_of_pos inside,
    List.dropWhile_append_of_pos inside]
  simp [stop]

theorem spanParts {p : Char → Bool} {cs run rest : List Char} {c : Char}
    (parts : cs.span p = (run, c :: rest)) :
    (∀ c ∈ run, p c = true) ∧ p c = false ∧ cs = run ++ c :: rest := by
  rw [List.span_eq_takeWhile_dropWhile, Prod.mk.injEq] at parts
  obtain ⟨rfl, left⟩ := parts
  refine ⟨fun c member => List.mem_takeWhile_imp member, ?_, ?_⟩
  · have first := List.head?_dropWhile_not p cs
    rw [left] at first
    simpa using first
  · rw [← left, List.takeWhile_append_dropWhile]

theorem localIffLine {name : String} : isLocalName name.toList = true ↔ IsLine name := by
  have parts : isLocalName name.toList = true ↔ name ≠ "" ∧ '\n' ∉ name.toList := by
    simp [isLocalName, String.toList_eq_nil_iff]
  exact parts.trans ⟨fun both => ⟨both.1, both.2⟩, fun line => ⟨line.filled, line.oneLine⟩⟩

theorem labelSplits {label name : String} (isLabel : IsLabel label) (line : IsLine name) :
    splitLabel? (label.toList ++ ':' :: name.toList) = some (label.toList, name.toList) := by
  obtain ⟨start, rest, chars, starts⟩ := isLabel.start
  rw [splitLabel?, spanStops _ isLabel.word (by decide), chars]
  simp [starts, localIffLine.mpr line]

/- What is split off is a label, and nothing is lost but the colon. -/
theorem splitsOff {text : String} {front back : List Char}
    (split : splitLabel? text.toList = some (front, back)) :
    IsLabel (String.ofList front) ∧ IsLine (String.ofList back) ∧
      text = String.ofList front ++ ":" ++ String.ofList back := by
  unfold splitLabel? at split
  split at split
  · rename_i start run name parts
    obtain ⟨word, -, whole⟩ := spanParts parts
    split at split
    · rename_i good
      obtain ⟨starts, isLocal⟩ := Bool.and_eq_true_iff.mp good
      cases split
      refine ⟨⟨⟨start, run, String.toList_ofList, starts⟩, ?_⟩, ?_, ?_⟩
      · rwa [String.toList_ofList]
      · rwa [← localIffLine, String.toList_ofList]
      · apply String.ext
        simp [whole]
    · contradiction
  · contradiction

theorem unlabelledSplits {text : String} : splitLabel? text.toList = none ↔ ¬ Labelled text := by
  constructor
  · rintro unsplit ⟨label, name, isLabel, line, rfl⟩
    have split := labelSplits isLabel line
    simp only [String.toList_append] at unsplit
    simp [split] at unsplit
  · intro unlabelled
    cases split : splitLabel? text.toList with
    | none => rfl
    | some parts => exact absurd ⟨_, _, splitsOff split⟩ unlabelled

theorem labelStartPlain {c : Char} (start : isLabelStart c = true) :
    Unicode.isBlank c = false ∧ c ≠ '{' := by
  have range : 65 ≤ c.toNat ∧ c.toNat ≤ 90 ∨ 97 ≤ c.toNat ∧ c.toNat ≤ 122 ∨ c = '_' := by
    simpa [isLabelStart, Char.isAlpha, Char.isUpper, Char.isLower, or_assoc, UInt32.le_iff_toNat_le]
      using start
  have point : 65 ≤ c.toNat ∧ c.toNat ≤ 122 := by
    obtain upper | lower | rfl := range
    · omega
    · omega
    · decide
  constructor
  · simp only [Unicode.isBlank, Unicode.inRanges, Unicode.blankRanges]
    grind
  · rintro rfl
    exact absurd point (by decide)

/- The ways to read a text without blanks around it. -/
inductive ReadAs (table : Namespaces) : String → QualifiedName → Prop where
  | qualified {space name} (closed : '}' ∉ space.toList) (line : IsLine name) :
      ReadAs table ("\x7b" ++ space ++ "\x7d" ++ name) ⟨space, name⟩
  | labelled {label name address} (isLabel : IsLabel label) (line : IsLine name)
      (registered : table.address? label = some address) :
      ReadAs table (label ++ ":" ++ name) ⟨address, name⟩
  | bare {text} (filled : text ≠ "") (unbraced : text.toList.head? ≠ some '{')
      (unlabelled : ¬ Labelled text) : ReadAs table text ⟨(table.address? "").getD "", text⟩

def trimmed (s : String) : String := String.ofList (Unicode.trim s.toList)

section Reading
variable {table : Namespaces} {s text : String} {name : QualifiedName}

theorem bracedSpan {space : String} (closed : '}' ∉ space.toList) (rest : List Char) :
    (space.toList ++ '}' :: rest).span (· ≠ '}') = (space.toList, '}' :: rest) := by
  refine spanStops rest (fun c member => decide_eq_true ?_) (by decide)
  rintro rfl
  exact closed member

theorem qualifiedIff : ofQualified text = .ok name ↔
    '}' ∉ name.space.toList ∧ IsLine name.localName ∧ text = name.text := by
  constructor
  · intro read
    unfold ofQualified ofQualified? at read
    split at read
    · rename_i found
      cases read
      split at found
      · rename_i inside chars
        split at found
        · rename_i space stop rest parts
          obtain ⟨plain, brace, whole⟩ := spanParts parts
          have closed : '}' ∉ space := fun member => by simpa using plain _ member
          have stop : stop = '}' := by simpa using brace
          subst stop
          split at found
          · rename_i isLocal
            cases found
            refine ⟨by rwa [String.toList_ofList], ?_, ?_⟩
            · rwa [← localIffLine, String.toList_ofList]
            · apply String.ext
              simp [chars, whole, QualifiedName.text]
          · contradiction
        · contradiction
      · contradiction
    · contradiction
  · rintro ⟨closed, line, rfl⟩
    have chars : name.text.toList = '{' :: (name.space.toList ++ '}' :: name.localName.toList) := by
      simp [QualifiedName.text]
    simp only [ofQualified, ofQualified?, chars, bracedSpan closed, localIffLine.mpr line,
      if_true, String.ofList_toList]

theorem labelUnbraced {label more : String} {rest : List Char} (isLabel : IsLabel label) :
    (label ++ ":" ++ more).toList ≠ '{' :: rest := by
  obtain ⟨start, others, chars, starts⟩ := isLabel.start
  intro braced
  have first : start = '{' := by simpa [chars] using congrArg List.head? braced
  exact (labelStartPlain starts).2 first

theorem readAsFilled (read : ReadAs table text name) : text ≠ "" := by
  cases read with
  | qualified closed line => exact fun empty => by simpa using congrArg String.toList empty
  | labelled isLabel line registered =>
    exact fun empty => by simpa using congrArg String.toList empty
  | bare filled unbraced unlabelled => exact filled

theorem trimmedChars (s : String) : Unicode.trim s.toList = (trimmed s).toList := by
  rw [trimmed, String.toList_ofList]

theorem resolveReads (ok : resolve table s = .ok name) : ReadAs table (trimmed s) name := by
  unfold resolve at ok
  rw [trimmedChars] at ok
  generalize trimmed s = text at ok ⊢
  dsimp only at ok
  split at ok
  · contradiction
  · rename_i rest braced
    rw [String.ofList_toList] at ok
    obtain ⟨closed, line, rfl⟩ := qualifiedIff.mp ok
    exact .qualified closed line
  · rename_i blank unbraced
    split at ok
    · rename_i label rest split
      obtain ⟨isLabel, line, rfl⟩ := splitsOff split
      split at ok
      · rename_i address registered
        cases ok
        exact .labelled isLabel line registered
      · contradiction
    · rename_i unsplit
      cases ok
      rw [String.ofList_toList]
      refine .bare (fun empty => blank (by simp [empty])) ?_ (unlabelledSplits.mp unsplit)
      intro first
      obtain ⟨rest, braced⟩ := List.head?_eq_some_iff.mp first
      exact unbraced rest braced

theorem readResolves (read : ReadAs table (trimmed s) name) : resolve table s = .ok name := by
  unfold resolve
  rw [trimmedChars]
  generalize trimmed s = text at read ⊢
  dsimp only
  split
  · rename_i blank
    exact absurd (String.toList_eq_nil_iff.mp blank) (readAsFilled read)
  · rename_i rest braced
    rw [String.ofList_toList]
    cases read with
    | qualified closed line => exact qualifiedIff.mpr ⟨closed, line, rfl⟩
    | labelled isLabel line registered => exact absurd braced (labelUnbraced isLabel)
    | bare filled unbraced unlabelled => simp [braced] at unbraced
  · rename_i blank unbraced
    cases read with
    | @qualified space name closed line =>
      exact (unbraced (space.toList ++ '}' :: name.toList) (by simp)).elim
    | labelled isLabel line registered =>
      have split := labelSplits isLabel line
      simp [split, registered]
    | bare filled unbraced unlabelled =>
      rw [unlabelledSplits.mpr unlabelled, String.ofList_toList]

/- What is resolved is what the text reads as. -/
theorem resolvesIff : resolve table s = .ok name ↔ ReadAs table (trimmed s) name :=
  ⟨resolveReads, readResolves⟩

end Reading

variable {table : Namespaces} {address name : String}

/- What follows a colon or a brace may start with a blank. -/
theorem trimmedBefore {first : Char} (before : String) (plain : Unicode.isBlank first = false)
    (starts : before.toList.head? = some first) (line : IsLine name) (ends : EndsPlain name) :
    trimmed (before ++ name) = before ++ name := by
  have start : StartsPlain (before ++ name) := by
    simp [StartsPlain, starts, plain]
  have stop : EndsPlain (before ++ name) := by
    have some : name.toList ≠ [] := by simpa using line.filled
    rw [EndsPlain, String.toList_append, List.getLast?_append_of_ne_nil _ some]
    exact ends
  rw [trimmed, trimNothing start stop, String.ofList_toList]

theorem labelledResolves {label : String} (isLabel : IsLabel label) (line : IsLine name)
    (ends : EndsPlain name) (registered : table.address? label = some address) :
    resolve table (label ++ ":" ++ name) = .ok ⟨address, name⟩ := by
  obtain ⟨start, rest, chars, starts⟩ := isLabel.start
  have whole : trimmed (label ++ ":" ++ name) = label ++ ":" ++ name :=
    trimmedBefore (label ++ ":") (labelStartPlain starts).1 (by simp [chars]) line ends
  rw [resolvesIff, whole]
  exact .labelled isLabel line registered

theorem qualifiedResolves (closed : '}' ∉ address.toList) (line : IsLine name)
    (ends : EndsPlain name) :
    resolve table ("\x7b" ++ address ++ "\x7d" ++ name) = .ok ⟨address, name⟩ := by
  have brace : Unicode.isBlank '{' = false := by decide
  have whole : trimmed ("\x7b" ++ address ++ "\x7d" ++ name) =
      "\x7b" ++ address ++ "\x7d" ++ name :=
    trimmedBefore ("\x7b" ++ address ++ "\x7d") brace (by simp) line ends
  rw [resolvesIff, whole]
  exact .qualified closed line

theorem bareResolves (line : IsLine name) (starts : StartsPlain name) (ends : EndsPlain name)
    (unbraced : name.toList.head? ≠ some '{') (unlabelled : ¬ Labelled name)
    (registered : table.address? "" = some address) :
    resolve table name = .ok ⟨address, name⟩ := by
  have whole : trimmed name = name := by rw [trimmed, trimNothing starts ends, String.ofList_toList]
  have read : ReadAs table name ⟨(table.address? "").getD "", name⟩ :=
    .bare line.filled unbraced unlabelled
  rw [registered] at read
  rwa [resolvesIff, whole]

end QueryFederation.Schema
