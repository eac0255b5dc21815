import Mathlib
import QueryFederation.Proofs.Schema.Registration
import QueryFederation.Proofs.Schema.Spelling

/-! A name that was read from some text, written with the first label of its namespace and read
again. The text is read by what it looks like, which need not be the form that it was written in. -/
namespace QueryFederation.Schema
open QualifiedName

def withoutIndent (s : String) : String := String.ofList (Unicode.trimStart s.toList)

/- What a name and the labels of its namespace are to be like for the name to be read back. A label
that no text can be read with is only right where it is one but for blanks in front of it. -/
inductive ReadsBack (table : Namespaces) (name : QualifiedName) : Prop where
  | qualified (unlabelled : table.labels name.space = [])
      (oneLine : '\n' ∉ name.localName.toList)
  | bare {others} (first : table.labels name.space = "" :: others)
      (starts : StartsPlain name.localName) (unbraced : name.localName.toList.head? ≠ some '{')
      (plain : ¬ Labelled name.localName)
  | labelled {label others} (first : table.labels name.space = label :: others)
      (marked : label ≠ "") (isLabel : IsLabel (withoutIndent label))
      (registered : table.address? (withoutIndent label) = some name.space)
      (oneLine : '\n' ∉ name.localName.toList)

section Trimming
variable {s text : String}

theorem trimmedEnds (s : String) : EndsPlain (trimmed s) := by
  intro c last
  rw [trimmed, String.toList_ofList, Unicode.trim, Unicode.trimEnd, List.getLast?_reverse] at last
  have stops := List.head?_dropWhile_not Unicode.isBlank (Unicode.trimStart s.toList).reverse
  rw [Option.mem_def.mp last] at stops
  simpa using stops

theorem endsAfter {before : String} (filled : text ≠ "") :
    EndsPlain (before ++ text) ↔ EndsPlain text := by
  have some : text.toList ≠ [] := by simpa using filled
  rw [EndsPlain, EndsPlain, String.toList_append, List.getLast?_append_of_ne_nil _ some]

/- Only blanks in front are left to drop. -/
theorem trimmedIndent (ends : EndsPlain text) : trimmed text = withoutIndent text := by
  have stop : EndsPlain (withoutIndent text) := by
    intro c last
    rw [withoutIndent, String.toList_ofList, Unicode.trimStart] at last
    obtain ⟨dropped, split⟩ := List.dropWhile_suffix Unicode.isBlank (l := text.toList)
    refine ends c ?_
    rw [← split, List.getLast?_append]
    simp [Option.mem_def.mp last]
  have last : ∀ c ∈ (Unicode.trimStart text.toList).reverse.head?, Unicode.isBlank c = false := by
    rw [List.head?_reverse]
    simpa [EndsPlain, withoutIndent] using stop
  rw [trimmed, Unicode.trim, Unicode.trimEnd, dropNone last, List.reverse_reverse, withoutIndent]

theorem indentShortens (s : String) : (withoutIndent s).toList.length ≤ s.toList.length := by
  rw [withoutIndent, String.toList_ofList]
  exact (List.dropWhile_suffix _).length_le

theorem indentBefore (label name : String) :
    withoutIndent (label ++ ":" ++ name) = withoutIndent label ++ ":" ++ name := by
  have colon : Unicode.isBlank ':' = false := by decide
  have stops (blanks rest : List Char) :
      (blanks ++ ':' :: rest).dropWhile Unicode.isBlank =
        blanks.dropWhile Unicode.isBlank ++ ':' :: rest := by
    induction blanks with
    | nil => simp [colon]
    | cons c others ih => by_cases blank : Unicode.isBlank c = true <;> simp [blank, ih]
  apply String.ext
  simp [withoutIndent, Unicode.trimStart, stops]

theorem indentNone (starts : StartsPlain s) : withoutIndent s = s := by
  rw [withoutIndent, Unicode.trimStart, dropNone starts, String.ofList_toList]

theorem indentStarts (same : withoutIndent s = s) : StartsPlain s := by
  intro c first
  have stops := List.head?_dropWhile_not Unicode.isBlank s.toList
  rw [← Unicode.trimStart, ← String.toList_ofList (l := Unicode.trimStart s.toList),
    ← withoutIndent, same, Option.mem_def.mp first] at stops
  simpa using stops

end Trimming

section Inversion
variable {table : Namespaces} {text space label name : String}

theorem bracedReadAs :
    ReadAs table ("\x7b" ++ space ++ "\x7d" ++ name) ⟨space, name⟩ ↔
      '}' ∉ space.toList ∧ IsLine name := by
  constructor
  · intro read
    generalize whole : "\x7b" ++ space ++ "\x7d" ++ name = text at read
    generalize parts : QualifiedName.mk space name = meant at read
    cases read with
    | qualified closed line =>
      cases parts
      exact ⟨closed, line⟩
    | labelled isLabel line registered =>
      have braced : ("\x7b" ++ space ++ "\x7d" ++ name).toList =
          '{' :: (space.toList ++ '}' :: name.toList) := by simp
      rw [whole] at braced
      exact absurd braced (labelUnbraced isLabel)
    | bare filled unbraced unlabelled =>
      cases parts
      have size := congrArg String.length whole
      simp at size
  · rintro ⟨closed, line⟩
    exact .qualified closed line

theorem labelledReadAs :
    ReadAs table (label ++ ":" ++ name) ⟨space, name⟩ ↔
      IsLabel label ∧ IsLine name ∧ table.address? label = some space := by
  constructor
  · intro read
    generalize whole : label ++ ":" ++ name = text at read
    generalize parts : QualifiedName.mk space name = meant at read
    cases read with
    | qualified closed line =>
      cases parts
      have fronts := (String.append_left_inj _).mp whole
      have last := congrArg (fun front => front.toList.reverse.head?) fronts
      simp at last
    | labelled isLabel line registered =>
      cases parts
      cases (String.append_left_inj _).mp ((String.append_left_inj _).mp whole)
      exact ⟨isLabel, line, registered⟩
    | bare filled unbraced unlabelled =>
      cases parts
      have size := congrArg String.length whole
      simp at size
  · rintro ⟨isLabel, line, registered⟩
    exact .labelled isLabel line registered

theorem bareReadAs (filled : name ≠ "") (short : text.toList.length ≤ name.toList.length)
    (registered : table.address? "" = some space) :
    ReadAs table text ⟨space, name⟩ ↔
      text = name ∧ name.toList.head? ≠ some '{' ∧ ¬ Labelled name := by
  constructor
  · intro read
    generalize parts : QualifiedName.mk space name = meant at read
    cases read with
    | qualified closed line =>
      cases parts
      simp at short
      omega
    | labelled isLabel line _ =>
      cases parts
      simp at short
      omega
    | bare _ unbraced unlabelled =>
      cases parts
      exact ⟨rfl, unbraced, unlabelled⟩
  · rintro ⟨rfl, unbraced, unlabelled⟩
    have read : ReadAs table text ⟨(table.address? "").getD "", text⟩ :=
      .bare filled unbraced unlabelled
    rwa [registered] at read

end Inversion

/- What is known of a name that has been read. -/
structure IsRead (table : Namespaces) (name : QualifiedName) : Prop where
  filled : name.localName ≠ ""
  ends : EndsPlain name.localName
  closed : table.labels name.space = [] → '}' ∉ name.space.toList

section Rendering
variable {table : Namespaces} {s : String} {name : QualifiedName}

theorem isRead (unrepeated : table.Unrepeated) (read : resolve table s = .ok name) :
    IsRead table name := by
  have ends := trimmedEnds s
  have parts := resolvesIff.mp read
  generalize trimmed s = text at ends parts
  cases parts with
  | qualified closed line => exact ⟨line.filled, (endsAfter line.filled).mp ends, fun _ => closed⟩
  | labelled isLabel line registered =>
    refine ⟨line.filled, (endsAfter line.filled).mp ends, fun unlabelled => ?_⟩
    have listed := (Namespaces.labelled unrepeated).mpr registered
    exact absurd (unlabelled ▸ listed) List.not_mem_nil
  | bare filled unbraced plain =>
    refine ⟨filled, ends, fun unlabelled => ?_⟩
    cases default : table.address? "" with
    | none => simp
    | some address =>
      rw [default, Option.getD_some] at unlabelled
      have listed := (Namespaces.labelled unrepeated).mpr default
      exact absurd (unlabelled ▸ listed) List.not_mem_nil

theorem lineOf (filled : name.localName ≠ "") :
    IsLine name.localName ↔ '\n' ∉ name.localName.toList :=
  ⟨fun line => line.oneLine, fun oneLine => ⟨filled, oneLine⟩⟩

theorem qualifiedReadsBack (known : IsRead table name) (unlabelled : table.labels name.space = []) :
    resolve table name.text = .ok name ↔ '\n' ∉ name.localName.toList := by
  have starts : StartsPlain name.text := by
    simpa [StartsPlain, QualifiedName.text] using (show Unicode.isBlank '{' = false by decide)
  have ends : EndsPlain name.text := (endsAfter known.filled).mpr known.ends
  have whole : trimmed name.text = name.text := by rw [trimmedIndent ends, indentNone starts]
  rw [resolvesIff, whole, QualifiedName.text, bracedReadAs, lineOf known.filled]
  exact and_iff_right (known.closed unlabelled)

theorem labelledReadsBack (known : IsRead table name) (label : String) :
    resolve table (label ++ ":" ++ name.localName) = .ok name ↔
      IsLabel (withoutIndent label) ∧ '\n' ∉ name.localName.toList ∧
        table.address? (withoutIndent label) = some name.space := by
  rw [resolvesIff, trimmedIndent ((endsAfter known.filled).mpr known.ends), indentBefore,
    labelledReadAs, lineOf known.filled]

theorem bareReadsBack (known : IsRead table name)
    (registered : table.address? "" = some name.space) :
    resolve table name.localName = .ok name ↔
      StartsPlain name.localName ∧ name.localName.toList.head? ≠ some '{' ∧
        ¬ Labelled name.localName := by
  rw [resolvesIff, trimmedIndent known.ends,
    bareReadAs known.filled (indentShortens name.localName) registered]
  exact and_congr_left fun _ => ⟨indentStarts, indentNone⟩

/- Only one of the three conditions is about the form that is written. -/
theorem goodUnlabelled (unlabelled : table.labels name.space = []) :
    ReadsBack table name ↔ '\n' ∉ name.localName.toList := by
  constructor
  · intro good
    cases good with
    | qualified _ oneLine => exact oneLine
    | bare first | labelled first => cases unlabelled.symm.trans first
  · exact .qualified unlabelled

theorem goodBare {others : List String} (first : table.labels name.space = "" :: others) :
    ReadsBack table name ↔
      StartsPlain name.localName ∧ name.localName.toList.head? ≠ some '{' ∧
        ¬ Labelled name.localName := by
  constructor
  · intro good
    cases good with
    | qualified unlabelled => cases first.symm.trans unlabelled
    | bare _ starts unbraced plain => exact ⟨starts, unbraced, plain⟩
    | labelled same marked =>
      cases first.symm.trans same
      exact absurd rfl marked
  · rintro ⟨starts, unbraced, plain⟩
    exact .bare first starts unbraced plain

theorem goodLabelled {label : String} {others : List String}
    (first : table.labels name.space = label :: others) (marked : label ≠ "") :
    ReadsBack table name ↔
      IsLabel (withoutIndent label) ∧ '\n' ∉ name.localName.toList ∧
        table.address? (withoutIndent label) = some name.space := by
  constructor
  · intro good
    cases good with
    | qualified unlabelled => cases first.symm.trans unlabelled
    | bare same =>
      cases first.symm.trans same
      exact absurd rfl marked
    | labelled same _ isLabel address oneLine =>
      cases first.symm.trans same
      exact ⟨isLabel, oneLine, address⟩
  · rintro ⟨isLabel, oneLine, address⟩
    exact .labelled first marked isLabel address oneLine

/- Exactly when a name that was read, and is written with the first label of its namespace, is read
back as the same name. -/
theorem renderingReadBack (registrations : List (String × String))
    (read : resolve (Namespaces.registerAll {} registrations) s = .ok name) :
    resolve (Namespaces.registerAll {} registrations)
        (labelledText (Namespaces.registerAll {} registrations) name) = .ok name ↔
      ReadsBack (Namespaces.registerAll {} registrations) name := by
  have unrepeated := Namespaces.registerAllUnrepeated registrations
  generalize Namespaces.registerAll {} registrations = table at *
  have known := isRead unrepeated read
  unfold labelledText
  split
  · rename_i unlabelled
    rw [qualifiedReadsBack known unlabelled, goodUnlabelled unlabelled]
  · rename_i label others first
    have registered : table.address? label = some name.space :=
      (Namespaces.labelled unrepeated).mp (first ▸ List.mem_cons_self)
    by_cases unmarked : label = ""
    · subst unmarked
      rw [if_pos (show "".isEmpty = true from rfl), bareReadsBack known registered, goodBare first]
    · rw [if_neg (by simpa using unmarked), labelledReadsBack known, goodLabelled first unmarked]

/- Two labels of one namespace, of which the first is written. -/
def dueTable : Namespaces := Namespaces.registerAll {} [("c", "urn:c"), ("", "urn:c")]

def dueToday : QualifiedName := ⟨"urn:c", " due: today"⟩

theorem dueTodayReadBack :
    resolve dueTable " \x7burn:c\x7d due: today " = .ok dueToday ∧
      labelledText dueTable dueToday = "c: due: today" ∧
      resolve dueTable "c: due: today" = .ok dueToday := by
  have read : resolve dueTable " \x7burn:c\x7d due: today " = .ok dueToday := by cbv
  have indent : withoutIndent "c" = "c" := by decide
  have isLabel : IsLabel "c" := ⟨⟨'c', [], rfl, by decide⟩, by simp; decide⟩
  refine ⟨read, by decide, (renderingReadBack _ read).mpr ?_⟩
  have first : dueTable.labels dueToday.space = ["c", ""] := by decide
  refine .labelled first (by decide) ?_ ?_ (by decide)
  · rwa [indent]
  · rw [indent]
    decide

/- The namespace goes by the empty label alone, and what is written is read as a labelled name. -/
theorem colonMisread :
    resolve (Namespaces.registerAll {} [("", "urn:c")]) "\x7burn:c\x7da:b" =
        .ok ⟨"urn:c", "a:b"⟩ ∧
      labelledText (Namespaces.registerAll {} [("", "urn:c")]) ⟨"urn:c", "a:b"⟩ = "a:b" ∧
      resolve (Namespaces.registerAll {} [("", "urn:c")]) "a:b" = .error (.unknownLabel "a") := by
  exact ⟨by cbv, by decide, by cbv⟩

end Rendering

end QueryFederation.Schema
