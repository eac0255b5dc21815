import Mathlib
import QueryFederation.Proofs.Schema.Spelling
import QueryFederation.Request.Locale

/-! The texts that a locale is read from: a language in letters, alone or with a separator and a country
after it. What stands after a second separator is not looked at. -/
namespace QueryFederation.Request.Locale

structure IsLanguage (letters : List Char) : Prop where
  filled : letters ≠ []
  alphabetic : ∀ c ∈ letters, c.isAlpha = true

structure IsCountry (country : List Char) : Prop where
  filled : country ≠ []
  single : ∀ c ∈ country, isSeparator c = false

/- How a locale is written. -/
inductive Written : List Char → Locale → Prop where
  | language {letters} (language : IsLanguage letters) :
      Written letters (ofLanguage (String.ofList letters))
  | country {letters country separator} (language : IsLanguage letters)
      (separates : isSeparator separator = true) (named : IsCountry country) :
      Written (letters ++ separator :: country)
        ((ofLanguage (String.ofList letters)).withCountry (String.ofList country))

/- A locale with a country as it is written, and another separator with anything after it. -/
def Trailed (text : List Char) (locale : Locale) : Prop :=
  ∃ written separator dropped, text = written ++ separator :: dropped ∧
    isSeparator separator = true ∧ Written written locale ∧ locale.country ≠ none

theorem letterPlain {c : Char} (letter : c.isAlpha = true) : isSeparator c = false := by
  rw [isSeparator, Bool.or_eq_false_iff, beq_eq_false_iff_ne, beq_eq_false_iff_ne]
  constructor
  · rintro rfl
    exact absurd letter (by decide)
  · rintro rfl
    exact absurd letter (by decide)

section Reading
variable {s : String} {letters country dropped : List Char} {separator : Char} {locale : Locale}

theorem languageAccepted :
    (letters.isEmpty || !letters.all Char.isAlpha) = false ↔ IsLanguage letters := by
  rw [Bool.or_eq_false_iff, List.isEmpty_eq_false_iff, Bool.not_eq_false', List.all_eq_true]
  exact ⟨fun both => ⟨both.1, both.2⟩, fun language => ⟨language.filled, language.alphabetic⟩⟩

theorem plainLetters (language : IsLanguage letters) :
    ∀ c ∈ letters, (!isSeparator c) = true := by
  intro c member
  rw [letterPlain (language.alphabetic c member), Bool.not_false]

theorem plainCountry (named : IsCountry country) : ∀ c ∈ country, (!isSeparator c) = true := by
  intro c member
  rw [named.single c member, Bool.not_false]

/- A part goes on up to a separator or the end of the text. -/
theorem partTaken {part rest : List Char} (plain : ∀ c ∈ part, (!isSeparator c) = true)
    (ends : ∀ c ∈ rest.head?, isSeparator c = true) :
    (part ++ rest).takeWhile (fun c => !isSeparator c) = part := by
  rw [List.takeWhile_append_of_pos plain]
  cases rest with
  | nil => exact List.append_nil part
  | cons c others => simp [ends c rfl]

theorem readLanguage (language : IsLanguage letters) (text : s.toList = letters) :
    read? s = some (ofLanguage (String.ofList letters)) := by
  have parts : s.toList.span (fun c => !isSeparator c) = (letters, []) := by
    rw [text, List.span_eq_takeWhile_dropWhile,
      List.takeWhile_eq_self_iff.mpr (plainLetters language),
      List.dropWhile_eq_nil_iff.mpr (plainLetters language)]
  rw [read?, parts]
  dsimp only
  rw [languageAccepted.mpr language, if_neg Bool.false_ne_true]

theorem readCountry (language : IsLanguage letters) (separates : isSeparator separator = true)
    (named : IsCountry country) (ends : ∀ c ∈ dropped.head?, isSeparator c = true)
    (text : s.toList = letters ++ separator :: (country ++ dropped)) :
    read? s = some ((ofLanguage (String.ofList letters)).withCountry (String.ofList country)) := by
  have parts : s.toList.span (fun c => !isSeparator c) =
      (letters, separator :: (country ++ dropped)) := by
    rw [text]
    exact Schema.spanStops _ (plainLetters language) (by rw [separates, Bool.not_true])
  rw [read?, parts]
  dsimp only
  rw [languageAccepted.mpr language, if_neg Bool.false_ne_true,
    partTaken (plainCountry named) ends, List.isEmpty_eq_false_iff.mpr named.filled,
    if_neg Bool.false_ne_true]

theorem readWritten (written : Written s.toList locale) : read? s = some locale := by
  generalize text : s.toList = cs at written
  cases written with
  | language language => exact readLanguage language text
  | @country letters country separator language separates named =>
    have whole : s.toList = letters ++ separator :: (country ++ []) := by
      rw [text, List.append_nil]
    exact readCountry language separates named (by simp) whole

theorem readTrailed (trailed : Trailed s.toList locale) : read? s = some locale := by
  obtain ⟨written, separator, dropped, text, ends, known, located⟩ := trailed
  cases known with
  | language language => exact absurd rfl located
  | @country letters country between language separates named =>
    have whole : s.toList = letters ++ between :: (country ++ separator :: dropped) := by
      rw [text, List.append_assoc, List.cons_append]
    refine readCountry language separates named (fun c first => ?_) whole
    cases first
    exact ends

theorem readSource (known : read? s = some locale) :
    Written s.toList locale ∨ Trailed s.toList locale := by
  unfold read? at known
  generalize parts : s.toList.span (fun c => !isSeparator c) = split at known
  obtain ⟨letters, rest⟩ := split
  dsimp only at known
  split at known
  · contradiction
  rename_i accepted
  have language := languageAccepted.mp (Bool.not_eq_true _ ▸ accepted)
  cases rest with
  | nil =>
    cases known
    rw [List.span_eq_takeWhile_dropWhile, Prod.mk.injEq] at parts
    have whole := List.takeWhile_append_dropWhile (p := fun c => !isSeparator c) (l := s.toList)
    rw [parts.1, parts.2, List.append_nil] at whole
    exact .inl (whole ▸ .language language)
  | cons separator tail =>
    obtain ⟨-, stop, text⟩ := Schema.spanParts parts
    have separates : isSeparator separator = true := by simpa using stop
    dsimp only at known
    split at known
    · contradiction
    rename_i filled
    cases known
    have named : IsCountry (tail.takeWhile fun c => !isSeparator c) := by
      refine ⟨by simpa using filled, fun c member => ?_⟩
      simpa using List.mem_takeWhile_imp member
    have written := Written.country language separates named
    rw [← List.takeWhile_append_dropWhile (p := fun c => !isSeparator c) (l := tail)] at text
    cases left : tail.dropWhile fun c => !isSeparator c with
    | nil =>
      rw [left, List.append_nil] at text
      exact .inl (text ▸ written)
    | cons c dropped =>
      have ends := List.head?_dropWhile_not (fun c => !isSeparator c) tail
      rw [left] at ends text
      refine .inr ⟨_, c, dropped, ?_, by simpa using ends, written, by simp [withCountry]⟩
      rw [text, List.append_assoc, List.cons_append]

end Reading

theorem readIff {s : String} {locale : Locale} :
    read s = .ok locale ↔ Written s.toList locale ∨ Trailed s.toList locale := by
  have same : read s = .ok locale ↔ read? s = some locale := by
    unfold read
    cases read? s <;> simp
  rw [same]
  exact ⟨readSource, fun either => either.elim readWritten readTrailed⟩

/- A text that is written as a locale is read as that locale. Of the others just those are read that
go on after the country with a separator, and what is not read is refused. -/
theorem localesRead (s : String) :
    (∀ locale, read s = .ok locale ↔ Written s.toList locale ∨ Trailed s.toList locale) ∧
    ((∃ locale, read s = .ok locale) ∨
      read s = .error (.invalidArgument ("invalid locale " ++ Fault.quoted s))) := by
  refine ⟨fun locale => readIff, ?_⟩
  unfold read
  cases read? s with
  | none => exact .inr rfl
  | some locale => exact .inl ⟨locale, rfl⟩

theorem writtenSeparators {cs : List Char} {locale : Locale} (written : Written cs locale) :
    cs.countP isSeparator ≤ 1 := by
  have none {run : List Char} (plain : ∀ c ∈ run, isSeparator c = false) :
      run.countP isSeparator = 0 := List.countP_eq_zero.mpr fun c member => by simp [plain c member]
  cases written with
  | language language =>
    rw [none fun c member => letterPlain (language.alphabetic c member)]
    exact Nat.zero_le 1
  | country language separates named =>
    rw [List.countP_append, List.countP_cons_of_pos separates, none named.single,
      none fun c member => letterPlain (language.alphabetic c member)]

/- Nothing is written with two separators. -/
theorem extraPartRead :
    read "en_GB_extra" = .ok ⟨"en", some "GB"⟩ ∧
      ¬ ∃ locale, Written "en_GB_extra".toList locale := by
  refine ⟨by decide +kernel, ?_⟩
  rintro ⟨locale, written⟩
  exact absurd (writtenSeparators written) (by decide)

end QueryFederation.Request.Locale
