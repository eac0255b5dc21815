import Mathlib
import QueryFederation.Compile.Field
import QueryFederation.Proofs.Request.LocaleText
import QueryFederation.Proofs.Unicode.CaseMapping

/-! Locales in normal form. What is read is in normal form, and a locale in normal form is read back
from its text, so that its text and the index fields named by it tell it from every other. -/
namespace QueryFederation.Request.Locale
open Unicode Compile.FieldResolver

/- A locale as it can be read: letters in lower case, and a country in upper case. -/
structure Normal (locale : Locale) : Prop where
  language : IsLanguage locale.language.toList
  lowered : lowerText locale.language = locale.language
  country : ∀ country ∈ locale.country,
    IsCountry country.toList ∧ upperText country = country

section Reading
variable {s : String} {letters country rest : List Char} {locale : Locale}

theorem languageLowers (language : IsLanguage letters) :
    IsLanguage (lowerText (String.ofList letters)).toList := by
  rw [lowerText, String.toList_ofList, String.toList_ofList]
  exact ⟨lowerFilled language.filled, lettersLower language.alphabetic⟩

theorem separatorCases {c : Char} : isSeparator c = true ↔ c = '_' ∨ c = '-' := by
  simp [isSeparator]

theorem countryUppers (named : IsCountry country) :
    IsCountry (upperText (String.ofList country)).toList := by
  rw [upperText, String.toList_ofList, String.toList_ofList]
  refine ⟨upperFilled named.filled, fun c inside => ?_⟩
  by_contra separates
  have absent : c ∉ country := fun member => separates (named.single c member)
  obtain rfl | rfl := separatorCases.mp (Bool.not_eq_false _ ▸ separates)
  · exact upperApart (by decide) (by decide +kernel) absent inside
  · exact upperApart (by decide) (by decide +kernel) absent inside

theorem languageNormal (language : IsLanguage letters) :
    Normal (ofLanguage (String.ofList letters)) where
  language := languageLowers language
  lowered := lowerTextAgain _
  country := by simp [ofLanguage]

theorem writtenNormal (written : Written letters locale) : Normal locale := by
  cases written with
  | language language => exact languageNormal language
  | country language _ named =>
    have normal := languageNormal language
    refine ⟨normal.language, normal.lowered, fun name known => ?_⟩
    cases known
    exact ⟨countryUppers named, upperTextAgain _⟩

theorem normalWritten (normal : Normal locale) : Written locale.text.toList locale := by
  have lowered : ofLanguage (String.ofList locale.language.toList) = ⟨locale.language, none⟩ := by
    rw [String.ofList_toList, ofLanguage, normal.lowered]
  cases known : locale.country with
  | none =>
    have written := Written.language normal.language
    rw [lowered, ← known] at written
    rwa [text, known]
  | some country =>
    obtain ⟨named, uppered⟩ := normal.country country known
    have separates : isSeparator '_' = true := rfl
    have written := Written.country normal.language separates named
    rw [lowered, withCountry, String.ofList_toList, uppered, ← known] at written
    rwa [text, known, String.toList_append, String.toList_append, List.append_assoc]

theorem readText (normal : Normal locale) : read locale.text = .ok locale :=
  readIff.mpr (.inl (normalWritten normal))

/- The locales in normal form are those that some text is read as. -/
theorem normalIff : Normal locale ↔ ∃ s, read s = .ok locale := by
  constructor
  · exact fun normal => ⟨locale.text, readText normal⟩
  · rintro ⟨s, known⟩
    obtain written | ⟨front, separator, dropped, -, -, written, -⟩ := readIff.mp known
    · exact writtenNormal written
    · exact writtenNormal written

theorem textSame {other : Locale} (normal : Normal locale) (also : Normal other) :
    locale = other ↔ locale.text = other.text := by
  refine ⟨congrArg text, fun same => ?_⟩
  have known := readText normal
  rw [same, readText also] at known
  exact (Except.ok.inj known).symm

theorem localeFieldSame {base : String} {other : Locale} :
    localeField base locale = localeField base other ↔ locale.text = other.text := by
  rw [localeField, localeField, String.append_right_inj]

/- The text up to its first separator. -/
def languagePart (s : String) : String := String.ofList (s.toList.takeWhile fun c => !isSeparator c)

theorem readLetters (language : IsLanguage letters) :
    read (String.ofList letters) = .ok (ofLanguage (String.ofList letters)) := by
  refine readIff.mpr (.inl ?_)
  rw [String.toList_ofList]
  exact .language language

theorem languageOnlyAgain (language : String) :
    (ofLanguage language).languageOnly = ofLanguage language := by
  rw [languageOnly, ofLanguage, ofLanguage, lowerTextAgain]

/- The language of a text that goes on after a locale is the language of that locale. -/
theorem readWrittenPart (written : Written letters locale)
    (ends : ∀ c ∈ rest.head?, isSeparator c = true) :
    read (String.ofList ((letters ++ rest).takeWhile fun c => !isSeparator c)) =
      .ok locale.languageOnly := by
  cases written with
  | language language =>
    rw [partTaken (plainLetters language) ends, readLetters language, languageOnlyAgain]
  | country language separates named =>
    rw [List.append_assoc, List.cons_append,
      partTaken (plainLetters language) (by simp [separates]), readLetters language]
    exact congrArg Except.ok (languageOnlyAgain _).symm

theorem readPart (known : read s = .ok locale) :
    read (languagePart s) = .ok locale.languageOnly := by
  rw [languagePart]
  obtain written | ⟨front, separator, dropped, text, ends, written, -⟩ := readIff.mp known
  · rw [← List.append_nil s.toList]
    exact readWrittenPart written (by simp)
  · rw [text]
    exact readWrittenPart written (by simp [ends])

end Reading

/- The text of a locale that was read is read as that locale, and the language part alone as the
locale without its country. Locales that were read are told apart by their texts, and so are the
fields of an index that are named for them. -/
theorem localesNormalized {s : String} {locale : Locale} (known : read s = .ok locale) :
    read locale.text = .ok locale ∧ read (languagePart s) = .ok locale.languageOnly ∧
    ∀ t other, read t = .ok other →
      (locale = other ↔ locale.text = other.text) ∧
      ∀ base, localeField base locale = localeField base other ↔ locale = other := by
  have normal := normalIff.mpr ⟨s, known⟩
  refine ⟨readText normal, readPart known, fun t other also => ?_⟩
  have same := textSame normal (normalIff.mpr ⟨t, also⟩)
  exact ⟨same, fun base => localeFieldSame.trans same.symm⟩

/- Upper case writes one character of this country as two. -/
def street : Locale := ⟨"de", some "STRASSE"⟩

theorem streetNormalized :
    read "DE-straße" = .ok street ∧ read "de_Strasse-1" = .ok street ∧
    read street.text = .ok street ∧ read (languagePart "DE-straße") = .ok street.languageOnly ∧
    (street = street.languageOnly ↔ street.text = street.languageOnly.text) ∧
    ∀ base, localeField base street = localeField base street.languageOnly ↔
      street = street.languageOnly := by
  have known : read "DE-straße" = .ok street := by decide +kernel
  have also : read "de_Strasse-1" = .ok street := by decide +kernel
  obtain ⟨back, part, apart⟩ := localesNormalized known
  obtain ⟨texts, fields⟩ := apart _ _ part
  exact ⟨known, also, back, part, texts, fields⟩

end QueryFederation.Request.Locale
