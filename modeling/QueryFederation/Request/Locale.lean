import QueryFederation.Fault
import QueryFederation.Unicode.Case

/-! Locales: a language in lower case, with or without a country in upper case. -/
namespace QueryFederation.Request
open Unicode

structure Locale where
  language : String
  country : Option String
  deriving DecidableEq, Repr

namespace Locale

def ofLanguage (language : String) : Locale := ⟨lowerText language, none⟩

def withCountry (locale : Locale) (country : String) : Locale :=
  { locale with country := some (upperText country) }

def default : Locale := ofLanguage "en"

def languageOnly (locale : Locale) : Locale := ofLanguage locale.language

def text (locale : Locale) : String :=
  match locale.country with
  | some country => locale.language ++ "_" ++ country
  | none => locale.language

def isSeparator (c : Char) : Bool := c == '_' || c == '-'

/- Reads `en`, `en_GB` or `en-GB`. The country ends at a second separator. -/
def read? (s : String) : Option Locale :=
  let (language, rest) := s.toList.span fun c => !isSeparator c
  if language.isEmpty || !language.all Char.isAlpha then none
  else
    match rest with
    | [] => some (ofLanguage (String.ofList language))
    | _ :: tail =>
      let country := tail.takeWhile fun c => !isSeparator c
      if country.isEmpty then none
      else some ((ofLanguage (String.ofList language)).withCountry (String.ofList country))

def read (s : String) : Except Fault Locale :=
  match read? s with
  | some locale => .ok locale
  | none => .error (.invalidArgument ("invalid locale " ++ Fault.quoted s))

end Locale

end QueryFederation.Request
