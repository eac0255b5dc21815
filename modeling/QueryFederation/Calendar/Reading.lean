import QueryFederation.Calendar.Instant
import QueryFederation.Number.Power
import QueryFederation.Text.Scan

/-! Reading dates and instants. An instant is written with its offset from universal time; in the
strict form every field has its full width, and in the loose form blanks may stand before the
fields and the offset may be written in more ways. -/
namespace QueryFederation.Calendar
open Text

/- A time of day; second 60 is a leap second. -/
structure ClockTime where
  hour : Nat
  minute : Nat
  second : Nat
  nanos : Nat
  deriving DecidableEq, Repr

def ClockTime.isValid (time : ClockTime) : Bool :=
  time.hour ≤ 23 && time.minute ≤ 59 && time.second ≤ 60

def Date.days? (date : Date) : Option Int :=
  if date.isValid && firstDay ≤ date.toDays && date.toDays ≤ lastDay then some date.toDays
  else none

def assemble? (date : Date) (time : ClockTime) (offset : Int) : Option Instant := do
  let days ← date.days?
  guard time.isValid
  let second := min time.second 59
  let clock := time.hour * 3600 + time.minute * 60 + second
  let instant : Instant :=
    { seconds := days * secondsPerDay + clock - offset
      nanos := time.nanos + (if time.second = 60 then 1000000000 else 0) }
  guard instant.isValid
  return instant

/- The digits after a decimal point as nanoseconds; digits beyond the ninth do not count. -/
def scanFraction : Scan Nat := do
  let ds ← Scan.digits 1 (some 9)
  Scan.skipWhile Char.isDigit
  return Number.ofDigits ds * Number.powerOfTen (9 - ds.length)

def scanOptionalFraction : Scan Nat := do
  match ← Scan.optionally ['.'] with
  | some _ => scanFraction
  | none => return 0

def scanMinutesOfOffset : Scan Nat := do
  let minutes ← Scan.number 2 (some 2)
  guard (minutes ≤ 59)
  return minutes

/- An offset in seconds. Its sign may also be the minus sign of mathematics. -/
def scanOffset (separator : Scan Unit) : Scan Int := do
  match ← Scan.oneOf ['Z', 'z', '+', '-', '−'] with
  | 'Z' | 'z' => return 0
  | sign =>
    let hours ← Scan.number 2 (some 2)
    separator
    let minutes ← scanMinutesOfOffset
    let seconds : Int := hours * 3600 + minutes * 60
    return if sign = '+' then seconds else -seconds

def scanStrict : Scan (Date × ClockTime × Int) := do
  let year ← Scan.number 4 (some 4)
  let _ ← Scan.oneOf ['-']
  let month ← Scan.number 2 (some 2)
  let _ ← Scan.oneOf ['-']
  let day ← Scan.number 2 (some 2)
  let _ ← Scan.oneOf ['t', 'T', ' ']
  let hour ← Scan.number 2 (some 2)
  let _ ← Scan.oneOf [':']
  let minute ← Scan.number 2 (some 2)
  let _ ← Scan.oneOf [':']
  let second ← Scan.number 2 (some 2)
  let nanos ← scanOptionalFraction
  let offset ← scanOffset (do let _ ← Scan.oneOf [':'])
  return (⟨year, month, day⟩, ⟨hour, minute, second, nanos⟩, offset)

def readStrict? (cs : List Char) : Option Instant := do
  let (date, time, offset) ← Scan.complete? scanStrict cs
  guard (offset.natAbs < 86400)
  assemble? date time offset

/- A year of up to four digits, or of any number of them after a sign. -/
def scanYear : Scan Int := do
  match ← Scan.optionally ['-', '+'] with
  | some '-' => return -(← Scan.number 1 none : Int)
  | some _ => Scan.number 1 none
  | none => Scan.number 1 (some 4)

def scanPart : Scan Nat := do
  Scan.skipBlanks
  Scan.number 1 (some 2)

def scanDate (gap : Scan Unit) : Scan Date := do
  Scan.skipBlanks
  let year ← scanYear
  gap
  let _ ← Scan.oneOf ['-']
  let month ← scanPart
  gap
  let _ ← Scan.oneOf ['-']
  let day ← scanPart
  return ⟨year, month, day⟩

def readDate? (cs : List Char) : Option Date := do
  let date ← Scan.complete? (scanDate (pure ())) cs
  let _ ← date.days?
  return date

def scanUniversal : Scan Unit := fun cs =>
  if (cs.take 3).map Char.toUpper = ['U', 'T', 'C'] then some ((), cs.drop 3) else none

def isColonOrBlank (c : Char) : Bool := c == ':' || Unicode.isBlank c

def scanLoose : Scan (Date × ClockTime × Int) := do
  let date ← scanDate Scan.skipBlanks
  let _ ← Scan.oneOf ['t', 'T', ' ']
  let hour ← scanPart
  Scan.skipBlanks
  let _ ← Scan.oneOf [':']
  let minute ← scanPart
  Scan.skipBlanks
  let _ ← Scan.oneOf [':']
  let second ← scanPart
  let nanos ← scanOptionalFraction
  Scan.skipBlanks
  let offset ← (do scanUniversal; return 0) <|> scanOffset (Scan.skipWhile isColonOrBlank)
  Scan.skipBlanks
  return (date, ⟨hour, minute, second, nanos⟩, offset)

def readLoose? (cs : List Char) : Option Instant := do
  let (date, time, offset) ← Scan.complete? scanLoose cs
  guard (offset.natAbs < 86400)
  assemble? date time offset

def readInstantOrDate? (cs : List Char) : Option Instant :=
  match readStrict? cs with
  | some instant => some instant
  | none => (readDate? cs).map fun date => Instant.ofDay date.toDays

end QueryFederation.Calendar
