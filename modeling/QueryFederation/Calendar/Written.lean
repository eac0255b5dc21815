import QueryFederation.Calendar.Instant
import QueryFederation.Number.Digits

/-! The written form of an instant, such as `2024-03-01T10:00:00.000Z`. A leap second is written
as second 60. A year outside 0 to 9999 has a sign. -/
namespace QueryFederation.Calendar
open Number

inductive Precision where
  | milliseconds
  | asNeeded
  deriving DecidableEq, Repr

def writeYear (year : Int) : List Char :=
  if 0 ≤ year ∧ year ≤ 9999 then fixedDigits 10 4 year.toNat
  else (if year < 0 then '-' else '+') :: paddedDigits 4 year.natAbs

def Date.write (date : Date) : List Char :=
  writeYear date.year ++ '-' :: fixedDigits 10 2 date.month ++ '-' :: fixedDigits 10 2 date.day

def writeFraction (precision : Precision) (nanos : Nat) : List Char :=
  match precision with
  | .milliseconds => '.' :: fixedDigits 10 3 (nanos / 1000000)
  | .asNeeded =>
    if nanos = 0 then []
    else if nanos % 1000000 = 0 then '.' :: fixedDigits 10 3 (nanos / 1000000)
    else if nanos % 1000 = 0 then '.' :: fixedDigits 10 6 (nanos / 1000)
    else '.' :: fixedDigits 10 9 nanos

def Instant.writeTime (precision : Precision) (instant : Instant) : List Char :=
  let clock := instant.secondOfDay
  let second := clock % 60 + (if instant.isLeap then 1 else 0)
  fixedDigits 10 2 (clock / 3600) ++ ':' :: fixedDigits 10 2 (clock / 60 % 60) ++
    ':' :: fixedDigits 10 2 second ++ writeFraction precision (instant.nanos % 1000000000)

def Instant.write (precision : Precision) (instant : Instant) : List Char :=
  instant.date.write ++ 'T' :: instant.writeTime precision ++ ['Z']

def Instant.text (instant : Instant) : String := String.ofList (instant.write .milliseconds)

end QueryFederation.Calendar
