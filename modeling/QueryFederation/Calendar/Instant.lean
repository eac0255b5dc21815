import QueryFederation.Calendar.Date

/-! Instants of universal time. The seconds count from the beginning of 1970. A leap second has
the count of the second before it, and a fraction of one second or more. -/
namespace QueryFederation.Calendar

structure Instant where
  seconds : Int
  nanos : Nat
  deriving DecidableEq, Repr

def secondsPerDay : Int := 86400

def firstDay : Int := (Date.mk (-262143) 1 1).toDays

def lastDay : Int := (Date.mk 262142 12 31).toDays

namespace Instant

def day (instant : Instant) : Int := instant.seconds / secondsPerDay

def date (instant : Instant) : Date := Date.ofDays instant.day

def secondOfDay (instant : Instant) : Nat := (instant.seconds % secondsPerDay).toNat

def isLeap (instant : Instant) : Bool := decide (1000000000 ≤ instant.nanos)

def isValid (instant : Instant) : Bool :=
  firstDay ≤ instant.day && instant.day ≤ lastDay && decide (instant.nanos < 2000000000) &&
    (!instant.isLeap || instant.secondOfDay % 60 == 59)

def ofDay (days : Int) : Instant := ⟨days * secondsPerDay, 0⟩

def midnight (instant : Instant) : Instant := ofDay instant.day

end Instant

end QueryFederation.Calendar
