/-!
# Instants

A point of time in UTC, to the nanosecond. A leap second is the second half of the nanoseconds of
the second before it, so it comes after that second and before the next one.

## Main definitions

* `Instant` — the type, ordered by time.
* `Instant.nanosSince` — the time that passed between two instants.
* `Date` — a calendar date, and its day number.
-/
namespace FisheryRules

/-- Seconds since the start of 1970 and nanoseconds, of which those from `10 ^ 9` on belong to a
leap second. -/
structure Instant where
  seconds : Int
  nanos : Nat
deriving DecidableEq, Inhabited

namespace Instant

def epoch : Instant := ⟨0, 0⟩

/-- Earlier instants compare as less. -/
protected def compare (a b : Instant) : Ordering :=
  (compare a.seconds b.seconds).then (compare a.nanos b.nanos)

instance : Ord Instant := ⟨Instant.compare⟩

/-- Whether `a` is not later than `b`. -/
def atMost (a b : Instant) : Bool := a.compare b != .gt

/-- The nanoseconds from `earlier` to `later`. A leap second lengthens the time when it lies
between the times of day of the two. -/
def nanosSince (later earlier : Instant) : Int :=
  let day : Int := 86400
  let (laterTime, earlierTime) := (later.seconds % day, earlier.seconds % day)
  let leap : Int :=
    if earlierTime < laterTime && 1000000000 ≤ earlier.nanos then 1
    else if laterTime < earlierTime && 1000000000 ≤ later.nanos then -1
    else 0
  (later.seconds - earlier.seconds + leap) * 1000000000 + (later.nanos - earlier.nanos : Int)

/-- The instant so many seconds later. -/
def addSeconds (t : Instant) (seconds : Int) : Instant := { t with seconds := t.seconds + seconds }

end Instant

/-- A date of the Gregorian calendar, extended to all years. -/
structure Date where
  year : Int
  month : Int
  day : Int
deriving DecidableEq

namespace Date

/-- The number of days from the first of January 1970. Years are counted from March, in eras of
four hundred years. -/
def dayNumber (date : Date) : Int :=
  let year := if date.month ≤ 2 then date.year - 1 else date.year
  let era := year / 400
  let yearOfEra := year % 400
  let monthFromMarch := (date.month + 9) % 12
  let dayOfYear := (153 * monthFromMarch + 2) / 5 + date.day - 1
  era * 146097 + (yearOfEra * 365 + yearOfEra / 4 - yearOfEra / 100 + dayOfYear) - 719468

/-- The date of a day number. -/
def ofDayNumber (number : Int) : Date :=
  let days := number + 719468
  let era := days / 146097
  let dayOfEra := days % 146097
  let yearOfEra := (dayOfEra - dayOfEra / 1460 + dayOfEra / 36524 - dayOfEra / 146096) / 365
  let dayOfYear := dayOfEra - (365 * yearOfEra + yearOfEra / 4 - yearOfEra / 100)
  let monthFromMarch := (5 * dayOfYear + 2) / 153
  let day := dayOfYear - (153 * monthFromMarch + 2) / 5 + 1
  let month := if monthFromMarch < 10 then monthFromMarch + 3 else monthFromMarch - 9
  ⟨yearOfEra + era * 400 + if month ≤ 2 then 1 else 0, month, day⟩

/-- A date is on the calendar when its day number leads back to it. -/
def isValid (date : Date) : Bool := ofDayNumber date.dayNumber == date

end Date

end FisheryRules
