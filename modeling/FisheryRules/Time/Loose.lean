import FisheryRules.Text.Blank
import FisheryRules.Time.Timestamp

/-!
# Loosely written timestamps

Timestamps in documents need not keep to RFC 3339. Numbers may be short, blanks may stand between
the parts, the year may have a sign and more digits, and the offset may be `UTC` or lack its colon.

## Main definitions

* `Timestamp.readLoose?` — the instant of a timestamp.
-/
namespace FisheryRules.Timestamp

/-- Reads at least one digit and at most `most`. -/
def numeral? (most : Nat) (cs : List Char) : Option (Nat × List Char) :=
  let shown := (cs.take most).takeWhile Char.isDigit
  if shown.isEmpty then none else some (Decimal.ofDigits shown, cs.drop shown.length)

/-- Reads a number of one or two digits. Blanks may come before it. -/
def shortNumber? (cs : List Char) : Option (Nat × List Char) := numeral? 2 (Text.trimStart cs)

/-- Reads a mark and the number after it. Blanks may come before both. -/
def markedNumber? (mark : Char) (cs : List Char) : Option (Nat × List Char) :=
  match Text.trimStart cs with
  | [] => none
  | c :: rest => if c == mark then shortNumber? rest else none

/-- Reads a year: at most four digits, or any number of them after a sign. -/
def looseYear? (cs : List Char) : Option (Int × List Char) :=
  match Text.trimStart cs with
  | '-' :: rest => (numeral? rest.length rest).map fun (n, cs) => (-(n : Int), cs)
  | '+' :: rest => (numeral? rest.length rest).map fun (n, cs) => ((n : Int), cs)
  | cs => (numeral? 4 cs).map fun (n, cs) => ((n : Int), cs)

/-- The years that a calendar is kept for. -/
def isKeptYear (year : Int) : Bool := -262143 ≤ year && year ≤ 262142

/-- Reads a date. -/
def looseDate? (cs : List Char) : Option (Date × List Char) := do
  let (year, cs) ← looseYear? cs
  let (month, cs) ← markedNumber? '-' cs
  let (day, cs) ← markedNumber? '-' cs
  let date : Date := ⟨year, month, day⟩
  if isKeptYear year && date.isValid then return (date, cs) else none

/-- Reads a time of day. -/
def looseTime? (cs : List Char) : Option ((Nat × Nat) × List Char) := do
  let (hour, cs) ← shortNumber? cs
  let (minute, cs) ← markedNumber? ':' cs
  let (second, cs) ← markedNumber? ':' cs
  let (nanos, cs) ←
    match cs with
    | '.' :: rest => (fraction rest).toOption
    | _ => some (0, cs)
  return (← clockTime? hour minute second nanos, cs)

/-- Reads the hours and minutes of an offset, from after its sign. Colons and blanks may stand
between them. -/
def looseOffsetBody? (cs : List Char) : Option (Nat × List Char) := do
  let (hours, cs) ← (digits 2 0 cs).toOption
  let cs := cs.dropWhile fun c => c == ':' || Text.isBlank c
  let (minutes, cs) ← (offsetMinutes cs).toOption
  return (hours * 3600 + minutes * 60, cs)

/-- Reads an offset, in seconds. -/
def looseOffset? (cs : List Char) : Option (Int × List Char) :=
  if (cs.take 3).map Char.toUpper == ['U', 'T', 'C'] then some (0, cs.drop 3)
  else
    match cs with
    | [] => none
    | c :: rest =>
      if c == 'Z' || c == 'z' then some (0, rest)
      else if c == '+' then (looseOffsetBody? rest).map fun (seconds, cs) => ((seconds : Int), cs)
      else if c == '-' || c.toNat == 0x2212 then
        (looseOffsetBody? rest).map fun (seconds, cs) => (-(seconds : Int), cs)
      else none

/-- Reads a timestamp. -/
def readLoose? (s : String) : Option Instant := do
  let (date, cs) ← looseDate? s.toList
  let cs ← (oneOf ['T', 't', ' '] cs).toOption
  let ((seconds, nanos), cs) ← looseTime? cs
  let (offset, cs) ← looseOffset? (Text.trimStart cs)
  let instant : Instant := ⟨date.dayNumber * 86400 + seconds - offset, nanos⟩
  let isKept := isKeptYear (Date.ofDayNumber (instant.seconds / 86400)).year
  if cs.all Text.isBlank && offset.natAbs < 86400 && isKept then return instant else none

end FisheryRules.Timestamp
