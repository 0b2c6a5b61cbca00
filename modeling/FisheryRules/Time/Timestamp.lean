import FisheryRules.Time.Instant
import FisheryRules.Number.Decimal

/-!
# Timestamps

Instants written by the rules of RFC 3339. A timestamp may carry any offset; the instant it names
is kept in UTC. Written timestamps show as many thirds of nine fraction digits as the instant
needs, and either `Z` or `+00:00` for the offset.

## Main definitions

* `Timestamp.read` — the instant of a timestamp, or the flaw in it.
* `Instant.toZulu`, `Instant.toOffset` — the two ways an instant is written.
-/
namespace FisheryRules

namespace Timestamp

/-- What is wrong with a text that is no timestamp. -/
inductive Flaw
  | invalid
  | tooShort
  | outOfRange
  | tooLong
deriving DecidableEq

def Flaw.message : Flaw → String
  | invalid => "input contains invalid characters"
  | tooShort => "premature end of input"
  | outOfRange => "input is out of range"
  | tooLong => "trailing input"

/-- The length of a text in UTF-8. -/
def byteLength : List Char → Nat
  | [] => 0
  | c :: cs => c.utf8Size + byteLength cs

/-- Reads exactly `count` digits. -/
def digits : (count : Nat) → (sofar : Nat) → List Char → Except Flaw (Nat × List Char)
  | 0, sofar, cs => .ok (sofar, cs)
  | count + 1, sofar, cs =>
    match cs with
    | [] => .error .tooShort
    | c :: rest =>
      if c.isDigit then digits count (10 * sofar + Decimal.digitValue c) rest
      else .error .invalid

/-- Reads one of the given characters. -/
def oneOf (allowed : List Char) : List Char → Except Flaw (List Char)
  | [] => .error .tooShort
  | c :: rest => if allowed.contains c then .ok rest else .error .invalid

/-- Reads the digits of a fraction of a second. The tenth digit and those after it are ignored. -/
def fraction (cs : List Char) : Except Flaw (Nat × List Char) :=
  match cs with
  | [] => .error .tooShort
  | c :: _ =>
    if !c.isDigit then .error .invalid
    else
      let shown := (cs.takeWhile Char.isDigit).take 9
      .ok (Decimal.ofDigits shown * Nat.pow 10 (9 - shown.length), cs.dropWhile Char.isDigit)

/-- Reads the minutes of an offset. -/
def offsetMinutes (cs : List Char) : Except Flaw (Nat × List Char) :=
  if byteLength cs < 2 then .error .tooShort
  else
    match cs with
    | tens :: ones :: rest =>
      if !(tens.isDigit && ones.isDigit) then .error .invalid
      else if '6' ≤ tens then .error .outOfRange
      else .ok (10 * Decimal.digitValue tens + Decimal.digitValue ones, rest)
    | _ => .error .invalid

/-- Reads the hours and minutes of an offset, from after its sign. -/
def offsetBody (cs : List Char) : Except Flaw (Nat × List Char) :=
  if byteLength cs < 2 then .error .tooShort
  else do
    let (hours, cs) ← digits 2 0 cs
    let cs ← oneOf [':'] cs
    let (minutes, cs) ← offsetMinutes cs
    return (hours * 3600 + minutes * 60, cs)

/-- Reads an offset, in seconds: `Z`, or a sign with hours and minutes. -/
def offset : List Char → Except Flaw (Int × List Char)
  | [] => .error .tooShort
  | c :: rest =>
    if c == 'Z' || c == 'z' then .ok (0, rest)
    else if c == '+' then (offsetBody rest).map fun (seconds, cs) => ((seconds : Int), cs)
    else if c == '-' || c.toNat == 0x2212 then
      (offsetBody rest).map fun (seconds, cs) => (-(seconds : Int), cs)
    else .error .invalid

/-- Reads a date. -/
def date (cs : List Char) : Except Flaw (Date × List Char) := do
  let (year, cs) ← digits 4 0 cs
  let cs ← oneOf ['-'] cs
  let (month, cs) ← digits 2 0 cs
  let cs ← oneOf ['-'] cs
  let (day, cs) ← digits 2 0 cs
  let date : Date := ⟨year, month, day⟩
  if date.isValid then return (date, cs) else throw .outOfRange

/-- A time of day: its seconds, of which the leap second is no part, and its nanoseconds. -/
def clockTime? (hour minute second nanos : Nat) : Option (Nat × Nat) :=
  if 23 < hour || 59 < minute || 60 < second then none
  else if second = 60 then some (hour * 3600 + minute * 60 + 59, 1000000000 + nanos)
  else some (hour * 3600 + minute * 60 + second, nanos)

/-- Reads a time of day. -/
def timeOfDay (cs : List Char) : Except Flaw ((Nat × Nat) × List Char) := do
  let (hour, cs) ← digits 2 0 cs
  let cs ← oneOf [':'] cs
  let (minute, cs) ← digits 2 0 cs
  let cs ← oneOf [':'] cs
  let (second, cs) ← digits 2 0 cs
  let (nanos, cs) ←
    match cs with
    | '.' :: rest => fraction rest
    | _ => pure (0, cs)
  match clockTime? hour minute second nanos with
  | some time => return (time, cs)
  | none => throw .outOfRange

/-- Reads a timestamp. A text too short for a date and a time is refused as such, whatever is in
it; otherwise the first flaw counts. -/
def read (s : String) : Except Flaw Instant := do
  let cs := s.toList
  if byteLength cs < 19 then throw .tooShort
  let (date, cs) ← date cs
  let cs ← oneOf ['T', 't', ' '] cs
  let ((seconds, nanos), cs) ← timeOfDay cs
  let (offset, cs) ← offset cs
  if !cs.isEmpty then throw .tooLong
  if 86400 ≤ offset.natAbs then throw .outOfRange
  return ⟨date.dayNumber * 86400 + seconds - offset, nanos⟩

/-- The decimal digits of a number, at least `width` of them. -/
def padded (width : Nat) (n : Nat) : List Char :=
  let ds := Nat.toDigits 10 n
  List.replicate (width - ds.length) '0' ++ ds

/-- A year of four digits, or a signed one with at least four. -/
def yearChars (year : Int) : List Char :=
  if 0 ≤ year && year ≤ 9999 then padded 4 year.toNat
  else (if year < 0 then '-' else '+') :: padded 4 year.natAbs

/-- The fraction digits of a second: none, three, six or nine. -/
def fractionChars (nanos : Nat) : List Char :=
  if nanos = 0 then []
  else if nanos % 1000000 = 0 then '.' :: padded 3 (nanos / 1000000)
  else if nanos % 1000 = 0 then '.' :: padded 6 (nanos / 1000)
  else '.' :: padded 9 nanos

/-- The timestamp of an instant with the given spelling of the offset. -/
def write (zone : List Char) (t : Instant) : List Char :=
  let date := Date.ofDayNumber (t.seconds / 86400)
  let time := (t.seconds % 86400).toNat
  let leap := if 1000000000 ≤ t.nanos then 1 else 0
  yearChars date.year ++ '-' :: padded 2 date.month.toNat ++ '-' :: padded 2 date.day.toNat ++
    'T' :: padded 2 (time / 3600) ++ ':' :: padded 2 (time / 60 % 60) ++
    ':' :: padded 2 (time % 60 + leap) ++ fractionChars (t.nanos - leap * 1000000000) ++ zone

end Timestamp

/-- The timestamp of an instant, ending in `Z`. -/
def Instant.toZulu (t : Instant) : String := String.ofList (Timestamp.write ['Z'] t)

/-- The timestamp of an instant, ending in `+00:00`. -/
def Instant.toOffset (t : Instant) : String :=
  String.ofList (Timestamp.write ['+', '0', '0', ':', '0', '0'] t)

end FisheryRules
