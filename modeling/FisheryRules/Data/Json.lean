import FisheryRules.Data.Basic
import FisheryRules.Number.Decimal
import FisheryRules.Number.Radix

/-!
# JSON texts

The reader of JSON texts. Lists and records may nest up to a limit, which the recursion descends
on. A number of sixty-four bits without a point or an exponent is an integer; any other one is the
nearest binary64 number, which must be finite, and so is negative zero.

## Main definitions

* `Json.value` — reads one value from the front of a text.
* `Data.ofJson?` — reads a whole text.
-/
namespace FisheryRules

namespace Json

/-- Reads something from the front of a text. -/
abbrev Reader (α : Type) := List Char → Option (α × List Char)

def isSpace (c : Char) : Bool := c == ' ' || c == '\t' || c == '\n' || c == '\r'

def skipSpace (cs : List Char) : List Char := cs.dropWhile isSpace

/-- Reads the four digits of an escaped code unit. -/
def codeUnit : Reader Nat
  | a :: b :: c :: d :: rest => (Radix.ofDigits? 16 [a, b, c, d]).map fun unit => (unit, rest)
  | _ => none

/-- Reads what follows the backslash and the `u` of an escape: a code unit, and a second one after
the first half of a surrogate pair. -/
def codePoint : Reader Char := fun cs => do
  let (unit, rest) ← codeUnit cs
  if unit < 0xD800 || 0xE000 ≤ unit then return (Char.ofNat unit, rest)
  else if 0xDC00 ≤ unit then none
  else
    match rest with
    | '\\' :: 'u' :: rest => do
      let (low, rest) ← codeUnit rest
      if 0xDC00 ≤ low && low < 0xE000 then
        return (Char.ofNat (0x10000 + (unit - 0xD800) * 0x400 + (low - 0xDC00)), rest)
      else none
    | _ => none

def simpleEscape? (c : Char) : Option Char :=
  if c == '"' || c == '\\' || c == '/' then some c
  else if c == 'n' then some '\n'
  else if c == 'r' then some '\r'
  else if c == 't' then some '\t'
  else if c == 'b' then some (Char.ofNat 0x08)
  else if c == 'f' then some (Char.ofNat 0x0C)
  else none

/-- Reads the characters of a text up to its closing quote, at most `bound` of them. -/
def characters : (bound : Nat) → Reader (List Char)
  | 0, _ => none
  | _ + 1, [] => none
  | _ + 1, '"' :: rest => some ([], rest)
  | bound + 1, '\\' :: 'u' :: rest => do
    let (c, rest) ← codePoint rest
    let (cs, rest) ← characters bound rest
    return (c :: cs, rest)
  | bound + 1, '\\' :: e :: rest => do
    let c ← simpleEscape? e
    let (cs, rest) ← characters bound rest
    return (c :: cs, rest)
  | bound + 1, c :: rest =>
    if c.toNat < 0x20 || c == '\\' then none
    else do
      let (cs, rest) ← characters bound rest
      return (c :: cs, rest)

/-- Reads a text from after its opening quote. -/
def text : Reader String := fun cs => do
  let (value, rest) ← characters (cs.length + 1) cs
  return (String.ofList value, rest)

/-- Whether an integer fits into sixty-four bits, with a sign if it is negative. -/
def isShort (negative : Bool) (magnitude : Nat) : Bool :=
  if negative then 0 < magnitude && magnitude ≤ 9223372036854775808
  else magnitude < 18446744073709551616

/-- Reads a number. One that is no short integer is rounded to the nearest binary64 number; readers
that take a faster way round may be off by one unit in the last place. -/
def number : Reader Data := fun cs =>
  let negative := cs.head? == some '-'
  let body := if negative then cs.drop 1 else cs
  let spelled := body.takeWhile fun c =>
    c.isDigit || c == '.' || c == 'e' || c == 'E' || c == '+' || c == '-'
  let rest := body.drop spelled.length
  match Decimal.splitPoint spelled with
  | (whole, fraction, pointed, tail) =>
    if whole.isEmpty || (1 < whole.length && whole.head? == some '0') then none
    else if pointed && fraction.isEmpty then none
    else if !pointed && tail.isEmpty && isShort negative (Decimal.ofDigits whole) then
      let value : Int := Decimal.ofDigits whole
      some (.integer (if negative then -value else value), rest)
    else do
      let value := (← Decimal.scientific? negative spelled).toBinary64
      if value.isFinite then return (.real value, rest) else none

/-- Reads items up to a closing character, from after the first one: the closing character, or a
comma and an item again. -/
def others {α : Type} (close : Char) (item : Reader α) : (bound : Nat) → Reader (List α)
  | 0, _ => none
  | bound + 1, cs =>
    match skipSpace cs with
    | [] => none
    | c :: rest =>
      if c == close then some ([], rest)
      else if c == ',' then do
        let (first, rest) ← item (skipSpace rest)
        let (others, rest) ← others close item bound rest
        return (first :: others, rest)
      else none

/-- Reads items with commas between them up to a closing character. -/
def sequence {α : Type} (close : Char) (item : Reader α) : Reader (List α) := fun cs =>
  match skipSpace cs with
  | [] => none
  | c :: rest =>
    if c == close then some ([], rest)
    else do
      let (first, rest) ← item (c :: rest)
      let (more, rest) ← others close item (rest.length + 1) rest
      return (first :: more, rest)

/-- Reads a name, a colon and a value. -/
def member (value : Reader Data) : Reader (String × Data)
  | '"' :: rest => do
    let (name, rest) ← text rest
    match skipSpace rest with
    | ':' :: rest =>
      let (value, rest) ← value (skipSpace rest)
      return ((name, value), rest)
    | _ => none
  | _ => none

/-- Reads a given word and gives a value for it. -/
def constant (word : String) (value : Data) : Reader Data := fun cs =>
  (word.toList.isPrefixOf? cs).map fun rest => (value, rest)

/-- Reads a value that is no list and no record. -/
def scalar : Reader Data
  | '"' :: rest => do
    let (value, rest) ← text rest
    return (.text value, rest)
  | 'n' :: rest => constant "ull" .null rest
  | 't' :: rest => constant "rue" (.bool true) rest
  | 'f' :: rest => constant "alse" (.bool false) rest
  | cs => number cs

/-- Reads a value; `nested` reads those inside it. -/
def valueWith (nested : Reader Data) : Reader Data
  | '[' :: rest => do
    let (items, rest) ← sequence ']' nested rest
    return (.list items, rest)
  | '\x7b' :: rest => do
    let (members, rest) ← sequence '\x7d' (member nested) rest
    return (.record members, rest)
  | cs => scalar cs

/-- Reads a value whose lists and records nest at most `depth` deep. -/
def value : (depth : Nat) → Reader Data
  | 0 => scalar
  | depth + 1 => valueWith (value depth)

/-- Deepest nesting of lists and records. -/
def maxDepth : Nat := 127

end Json

/-- Reads a whole text as one JSON value. -/
def Data.ofJson? (s : String) : Option Data := do
  let (value, rest) ← Json.value Json.maxDepth (Json.skipSpace s.toList)
  if (Json.skipSpace rest).isEmpty then return value else none

end FisheryRules
