import FisheryRules.Number.Binary64

/-!
# Decimal numbers

A decimal numeral as it is written, its nearest binary64 number, and the readers of numerals.

## Main definitions

* `Decimal` — a sign, a row of digits and a power of ten.
* `Decimal.toBinary64` — the nearest binary64 number.
* `Decimal.plain?` — digits with at most one point.
* `Binary64.parse?` — a decimal with an optional exponent, or the name of a special number.
-/
namespace FisheryRules

/-- The number `digits * 10 ^ exponent`, negated when `negative` is set. -/
structure Decimal where
  negative : Bool
  digits : Nat
  exponent : Int
deriving DecidableEq

namespace Decimal

/-- The nearest binary64 number. The first two cases only spare the arithmetic on powers of ten
that are far out of range. -/
def toBinary64 (d : Decimal) : Binary64 :=
  if d.digits = 0 then .ofMagnitude d.negative 0
  else if 310 < d.exponent then .infinity d.negative
  else if d.exponent + Nat.log2 d.digits / 3 + 1 < -330 then .ofMagnitude d.negative 0
  else if 0 ≤ d.exponent then .ofRatio d.negative (d.digits * Nat.pow 10 d.exponent.toNat) 1
  else .ofRatio d.negative d.digits (Nat.pow 10 (-d.exponent).toNat)

def digitValue (c : Char) : Nat := c.toNat - '0'.toNat

/-- The number that a row of decimal digits spells. -/
def ofDigits (cs : List Char) : Nat := cs.foldl (fun n c => 10 * n + digitValue c) 0

/-- The decimal spelled by the digits before and after the point. -/
def ofParts (negative : Bool) (whole fraction : List Char) (exponent : Int) : Decimal :=
  ⟨negative, ofDigits (whole ++ fraction), exponent - fraction.length⟩

/-- Splits a text into its leading digits, the digits after a point that follows them, whether
there was a point, and the rest. -/
def splitPoint (cs : List Char) : List Char × List Char × Bool × List Char :=
  let whole := cs.takeWhile Char.isDigit
  match cs.dropWhile Char.isDigit with
  | '.' :: rest => (whole, rest.takeWhile Char.isDigit, true, rest.dropWhile Char.isDigit)
  | rest => (whole, [], false, rest)

/-- Reads an optional minus sign and digits, of which the first precedes any point; there is at
most one point. -/
def plain? (cs : List Char) : Option Decimal :=
  let negative := cs.head? == some '-'
  let body := if negative then cs.drop 1 else cs
  match splitPoint body with
  | ([], _, _, _) => none
  | (whole, fraction, _, []) => some (ofParts negative whole fraction 0)
  | _ => none

/-- Reads a sign and digits after the letter of an exponent. -/
def exponent? (cs : List Char) : Option Int :=
  let negative := cs.head? == some '-'
  let body := if negative || cs.head? == some '+' then cs.drop 1 else cs
  if body.isEmpty || !body.all Char.isDigit then none
  else
    let value : Int := ofDigits body
    some (if negative then -value else value)

/-- Reads digits with at most one point among or beside them and an optional exponent. -/
def scientific? (negative : Bool) (cs : List Char) : Option Decimal :=
  match splitPoint cs with
  | (whole, fraction, _, rest) =>
    if whole.isEmpty && fraction.isEmpty then none
    else
      match rest with
      | [] => some (ofParts negative whole fraction 0)
      | letter :: tail =>
        if letter == 'e' || letter == 'E' then
          (exponent? tail).map fun exponent => ofParts negative whole fraction exponent
        else none

end Decimal

/-- Reads a number: an optional sign, then a decimal, or `inf`, `infinity` or `nan` in any case. -/
def Binary64.parse? (s : String) : Option Binary64 :=
  let cs := s.toList
  let negative := cs.head? == some '-'
  let body := if negative || cs.head? == some '+' then cs.drop 1 else cs
  let word := String.ofList (body.map Char.toLower)
  if word == "inf" || word == "infinity" then some (.infinity negative)
  else if word == "nan" then some .nan
  else (Decimal.scientific? negative body).map (·.toBinary64)

end FisheryRules
