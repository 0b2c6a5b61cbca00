/-!
# Digits of a radix

Numerals without a sign in a radix of at most sixteen, with letters of either case for the digits
from ten on.

## Main definitions

* `Radix.digit?` — the value of a digit.
* `Radix.ofDigits?` — the number that a row of digits spells.
-/
namespace FisheryRules.Radix

/-- The value of a digit. -/
def digit? (radix : Nat) (c : Char) : Option Nat :=
  let value? :=
    if c.isDigit then some (c.toNat - '0'.toNat)
    else if 'a' ≤ c && c ≤ 'f' then some (c.toNat - 'a'.toNat + 10)
    else if 'A' ≤ c && c ≤ 'F' then some (c.toNat - 'A'.toNat + 10)
    else none
  value?.filter (· < radix)

/-- The number that a row of digits spells. No digits spell none. -/
def ofDigits? (radix : Nat) (cs : List Char) : Option Nat :=
  if cs.isEmpty then none
  else (cs.mapM (digit? radix)).map fun values => values.foldl (fun n d => radix * n + d) 0

end FisheryRules.Radix
