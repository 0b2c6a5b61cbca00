import FisheryRules.Number.Binary64

/-!
# Shortest decimals

A finite binary64 number is written with the fewest decimal digits that read back as it. Every
real strictly between the midpoints to its neighbours reads back as the number, and the midpoints
themselves do when its significand is even. On each grid of multiples of a power of ten only the
two neighbours of the number can be nearest to it, so the grids are tried from the coarsest on.

## Main definitions

* `Binary64.shortest` — the digits and the power of ten.
* `Binary64.toText` — the number written without an exponent.
-/
namespace FisheryRules.Binary64

/-- The reals that read back as a number: from `low` to `high` around `value`, in units of
`2 ^ unit`, with or without the ends. -/
structure Span where
  low : Nat
  value : Nat
  high : Nat
  unit : Int
  closed : Bool

/-- The span of a finite number other than zero. Below a power of two the neighbour is half as
far away. -/
def span (x : Binary64) : Span :=
  let (m, power) := x.significand
  let low := if m = hiddenBit ∧ power ≠ -1074 then 4 * m - 1 else 4 * m - 2
  ⟨low, 4 * m, 4 * m + 2, power - 2, m % 2 = 0⟩

/-- The multiple of `10 ^ k` in the span that is nearest to its value, as the factor; of two
equally near ones the greater. -/
def Span.nearestOnGrid? (s : Span) (k : Int) : Option Nat :=
  let scale := Nat.pow 10 (-k).toNat <<< s.unit.toNat
  let step := Nat.pow 10 k.toNat <<< (-s.unit).toNat
  let inside (factor : Nat) : Bool :=
    let point := factor * step
    if s.closed then s.low * scale ≤ point && point ≤ s.high * scale
    else s.low * scale < point && point < s.high * scale
  let below := s.value * scale / step
  if inside below && (!inside (below + 1) || 2 * (s.value * scale - below * step) < step) then
    some below
  else if inside (below + 1) then some (below + 1)
  else none

/-- The first grid from `10 ^ k` downwards with a point in the span. -/
def Span.search (s : Span) : (tries : Nat) → (k : Int) → Nat × Int
  | 0, k => (0, k)
  | tries + 1, k =>
    match s.nearestOnGrid? k with
    | some factor => (factor, k)
    | none => s.search tries (k - 1)

/-- The digits and the power of ten of the shortest decimal of a finite number other than zero.
The search starts above the number and needs no more than seventeen digits below it. -/
def shortest (x : Binary64) : Nat × Int :=
  let (m, power) := x.significand
  x.span.search 24 (((Nat.log2 m : Int) + 1 + power) * 30103 / 100000 + 2)

/-- The decimal `digits * 10 ^ k` without an exponent. -/
def positional (digits : Nat) (k : Int) : List Char :=
  let ds := Nat.toDigits 10 digits
  if 0 ≤ k then ds ++ List.replicate k.toNat '0'
  else
    let places := (-k).toNat
    if places < ds.length then ds.take (ds.length - places) ++ '.' :: ds.drop (ds.length - places)
    else '0' :: '.' :: List.replicate (places - ds.length) '0' ++ ds

/-- The number as the shortest decimal that reads back, without an exponent and without a point
when it is whole. Zero keeps its sign. -/
def toText (x : Binary64) : String :=
  if x.isNaN then "NaN"
  else
    let body :=
      if x.isInfinite then "inf".toList
      else if x.magnitude = 0 then ['0']
      else
        let (digits, k) := x.shortest
        positional digits k
    String.ofList (if x.isNegative then '-' :: body else body)

end FisheryRules.Binary64
