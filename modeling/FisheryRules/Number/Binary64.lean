/-!
# Binary64 numbers

Numbers of facts and conditions are binary64 numbers of IEEE 754, kept as their 64 bits. They are
read, compared and written, never computed with. The order is that of the represented values: the
two zeros are equal, and a NaN compares with nothing.

## Main definitions

* `Binary64.key` — an integer that orders the numbers other than NaN.
* `Binary64.compare?` — the comparison, undefined on a NaN.
* `Binary64.ofRatio` — the number nearest to a quotient.
-/
namespace FisheryRules

/-- A binary64 number. -/
structure Binary64 where
  bits : UInt64
deriving DecidableEq, Inhabited

namespace Binary64

/-- The bits of positive infinity; greater magnitudes are NaN. -/
def infiniteBits : Nat := 0x7FF0000000000000

/-- The bit that negative numbers have set: `2 ^ 63`. -/
def signBit : Nat := 0x8000000000000000

/-- The bit of a significand that is not stored: `2 ^ 52`. -/
def hiddenBit : Nat := 0x10000000000000

def isNegative (x : Binary64) : Bool := signBit ≤ x.bits.toNat

/-- The bits without the sign. -/
def magnitude (x : Binary64) : Nat := x.bits.toNat % signBit

def isNaN (x : Binary64) : Bool := infiniteBits < x.magnitude

def isInfinite (x : Binary64) : Bool := x.magnitude == infiniteBits

def isFinite (x : Binary64) : Bool := x.magnitude < infiniteBits

/-- Orders the numbers other than NaN as their values are ordered. -/
def key (x : Binary64) : Int :=
  if x.isNegative then -(x.magnitude : Int) else x.magnitude

/-- The comparison of two numbers, undefined when one of them is a NaN. -/
def compare? (x y : Binary64) : Option Ordering :=
  if x.isNaN || y.isNaN then none else some (compare x.key y.key)

/-- The number with the given sign and magnitude bits. -/
def ofMagnitude (negative : Bool) (magnitude : Nat) : Binary64 :=
  ⟨UInt64.ofNat (if negative then signBit + magnitude else magnitude)⟩

def infinity (negative : Bool) : Binary64 := ofMagnitude negative infiniteBits

def nan : Binary64 := ⟨0x7FF8000000000000⟩

/-- The significand and the power of two whose product is the magnitude of a finite number. -/
def significand (x : Binary64) : Nat × Int :=
  let exponent : Nat := x.magnitude / hiddenBit
  let fraction : Nat := x.magnitude % hiddenBit
  if exponent = 0 then (fraction, -1074) else (hiddenBit + fraction, (exponent : Int) - 1075)

/-- The whole number nearest to `num / den`; a half goes to the even neighbour. -/
def nearestEven (num den : Nat) : Nat :=
  let quotient := num / den
  let remainder := num % den
  if 2 * remainder < den ∨ (2 * remainder = den ∧ quotient % 2 = 0) then quotient
  else quotient + 1

/-- The greatest power of two that is at most `num / den`, both positive. -/
def floorLog2 (num den : Nat) : Int :=
  let estimate : Int := (Nat.log2 num : Int) - Nat.log2 den
  let reached :=
    if 0 ≤ estimate then den <<< estimate.toNat ≤ num
    else den ≤ num <<< (-estimate).toNat
  if reached then estimate else estimate - 1

/-- The number nearest to `num / den`, for a positive `den`; a tie goes to the even significand,
and a quotient beyond the greatest finite number by half a step is infinite. -/
def ofRatio (negative : Bool) (num den : Nat) : Binary64 :=
  if num = 0 then ofMagnitude negative 0
  else
    let power := max (floorLog2 num den - 52) (-1074)
    let rounded :=
      if 0 ≤ power then nearestEven num (den <<< power.toNat)
      else nearestEven (num <<< (-power).toNat) den
    ofMagnitude negative (min ((power + 1074).toNat * hiddenBit + rounded) infiniteBits)

end Binary64

end FisheryRules
