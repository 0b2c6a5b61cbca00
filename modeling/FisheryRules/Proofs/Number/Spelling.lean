import FisheryRules.Data.Basic
import FisheryRules.Proofs.Number.Shortest

/-!
# Spelled numbers

A finite number is written with digits on both sides of a point, and they spell it:
`Binary64.realToJson_spelled`.

## Main definitions

* `Decimal.IsPointed` — digits around a point.
-/
namespace FisheryRules

namespace Decimal

/-- Digits on both sides of a point, without superfluous zeros in front. -/
structure IsPointed (whole fraction : List Char) : Prop where
  whole_digits : ∀ c ∈ whole, c.isDigit = true
  fraction_digits : ∀ c ∈ fraction, c.isDigit = true
  whole_ne_nil : whole ≠ []
  fraction_ne_nil : fraction ≠ []
  canonical : 1 < whole.length → whole.head? ≠ some '0'

/-- A row of digits that has no point gets one at its end. -/
def withPoint (cs : List Char) : List Char := if cs.contains '.' then cs else cs ++ ['.', '0']

theorem ofDigits_replicate_zero (n : ℕ) : ofDigits (List.replicate n '0') = 0 :=
  Nat.ofDigitChars_replicate_zero

theorem isDigit_of_mem_replicate {n : ℕ} {c : Char} (h : c ∈ List.replicate n '0') :
    c.isDigit = true := by
  rw [List.eq_of_mem_replicate h]
  decide

theorem isDigit_of_mem_zero : ∀ c ∈ ['0'], c.isDigit = true :=
  fun _ => isDigit_of_mem_replicate (n := 1)

theorem withPoint_of_digits {cs : List Char} (h : ∀ c ∈ cs, c.isDigit = true) :
    withPoint cs = cs ++ ['.', '0'] := by
  have hpoint : '.' ∉ cs := fun hmem => absurd (h '.' hmem) (by decide)
  simp [withPoint, hpoint]

theorem withPoint_of_point (whole fraction : List Char) :
    withPoint (whole ++ '.' :: fraction) = whole ++ '.' :: fraction := by
  simp [withPoint]

/-- The digits of a decimal that is written without an exponent, and what they stand for. -/
theorem positional_spelled {digits : ℕ} (hdigits : 0 < digits) (k : ℤ) :
    ∃ whole fraction, withPoint (Binary64.positional digits k) = whole ++ '.' :: fraction ∧
      IsPointed whole fraction ∧
      (ofDigits (whole ++ fraction) : ℚ) * 10 ^ (0 - (fraction.length : ℤ)) = digits * 10 ^ k := by
  have hds : ∀ c ∈ Nat.toDigits 10 digits, c.isDigit = true := fun _ => isDigit_of_mem_toDigits
  have hhead := head?_toDigits_ne_zero hdigits
  have hvalue := ofDigits_toDigits digits
  have hne : Nat.toDigits 10 digits ≠ [] := Nat.toDigits_ne_nil
  unfold Binary64.positional
  dsimp only
  generalize Nat.toDigits 10 digits = ds at *
  split
  -- Zeros stand in for the places before the point.
  · next hsign =>
    obtain ⟨n, rfl⟩ := Int.eq_ofNat_of_zero_le hsign
    have hwhole : ∀ c ∈ ds ++ List.replicate n '0', c.isDigit = true := fun c hc =>
      (List.mem_append.1 hc).elim (hds c) isDigit_of_mem_replicate
    refine ⟨ds ++ List.replicate n '0', ['0'], withPoint_of_digits hwhole,
      ⟨hwhole, isDigit_of_mem_zero, by simp [hne], by simp,
        fun _ => ?_⟩, ?_⟩
    · rwa [List.head?_append_of_ne_nil _ hne]
    · have hzero : ofDigits ['0'] = 0 := rfl
      simp only [ofDigits_append, ofDigits_replicate_zero, hvalue, hzero, List.length_replicate,
        List.length_singleton]
      push_cast
      rw [zpow_neg_one, zpow_natCast]
      ring
  · next hsign =>
    obtain ⟨n, rfl⟩ : ∃ n : ℕ, k = -n := ⟨k.natAbs, by omega⟩
    rw [neg_neg, Int.toNat_natCast]
    split
    -- The point stands among the digits.
    · next hplaces =>
      refine ⟨ds.take (ds.length - n), ds.drop (ds.length - n), withPoint_of_point _ _,
        ⟨fun c hc => hds c (List.mem_of_mem_take hc), fun c hc => hds c (List.mem_of_mem_drop hc),
          ?_, ?_, fun _ => ?_⟩, ?_⟩
      · simp [hne]
        omega
      · simp
        omega
      · rwa [List.head?_take, if_neg (by omega)]
      · rw [List.take_append_drop, hvalue, List.length_drop, zero_sub]
        congr 3
        omega
    -- Zeros stand in for the places after the point.
    · next hplaces =>
      have hfraction : ∀ c ∈ List.replicate (n - ds.length) '0' ++ ds, c.isDigit = true :=
        fun c hc => (List.mem_append.1 hc).elim isDigit_of_mem_replicate (hds c)
      refine ⟨['0'], List.replicate (n - ds.length) '0' ++ ds, withPoint_of_point ['0'] _,
        ⟨isDigit_of_mem_zero, hfraction, by simp, by simp [hne],
          by simp⟩, ?_⟩
      have hzero : ofDigits ['0'] = 0 := rfl
      have hlength : ((List.replicate (n - ds.length) '0' ++ ds).length : ℤ) = n := by
        simp only [List.length_append, List.length_replicate]
        omega
      rw [hlength, zero_sub, ofDigits_append, ofDigits_append, ofDigits_replicate_zero, hzero,
        hvalue]
      simp

end Decimal

namespace Binary64

/-- A number is its sign and its magnitude. -/
theorem ofMagnitude_magnitude (x : Binary64) : ofMagnitude x.isNegative x.magnitude = x := by
  have hlt := x.bits.toNat_lt
  have hbits : (if x.isNegative then signBit + x.magnitude else x.magnitude) = x.bits.toNat := by
    split
    · next hsign =>
      have hle : signBit ≤ x.bits.toNat := of_decide_eq_true hsign
      simp only [magnitude, signBit] at *
      omega
    · next hsign =>
      have hle : ¬ signBit ≤ x.bits.toNat := of_decide_eq_false (Bool.eq_false_iff.2 hsign)
      simp only [magnitude, signBit] at *
      omega
  rw [ofMagnitude, hbits, UInt64.ofNat_toNat]

theorem not_special {x : Binary64} (hfinite : x.isFinite = true) :
    x.isNaN = false ∧ x.isInfinite = false := by
  have hbits : x.magnitude < infiniteBits := of_decide_eq_true hfinite
  exact ⟨decide_eq_false (by omega), beq_false_of_ne hbits.ne⟩

/-- The characters of a finite number after its sign. -/
def unsignedText (x : Binary64) : List Char :=
  if x.magnitude = 0 then ['0'] else positional x.shortest.1 x.shortest.2

/-- A finite number is written as its sign and a row of digits that has a point. -/
theorem realToJson_eq {x : Binary64} (hfinite : x.isFinite = true) :
    Data.realToJson x =
      (if x.isNegative then ['-'] else []) ++ Decimal.withPoint x.unsignedText := by
  have hkind := not_special hfinite
  have htext : x.toText.toList = (if x.isNegative then ['-'] else []) ++ x.unsignedText := by
    unfold toText unsignedText
    rw [hkind.1, hkind.2]
    cases x.isNegative <;> simp
  have hpoint : ((if x.isNegative then ['-'] else []) ++ x.unsignedText).contains '.' =
      x.unsignedText.contains '.' := by
    cases x.isNegative <;> simp
  unfold Data.realToJson Decimal.withPoint
  rw [hfinite, htext]
  simp only [Bool.not_true, Bool.false_eq_true, if_false, hpoint]
  split
  · rfl
  · rw [List.append_assoc]

/-- A finite number is written as its sign and digits around a point, and is the number that they
spell. -/
theorem realToJson_spelled {x : Binary64} (hfinite : x.isFinite = true) :
    ∃ whole fraction, Data.realToJson x =
        (if x.isNegative then ['-'] else []) ++ (whole ++ '.' :: fraction) ∧
      Decimal.IsPointed whole fraction ∧
      (Decimal.ofParts x.isNegative whole fraction 0).toBinary64 = x := by
  rw [realToJson_eq hfinite, unsignedText]
  by_cases hzero : x.magnitude = 0
  · refine ⟨['0'], ['0'], by rw [if_pos hzero]; rfl,
      ⟨Decimal.isDigit_of_mem_zero, Decimal.isDigit_of_mem_zero, by simp, by simp, by simp⟩, ?_⟩
    calc (Decimal.ofParts x.isNegative ['0'] ['0'] 0).toBinary64 =
          ofMagnitude x.isNegative 0 := rfl
      _ = x := by rw [← hzero, ofMagnitude_magnitude]
  · have hspan := shortest_holds hfinite hzero
    obtain ⟨whole, fraction, hspelled, hpointed, hvalue⟩ :=
      Decimal.positional_spelled (hspan.digits_pos hfinite hzero) x.shortest.2
    refine ⟨whole, fraction, by rw [if_neg hzero, hspelled], hpointed, ?_⟩
    rw [← hvalue] at hspan
    have hexponent : (Decimal.ofParts x.isNegative whole fraction 0).exponent ≤ 0 := by
      simp [Decimal.ofParts]
    calc (Decimal.ofParts x.isNegative whole fraction 0).toBinary64 =
          ofMagnitude x.isNegative x.magnitude :=
        Decimal.toBinary64_of_holds hfinite hzero hexponent hspan
      _ = x := ofMagnitude_magnitude x

end Binary64

end FisheryRules
