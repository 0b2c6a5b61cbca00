import FisheryRules.Proofs.Text.Separators
import FisheryRules.Time.Timestamp

/-!
# Written timestamps

A timestamp says which instant it is the timestamp of, as long as only a minute's last second has a
leap second after it: `Timestamp.write_injective`.
-/
namespace FisheryRules

/-! ## Dates -/

namespace Date

/-- A day of an era falls into one of its years. -/
theorem yearOfEra_spec {dayOfEra year : Int} (hlow : 0 ≤ dayOfEra) (hhigh : dayOfEra < 146097)
    (hyear : year = (dayOfEra - dayOfEra / 1460 + dayOfEra / 36524 - dayOfEra / 146096) / 365) :
    (0 ≤ year ∧ year < 400) ∧ 0 ≤ dayOfEra - (365 * year + year / 4 - year / 100) ∧
      dayOfEra - (365 * year + year / 4 - year / 100) ≤ 365 := by
  have hrange : 0 ≤ year ∧ year < 400 := by omega
  -- With the centuries fixed, all that is left is linear.
  have hcentury : dayOfEra / 36524 = 0 ∨ dayOfEra / 36524 = 1 ∨ dayOfEra / 36524 = 2 ∨
      dayOfEra / 36524 = 3 ∨ dayOfEra / 36524 = 4 := by omega
  have hcentury' : year / 100 = 0 ∨ year / 100 = 1 ∨ year / 100 = 2 ∨ year / 100 = 3 := by omega
  refine ⟨hrange, ?_, ?_⟩
  · rcases hcentury with h | h | h | h | h <;> rcases hcentury' with h' | h' | h' | h' <;> omega
  · rcases hcentury with h | h | h | h | h <;> rcases hcentury' with h' | h' | h' | h' <;> omega

/-- The date of a day has the number of that day. -/
theorem ofDayNumber_spec (number : Int) :
    (1 ≤ (ofDayNumber number).month ∧ (ofDayNumber number).month ≤ 12) ∧
    (1 ≤ (ofDayNumber number).day ∧ (ofDayNumber number).day ≤ 31) ∧
    (ofDayNumber number).dayNumber = number := by
  have hlow : 0 ≤ (number + 719468) % 146097 := by omega
  have hhigh : (number + 719468) % 146097 < 146097 := by omega
  have hdays : (number + 719468) / 146097 * 146097 + (number + 719468) % 146097 - 719468 =
      number := by omega
  generalize hera : (number + 719468) / 146097 = era at *
  generalize hdayOfEra : (number + 719468) % 146097 = dayOfEra at *
  generalize hyear :
    (dayOfEra - dayOfEra / 1460 + dayOfEra / 36524 - dayOfEra / 146096) / 365 = year
  obtain ⟨hyears, hdayLow, hdayHigh⟩ := yearOfEra_spec hlow hhigh hyear.symm
  generalize hday : dayOfEra - (365 * year + year / 4 - year / 100) = dayOfYear at *
  simp only [ofDayNumber, hera, hdayOfEra, hyear, hday]
  clear hera hdayOfEra hyear
  generalize hmonth : (5 * dayOfYear + 2) / 153 = monthFromMarch
  have hquotient : (year + era * 400) / 400 = era := by omega
  have hremainder : (year + era * 400) % 400 = year := by omega
  by_cases hm : monthFromMarch < 10
  · have hlate : ¬ monthFromMarch + 3 ≤ 2 := by omega
    have hback : (monthFromMarch + 3 + 9) % 12 = monthFromMarch := by omega
    simp only [dayNumber, hm, hlate, if_true, if_false, hback, add_zero, hquotient, hremainder]
    exact ⟨by omega, by omega, by omega⟩
  · have hearly : monthFromMarch - 9 ≤ 2 := by omega
    have hback : (monthFromMarch - 9 + 9) % 12 = monthFromMarch := by omega
    simp only [dayNumber, hm, hearly, if_true, if_false, hback, add_sub_cancel_right, hquotient,
      hremainder]
    exact ⟨by omega, by omega, by omega⟩

end Date

attribute [ext] Date Instant

/-- Nanoseconds of a leap second follow the last second of a minute only. -/
structure Instant.IsProper (t : Instant) : Prop where
  nanos : t.nanos < 2000000000
  leap : 1000000000 ≤ t.nanos → t.seconds % 60 = 59

namespace Timestamp

/-! ## Characters -/

theorem isDigit_of_mem_padded {width n : Nat} {c : Char} (h : c ∈ padded width n) :
    c.isDigit = true := by
  obtain h | h := List.mem_append.1 h
  · rw [List.eq_of_mem_replicate h]
    decide
  · exact Nat.isDigit_of_mem_toDigits (by decide) (by decide) h

theorem notMem_padded {c : Char} (hc : c.isDigit = false) (width n : Nat) : c ∉ padded width n :=
  fun hmem => by simp [isDigit_of_mem_padded hmem] at hc

/-- Whether a character can stand in a timestamp. -/
def isStampChar (c : Char) : Bool := c.isDigit || ['-', '+', 'T', ':', '.', 'Z'].contains c

theorem all_padded (width n : Nat) : (padded width n).all isStampChar = true :=
  List.all_eq_true.2 fun c hc => by simp [isStampChar, isDigit_of_mem_padded hc]

theorem all_yearChars (year : Int) : (yearChars year).all isStampChar = true := by
  unfold yearChars
  split
  · exact all_padded 4 _
  · rw [List.all_cons, all_padded, Bool.and_true]
    split <;> decide

theorem all_fractionChars (nanos : Nat) : (fractionChars nanos).all isStampChar = true := by
  have hpoint (width n : Nat) : ('.' :: padded width n).all isStampChar = true := by
    rw [List.all_cons, all_padded]
    decide
  unfold fractionChars
  split
  · rfl
  · split
    · exact hpoint 3 _
    · split
      · exact hpoint 6 _
      · exact hpoint 9 _

theorem all_write {zone : List Char} (hzone : zone.all isStampChar = true) (t : Instant) :
    (write zone t).all isStampChar = true := by
  have hmarks : isStampChar '-' = true ∧ isStampChar 'T' = true ∧ isStampChar ':' = true := by
    decide
  simp only [write, List.all_append, List.all_cons, all_yearChars, all_padded, all_fractionChars,
    hzone, hmarks, Bool.and_self]

@[simp] theorem ofDigitChars_padded (width n : Nat) :
    Nat.ofDigitChars 10 (padded width n) 0 = n := by
  simp [padded, Nat.ofDigitChars_append]

theorem padded_injective {width m n : Nat} (h : padded width m = padded width n) : m = n := by
  rw [← ofDigitChars_padded width m, h, ofDigitChars_padded]

theorem length_padded {width n : Nat} (hwidth : 0 < width) (h : n < 10 ^ width) :
    (padded width n).length = width := by
  have hle : (Nat.toDigits 10 n).length ≤ width :=
    (Nat.length_toDigits_le_iff (by decide) hwidth).2 h
  simp [padded]
  omega

/-- Two digits are split off the front of a text. -/
theorem padded_append_inj {m n : Nat} (hm : m < 100) (hn : n < 100) {rest rest' : List Char}
    (h : padded 2 m ++ rest = padded 2 n ++ rest') : m = n ∧ rest = rest' := by
  have hlength : (padded 2 m).length = (padded 2 n).length := by
    rw [length_padded (by decide) hm, length_padded (by decide) hn]
  obtain ⟨hdigits, hrest⟩ := List.append_inj h hlength
  exact ⟨padded_injective hdigits, hrest⟩

theorem padded_ne_nil (width n : Nat) : padded width n ≠ [] := by simp [padded]

theorem yearChars_of_neg {year : Int} (h : year < 0) :
    yearChars year = '-' :: padded 4 year.natAbs := by
  have hnot : ¬ 0 ≤ year := by omega
  simp [yearChars, h, hnot]

/-- A year that is not negative has four digits, or a plus sign and more. -/
theorem yearChars_of_nonneg {year : Int} (h : 0 ≤ year) :
    yearChars year = if year ≤ 9999 then padded 4 year.toNat else '+' :: padded 4 year.natAbs := by
  have hnot : ¬ year < 0 := by omega
  by_cases hhigh : year ≤ 9999 <;> simp [yearChars, h, hnot, hhigh]

theorem hyphen_notMem_yearChars {year : Int} (h : 0 ≤ year) : '-' ∉ yearChars year := by
  rw [yearChars_of_nonneg h]
  split
  · exact notMem_padded (by decide) 4 _
  · simpa using notMem_padded (c := '-') (by decide) 4 year.natAbs

theorem yearChars_injective {year year' : Int} (h : 0 ≤ year) (h' : 0 ≤ year')
    (heq : yearChars year = yearChars year') : year = year' := by
  rw [yearChars_of_nonneg h, yearChars_of_nonneg h'] at heq
  have hplus (n m : Nat) : padded 4 n ≠ '+' :: padded 4 m := fun heq =>
    notMem_padded (c := '+') (by decide) 4 n (heq ▸ List.mem_cons_self)
  split at heq <;> split at heq
  · have := padded_injective heq
    omega
  · exact absurd heq (hplus _ _)
  · exact absurd heq.symm (hplus _ _)
  · have := padded_injective (List.cons.inj heq).2
    omega

/-- The year is split off the front of a text that goes on with a hyphen. -/
theorem yearChars_append_inj {year year' : Int} {rest rest' : List Char}
    (h : yearChars year ++ '-' :: rest = yearChars year' ++ '-' :: rest') :
    year = year' ∧ rest = rest' := by
  -- A negative year starts with the hyphen that ends any other one.
  have hmixed {y y' : Int} {r r' : List Char} (hy : 0 ≤ y) (hy' : y' < 0)
      (h : yearChars y ++ '-' :: r = yearChars y' ++ '-' :: r') : False := by
    rw [yearChars_of_neg hy'] at h
    have hsplit : yearChars y ++ '-' :: r = [] ++ '-' :: (padded 4 y'.natAbs ++ '-' :: r') := h
    obtain ⟨hnil, -⟩ := Text.append_separator_inj (hyphen_notMem_yearChars hy) List.not_mem_nil
      hsplit
    rw [yearChars_of_nonneg hy] at hnil
    split at hnil
    · exact padded_ne_nil 4 _ hnil
    · cases hnil
  by_cases hy : 0 ≤ year <;> by_cases hy' : 0 ≤ year'
  · obtain ⟨heq, hrest⟩ := Text.append_separator_inj (hyphen_notMem_yearChars hy)
      (hyphen_notMem_yearChars hy') h
    exact ⟨yearChars_injective hy hy' heq, hrest⟩
  · exact (hmixed hy (by omega) h).elim
  · exact (hmixed hy' (by omega) h.symm).elim
  · rw [yearChars_of_neg (by omega), yearChars_of_neg (by omega)] at h
    obtain ⟨hdigits, hrest⟩ := Text.append_separator_inj (notMem_padded (by decide) 4 _)
      (notMem_padded (by decide) 4 _) (List.cons.inj h).2
    have := padded_injective hdigits
    exact ⟨by omega, hrest⟩

/-- The fraction digits, filled up to nine of them, spell the nanoseconds. -/
theorem fractionChars_read {n : Nat} (h : n < 1000000000) :
    Nat.ofDigitChars 10 ((fractionChars n).drop 1) 0 * 10 ^ (10 - (fractionChars n).length) =
      n := by
  have hread {width k : Nat} (hwidth : 0 < width) (hk : k < 10 ^ width) :
      Nat.ofDigitChars 10 (('.' :: padded width k).drop 1) 0 *
        10 ^ (10 - ('.' :: padded width k).length) = k * 10 ^ (9 - width) := by
    rw [List.drop_one, List.tail_cons, ofDigitChars_padded, List.length_cons,
      length_padded hwidth hk, Nat.add_sub_add_right 9 1 width]
  unfold fractionChars
  split
  · simp [*]
  · split
    · exact (hread (by decide) (by omega)).trans (by omega)
    · split
      · exact (hread (by decide) (by omega)).trans (by omega)
      · exact (hread (by decide) (by omega)).trans (by omega)

theorem fractionChars_injective {m n : Nat} (hm : m < 1000000000) (hn : n < 1000000000)
    (h : fractionChars m = fractionChars n) : m = n := by
  rw [← fractionChars_read hm, h, fractionChars_read hn]

/-- A timestamp says which instant it is the timestamp of. -/
theorem write_injective {zone : List Char} {s t : Instant} (hs : s.IsProper) (ht : t.IsProper)
    (h : write zone s = write zone t) : s = t := by
  obtain ⟨⟨_, _⟩, ⟨_, _⟩, hsNumber⟩ := Date.ofDayNumber_spec (s.seconds / 86400)
  obtain ⟨⟨_, _⟩, ⟨_, _⟩, htNumber⟩ := Date.ofDayNumber_spec (t.seconds / 86400)
  obtain ⟨hsNanos, hsLeap⟩ := hs
  obtain ⟨htNanos, htLeap⟩ := ht
  simp only [write, List.append_assoc, List.cons_append] at h
  obtain ⟨hyear, h⟩ := yearChars_append_inj h
  obtain ⟨hmonth, h⟩ := padded_append_inj (by omega) (by omega) h
  obtain ⟨hday, h⟩ := padded_append_inj (by omega) (by omega) (List.cons.inj h).2
  obtain ⟨hhour, h⟩ := padded_append_inj (by omega) (by omega) (List.cons.inj h).2
  obtain ⟨hminute, h⟩ := padded_append_inj (by omega) (by omega) (List.cons.inj h).2
  obtain ⟨hsecond, h⟩ := padded_append_inj (by split <;> omega) (by split <;> omega)
    (List.cons.inj h).2
  have hfraction := fractionChars_injective (by split <;> omega) (by split <;> omega)
    (List.append_cancel_right h)
  have hdate : Date.ofDayNumber (s.seconds / 86400) = Date.ofDayNumber (t.seconds / 86400) :=
    Date.ext hyear (by omega) (by omega)
  have hdays : s.seconds / 86400 = t.seconds / 86400 := by rw [← hsNumber, hdate, htNumber]
  -- Only a leap second is the sixtieth of its minute.
  have hleap : 1000000000 ≤ s.nanos ↔ 1000000000 ≤ t.nanos := by
    clear hdate hsNumber htNumber hyear hmonth hday hhour hminute hfraction h
    split at hsecond <;> split at hsecond <;> omega
  clear hdate hsNumber htNumber hyear hmonth hday h
  by_cases hl : 1000000000 ≤ t.nanos
  · simp only [hleap, hl, if_true] at hsecond hfraction
    exact Instant.ext (by omega) (by omega)
  · simp only [hleap, hl, if_false] at hsecond hfraction
    exact Instant.ext (by omega) (by omega)

end Timestamp

end FisheryRules
