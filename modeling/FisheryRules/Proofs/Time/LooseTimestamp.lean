import FisheryRules.Proofs.Number.Digits
import FisheryRules.Proofs.Text.Lines
import FisheryRules.Proofs.Time.Timestamp
import FisheryRules.Time.Loose

/-!
# Reading written timestamps

The timestamp of a proper instant whose year has four digits is read as that instant.

## Main definitions

* `Instant.HasPlainYear` — the years that are written without a sign.

## Main results

* `Timestamp.readLoose?_toZulu` — written instants are read back.
-/
namespace FisheryRules

theorem Date.isValid_ofDayNumber (number : Int) : (ofDayNumber number).isValid = true := by
  simp [isValid, (ofDayNumber_spec number).2.2]

/-- The year of the instant has four digits and no sign. -/
def Instant.HasPlainYear (t : Instant) : Prop :=
  0 ≤ (Date.ofDayNumber (t.seconds / 86400)).year ∧
    (Date.ofDayNumber (t.seconds / 86400)).year ≤ 9999

namespace Timestamp

variable {n : Nat} {rest : List Char}

/-! ## Digits -/

theorem head?_padded {width : Nat} {c : Char} (h : c ∈ (padded width n ++ rest).head?) :
    c.isDigit = true := by
  rw [List.head?_append_of_ne_nil _ (padded_ne_nil width n)] at h
  exact isDigit_of_mem_padded (List.mem_of_mem_head? h)

theorem isBlank_of_isDigit {c : Char} (h : c.isDigit = true) : Text.isBlank c = false := by
  have hdigit : 48 ≤ c.toNat ∧ c.toNat ≤ 57 := by
    simpa [Char.isDigit, UInt32.le_iff_toNat_le] using h
  simp only [Text.isBlank, Bool.or_eq_false_iff, Bool.and_eq_false_iff, decide_eq_false_iff_not,
    beq_eq_false_iff_ne]
  omega

theorem trimStart_padded (width : Nat) :
    Text.trimStart (padded width n ++ rest) = padded width n ++ rest :=
  Text.trimStart_eq_self fun _ hc => isBlank_of_isDigit (head?_padded hc)

/-- As many digits as are allowed are read as the number that they were written for. -/
theorem numeral?_padded {width : Nat} (hwidth : 0 < width) (h : n < 10 ^ width) :
    numeral? width (padded width n ++ rest) = some (n, rest) := by
  have hlength := length_padded hwidth h
  have htake : (padded width n ++ rest).take width = padded width n := List.take_left' hlength
  have hdigits : (padded width n).takeWhile Char.isDigit = padded width n :=
    List.takeWhile_eq_self_iff.2 fun _ => isDigit_of_mem_padded
  have hvalue : Decimal.ofDigits (padded width n) = n := ofDigitChars_padded width n
  rw [numeral?, htake, hdigits]
  simp [padded_ne_nil, hvalue, List.drop_left' hlength, hlength]

theorem shortNumber?_padded (h : n < 100) :
    shortNumber? (padded 2 n ++ rest) = some (n, rest) := by
  rw [shortNumber?, trimStart_padded, numeral?_padded (by decide) h]

theorem markedNumber?_padded {mark : Char} (hmark : Text.isBlank mark = false) (h : n < 100) :
    markedNumber? mark (mark :: (padded 2 n ++ rest)) = some (n, rest) := by
  have htrim : Text.trimStart (mark :: (padded 2 n ++ rest)) = mark :: (padded 2 n ++ rest) :=
    Text.trimStart_eq_self fun c hc => by
      obtain rfl := Option.some.inj hc
      exact hmark
  rw [markedNumber?, htrim]
  simp [shortNumber?_padded h]

/-! ## Parts -/

theorem looseYear?_yearChars {year : Int} (hlow : 0 ≤ year) (hhigh : year ≤ 9999) :
    looseYear? (yearChars year ++ rest) = some (year, rest) := by
  have hn : year.toNat < 10 ^ 4 := by omega
  have hread : numeral? 4 (padded 4 year.toNat ++ rest) = some (year.toNat, rest) :=
    numeral?_padded (by decide) hn
  have hhead (c : Char) (hc : (padded 4 year.toNat ++ rest).head? = some c) : c.isDigit = true :=
    head?_padded hc
  have hyear : (year.toNat : Int) = year := by omega
  rw [yearChars_of_nonneg hlow, if_pos hhigh, looseYear?, trimStart_padded]
  split
  · exact absurd (hhead '-' (by simp [*])) (by decide)
  · exact absurd (hhead '+' (by simp [*])) (by decide)
  · simp [hread, hyear]

theorem looseDate?_write {date : Date} (hvalid : date.isValid = true)
    (hyear : 0 ≤ date.year ∧ date.year ≤ 9999) (hmonth : 0 ≤ date.month ∧ date.month < 100)
    (hday : 0 ≤ date.day ∧ date.day < 100) :
    looseDate? (yearChars date.year ++ '-' :: (padded 2 date.month.toNat ++
      '-' :: (padded 2 date.day.toNat ++ rest))) = some (date, rest) := by
  have hhyphen : Text.isBlank '-' = false := by decide
  have hkept : isKeptYear date.year = true := by
    simp only [isKeptYear, Bool.and_eq_true, decide_eq_true_eq]
    omega
  have hdate : (⟨date.year, date.month.toNat, date.day.toNat⟩ : Date) = date :=
    Date.ext rfl (by simp; omega) (by simp; omega)
  rw [looseDate?, looseYear?_yearChars hyear.1 hyear.2]
  simp only [Option.bind_eq_bind, Option.bind_some,
    markedNumber?_padded hhyphen (n := date.month.toNat) (by omega),
    markedNumber?_padded hhyphen (n := date.day.toNat) (by omega), hdate, hkept, hvalid]
  rfl

/-- The digits of a fraction are read up to what follows them. -/
theorem fraction_padded {width : Nat} (hwidth : 0 < width) (hle : width ≤ 9) (h : n < 10 ^ width) :
    fraction (padded width n ++ 'Z' :: rest) = .ok (n * 10 ^ (9 - width), 'Z' :: rest) := by
  have hlength := length_padded hwidth h
  have hdigits : ∀ c ∈ padded width n, c.isDigit = true := fun _ => isDigit_of_mem_padded
  have htake : (padded width n ++ 'Z' :: rest).takeWhile Char.isDigit = padded width n := by
    simp [List.takeWhile_append_of_pos hdigits]
  have hdrop : (padded width n ++ 'Z' :: rest).dropWhile Char.isDigit = 'Z' :: rest := by
    simp [List.dropWhile_append_of_pos hdigits]
  have hshown : (padded width n).take 9 = padded width n := List.take_of_length_le (by omega)
  have hvalue : Decimal.ofDigits (padded width n) = n := ofDigitChars_padded width n
  unfold fraction
  simp only [htake, hdrop, hshown, hvalue, hlength]
  obtain ⟨c, digits, hcons⟩ := List.exists_cons_of_ne_nil (padded_ne_nil width n)
  have hc : c.isDigit = true := hdigits c (hcons ▸ List.mem_cons_self)
  simp [hcons, hc]

/-- A fraction that is not left out is read as the nanoseconds that it was written for. -/
theorem fraction_fractionChars (h : n < 1000000000) (hne : n ≠ 0) :
    ∃ digits, fractionChars n = '.' :: digits ∧
      ∀ rest, fraction (digits ++ 'Z' :: rest) = .ok (n, 'Z' :: rest) := by
  have hread {width k : Nat} (hwidth : 0 < width) (hle : width ≤ 9) (hk : k < 10 ^ width)
      (hvalue : k * 10 ^ (9 - width) = n) :
      ∃ digits, '.' :: padded width k = '.' :: digits ∧
        ∀ rest, fraction (digits ++ 'Z' :: rest) = .ok (n, 'Z' :: rest) :=
    ⟨_, rfl, fun _ => hvalue ▸ fraction_padded hwidth hle hk⟩
  unfold fractionChars
  rw [if_neg hne]
  split
  · exact hread (by decide) (by decide) (by omega) (by omega)
  · split
    · exact hread (by decide) (by decide) (by omega) (by omega)
    · exact hread (by decide) (by decide) (by omega) (by omega)

/-- A time of day is read with its fraction. -/
theorem looseTime?_write {hour minute second nanos : Nat} (hhour : hour < 100)
    (hminute : minute < 100) (hsecond : second < 100) (hnanos : nanos < 1000000000) :
    looseTime? (padded 2 hour ++ ':' :: (padded 2 minute ++ ':' :: (padded 2 second ++
      (fractionChars nanos ++ 'Z' :: rest)))) =
      (clockTime? hour minute second nanos).map fun time => (time, 'Z' :: rest) := by
  have hcolon : Text.isBlank ':' = false := by decide
  rw [looseTime?, shortNumber?_padded hhour]
  simp only [Option.bind_eq_bind, Option.bind_some, markedNumber?_padded hcolon hminute,
    markedNumber?_padded hcolon hsecond]
  by_cases hzero : nanos = 0
  · subst hzero
    simp only [fractionChars, if_true, List.nil_append]
    cases clockTime? hour minute second 0 <;> rfl
  · obtain ⟨digits, hdigits, hread⟩ := fraction_fractionChars hnanos hzero
    simp only [hdigits, List.cons_append, hread, Except.toOption, Option.bind_some]
    cases clockTime? hour minute second nanos <;> rfl

/-- A leap second is read as the second after the last one of its minute. -/
theorem clockTime?_write {time leap nanos : Nat} (htime : time < 86400)
    (hleap : leap = 0 ∨ leap = 1 ∧ time % 60 = 59) :
    clockTime? (time / 3600) (time / 60 % 60) (time % 60 + leap) nanos =
      some (time, leap * 1000000000 + nanos) := by
  have hhour : ¬ 23 < time / 3600 := by omega
  have hminute : ¬ 59 < time / 60 % 60 := by omega
  have hsecond : ¬ 60 < time % 60 + leap := by omega
  simp only [clockTime?, hhour, hminute, hsecond, decide_false, Bool.or_false, Bool.false_eq_true,
    if_false]
  obtain rfl | ⟨rfl, hlast⟩ := hleap
  · have hbelow : time % 60 + 0 ≠ 60 := by omega
    rw [if_neg hbelow]
    congr 2 <;> omega
  · rw [if_pos (by omega)]
    congr 2
    omega

/-- A written instant is read back. -/
theorem readLoose?_toZulu {t : Instant} (hproper : t.IsProper) (hyear : t.HasPlainYear) :
    readLoose? t.toZulu = some t := by
  obtain ⟨⟨_, _⟩, ⟨_, _⟩, hnumber⟩ := Date.ofDayNumber_spec (t.seconds / 86400)
  obtain ⟨hnanos, hproper⟩ := hproper
  generalize hleap : (if 1000000000 ≤ t.nanos then 1 else 0 : Nat) = leap
  have hlast : leap = 0 ∨ leap = 1 ∧ (t.seconds % 86400).toNat % 60 = 59 := by
    split at hleap <;> omega
  have hkept : isKeptYear (Date.ofDayNumber (t.seconds / 86400)).year = true := by
    obtain ⟨hlow, hhigh⟩ := hyear
    simp only [isKeptYear, Bool.and_eq_true, decide_eq_true_eq]
    omega
  have hsplit : t.seconds / 86400 * 86400 + (t.seconds % 86400).toNat - 0 = t.seconds := by omega
  have hwhole : leap * 1000000000 + (t.nanos - leap * 1000000000) = t.nanos ∧
      t.nanos - leap * 1000000000 < 1000000000 := by
    split at hleap <;> omega
  generalize htime : (t.seconds % 86400).toNat = time at hlast hsplit
  generalize hfraction : t.nanos - leap * 1000000000 = nanos at hwhole
  have hclock : looseTime? (padded 2 (time / 3600) ++ ':' :: (padded 2 (time / 60 % 60) ++
      ':' :: (padded 2 (time % 60 + leap) ++ (fractionChars nanos ++ ['Z'])))) =
        some ((time, t.nanos), ['Z']) := by
    rw [looseTime?_write (by omega) (by omega) (by omega) hwhole.2,
      clockTime?_write (by omega) hlast, hwhole.1]
    rfl
  have hmark (rest : List Char) : (oneOf ['T', 't', ' '] ('T' :: rest)).toOption = some rest := rfl
  have hzone : looseOffset? (Text.trimStart ['Z']) = some (0, []) := by decide
  rw [readLoose?, Instant.toZulu, String.toList_ofList, write, hleap, htime, hfraction]
  simp only [List.append_assoc, List.cons_append]
  rw [looseDate?_write (Date.isValid_ofDayNumber _) hyear (by omega) (by omega)]
  simp only [Option.bind_eq_bind, Option.bind_some, hmark, hclock, hzone, hnumber, hsplit, hkept]
  rfl

end Timestamp

end FisheryRules
