import FisheryRules.Data.Json
import FisheryRules.Proofs.Number.Spelling

/-!
# Reading written numbers

The digits of an integer of sixty-four bits, and those of a finite number, are read as that integer
or number. They are read up to the first character that no number is spelled with, so what follows
a number does not matter.

## Main definitions

* `Json.spelledNumber?` — what a row of characters stands for.
* `Json.EndsNumber` — what may follow a number.

## Main results

* `Json.number_integer`, `Json.number_real` — written numbers are read back.
* `Json.number_append` — a number is read from the front of a text.
-/
namespace FisheryRules

namespace Json

/-- The characters that numbers are spelled with. -/
def isNumberChar (c : Char) : Bool :=
  c.isDigit || c == '.' || c == 'e' || c == 'E' || c == '+' || c == '-'

/-- What a number stands for, by its sign and the characters after it. -/
def spelledNumber? (negative : Bool) (spelled : List Char) : Option Data :=
  match Decimal.splitPoint spelled with
  | (whole, fraction, pointed, tail) =>
    if whole.isEmpty || (1 < whole.length && whole.head? == some '0') then none
    else if pointed && fraction.isEmpty then none
    else if !pointed && tail.isEmpty && isShort negative (Decimal.ofDigits whole) then
      let value : Int := Decimal.ofDigits whole
      some (.integer (if negative then -value else value))
    else do
      let value := (← Decimal.scientific? negative spelled).toBinary64
      if value.isFinite then return .real value else none

/-- The characters after the sign. -/
def unsigned (cs : List Char) : List Char := if cs.head? == some '-' then cs.drop 1 else cs

/-- A number is spelled by the characters up to the first one that is in no number. -/
theorem number_eq (cs : List Char) :
    number cs = (spelledNumber? (cs.head? == some '-') ((unsigned cs).takeWhile isNumberChar)).map
      fun value => (value, (unsigned cs).drop ((unsigned cs).takeWhile isNumberChar).length) := by
  unfold number spelledNumber?
  have hchars : (fun c : Char => c.isDigit || c == '.' || c == 'e' || c == 'E' || c == '+' ||
      c == '-') = isNumberChar := rfl
  have hbody : (if cs.head? == some '-' then cs.drop 1 else cs) = unsigned cs := rfl
  simp only [hchars, hbody]
  generalize (unsigned cs).takeWhile isNumberChar = spelled
  generalize Decimal.splitPoint spelled = parts
  obtain ⟨whole, fraction, pointed, tail⟩ := parts
  dsimp only
  split
  · rfl
  split
  · rfl
  split
  · rfl
  cases Decimal.scientific? (cs.head? == some '-') spelled with
  | none => rfl
  | some value =>
    dsimp only [Option.bind_eq_bind, Option.bind_some]
    split <;> rfl

/-- What may follow a number: nothing that a number is spelled with. -/
def EndsNumber (rest : List Char) : Prop := ∀ c ∈ rest.head?, isNumberChar c = false

theorem takeWhile_append {spelled rest : List Char}
    (hspelled : ∀ c ∈ spelled, isNumberChar c = true) (hrest : EndsNumber rest) :
    (spelled ++ rest).takeWhile isNumberChar = spelled := by
  rw [List.takeWhile_append_of_pos hspelled]
  cases rest with
  | nil => simp
  | cons c rest => simp [hrest c rfl]

/-- A number that is read to the end of a text is read from the front of a longer one. -/
theorem number_append {cs rest : List Char} {value : Data} (h : number cs = some (value, []))
    (hrest : EndsNumber rest) : number (cs ++ rest) = some (value, rest) := by
  cases cs with
  | nil => cases h
  | cons c cs =>
    have hunsigned : unsigned (c :: cs ++ rest) = unsigned (c :: cs) ++ rest := by
      by_cases hc : c = '-' <;> simp [unsigned, hc]
    have hhead : (c :: cs ++ rest).head? = (c :: cs).head? := rfl
    rw [number_eq] at h ⊢
    rw [hunsigned, hhead]
    generalize unsigned (c :: cs) = body at *
    obtain ⟨data, hdata, hread⟩ := Option.map_eq_some_iff.1 h
    obtain ⟨rfl, hnil⟩ := Prod.mk.inj hread
    have hwhole : body.takeWhile isNumberChar = body :=
      (List.takeWhile_prefix _).eq_of_length_le (List.drop_eq_nil_iff.1 hnil)
    have hchars : ∀ c ∈ body, isNumberChar c = true := List.takeWhile_eq_self_iff.1 hwhole
    rw [takeWhile_append hchars hrest, List.drop_left, ← hwhole, hdata]
    rfl

theorem spelledNumber?_toDigits {negative : Bool} {n : Nat} (h : isShort negative n = true) :
    spelledNumber? negative (Nat.toDigits 10 n) = some (.integer (if negative then -n else n)) := by
  have hne : (Nat.toDigits 10 n).isEmpty = false := by simp [Nat.toDigits_ne_nil]
  have hcanonical :
      (1 < (Nat.toDigits 10 n).length && (Nat.toDigits 10 n).head? == some '0') = false := by
    simpa using Decimal.toDigits_canonical
  simp only [spelledNumber?, Decimal.splitPoint_whole fun _ => Decimal.isDigit_of_mem_toDigits]
  simp [hne, hcanonical, h]

theorem toList_toString (value : Int) : (toString value).toList =
    (if value < 0 then ['-'] else []) ++ Nat.toDigits 10 value.natAbs := by
  cases value with
  | ofNat n => simp [toString, Int.repr]
  | negSucc n => simp [toString, Int.repr]

/-- A sign and the characters after it, which begin with a digit, are told apart. -/
theorem number_signed (negative : Bool) {spelled : List Char}
    (hchars : ∀ c ∈ spelled, isNumberChar c = true)
    (hdigit : ∀ c ∈ spelled.head?, c.isDigit = true) :
    number ((if negative then ['-'] else []) ++ spelled) =
      (spelledNumber? negative spelled).map fun value => (value, []) := by
  have hhead : spelled.head? ≠ some '-' := fun heq => absurd (hdigit '-' heq) (by decide)
  have htake := List.takeWhile_eq_self_iff.2 hchars
  have hsign : (((if negative then ['-'] else []) ++ spelled).head? == some '-') = negative ∧
      unsigned ((if negative then ['-'] else []) ++ spelled) = spelled := by
    cases negative with
    | true => simp [unsigned]
    | false => simp [unsigned, hhead]
  rw [number_eq, hsign.1, hsign.2, htake]
  simp only [List.drop_length]

/-- An integer of sixty-four bits is read as it was written. -/
theorem number_integer {value : Int} (h : isShort (value < 0) value.natAbs = true) :
    number (toString value).toList = some (.integer value, []) := by
  have hchars : ∀ c ∈ Nat.toDigits 10 value.natAbs, isNumberChar c = true := fun c hc => by
    simp [isNumberChar, Decimal.isDigit_of_mem_toDigits hc]
  have hdigit : ∀ c ∈ (Nat.toDigits 10 value.natAbs).head?, c.isDigit = true := fun c hc =>
    Decimal.isDigit_of_mem_toDigits (List.mem_of_mem_head? hc)
  have hsigned := number_signed (decide (value < 0)) hchars hdigit
  have habs : (if value < 0 then -(value.natAbs : Int) else value.natAbs) = value := by
    split <;> omega
  rw [spelledNumber?_toDigits h] at hsigned
  simp only [decide_eq_true_eq, habs] at hsigned
  rwa [toList_toString]

theorem spelledNumber?_pointed {negative : Bool} {whole fraction : List Char}
    (h : Decimal.IsPointed whole fraction)
    (hfinite : (Decimal.ofParts negative whole fraction 0).toBinary64.isFinite = true) :
    spelledNumber? negative (whole ++ '.' :: fraction) =
      some (.real (Decimal.ofParts negative whole fraction 0).toBinary64) := by
  have hcanonical : (1 < whole.length && whole.head? == some '0') = false := by
    simpa using h.canonical
  simp only [spelledNumber?, Decimal.scientific?,
    Decimal.splitPoint_point h.whole_digits h.fraction_digits]
  simp [h.whole_ne_nil, h.fraction_ne_nil, hcanonical, hfinite]

/-- A finite number is read as it was written. -/
theorem number_real {x : Binary64} (hfinite : x.isFinite = true) :
    number (Data.realToJson x) = some (.real x, []) := by
  obtain ⟨whole, fraction, hspelled, hpointed, hvalue⟩ := Binary64.realToJson_spelled hfinite
  have hdigits (c : Char) (hc : c.isDigit = true) : isNumberChar c = true := by
    simp [isNumberChar, hc]
  have hchars : ∀ c ∈ whole ++ '.' :: fraction, isNumberChar c = true := by
    intro c hc
    obtain hwhole | hpoint := List.mem_append.1 hc
    · exact hdigits c (hpointed.whole_digits c hwhole)
    · obtain rfl | hfraction := List.mem_cons.1 hpoint
      · decide
      · exact hdigits c (hpointed.fraction_digits c hfraction)
  have hdigit : ∀ c ∈ (whole ++ '.' :: fraction).head?, c.isDigit = true := by
    rw [List.head?_append_of_ne_nil _ hpointed.whole_ne_nil]
    exact fun c hc => hpointed.whole_digits c (List.mem_of_mem_head? hc)
  rw [hspelled, number_signed _ hchars hdigit, spelledNumber?_pointed hpointed (by rwa [hvalue]),
    hvalue]
  rfl

/-- A number begins with a digit or a minus sign. -/
theorem head_of_number {c : Char} {cs : List Char} {read : Data × List Char}
    (h : number (c :: cs) = some read) : c.isDigit = true ∨ c = '-' := by
  by_contra hc
  obtain ⟨hdigit, hsign⟩ := not_or.1 hc
  have hspelled : unsigned (c :: cs) = c :: cs := by simp [unsigned, hsign]
  rw [number_eq, hspelled] at h
  -- Without a digit at the front there is nothing before the point.
  have hwhole : (Decimal.splitPoint ((c :: cs).takeWhile isNumberChar)).1 = [] := by
    have htake : ((c :: cs).takeWhile isNumberChar).takeWhile Char.isDigit = [] := by
      cases hn : isNumberChar c <;> simp [hn, hdigit]
    unfold Decimal.splitPoint
    split <;> exact htake
  simp [spelledNumber?, hwhole] at h

end Json

end FisheryRules
