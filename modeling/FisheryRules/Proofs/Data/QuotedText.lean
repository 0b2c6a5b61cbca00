import FisheryRules.Data.Json
import FisheryRules.Proofs.Data.Json
import FisheryRules.Proofs.Text.LetterCase

/-!
# Texts inside JSON

A text that is written into a JSON text is read back as it was, whatever it consists of and
whatever follows. Escapes have no capital letters, so letter case may be left out of account
before or after a text is written.
-/
namespace FisheryRules

open Text

/-! ## Reading back -/

namespace Json

variable {bound : Nat} {c : Char} {rest : List Char}

/-- The character is the next one of the text. -/
def consChar (c : Char) (read : List Char × List Char) : List Char × List Char :=
  (c :: read.1, read.2)

theorem characters_simpleEscape {e : Char} (hunit : e ≠ 'u') (h : simpleEscape? e = some c) :
    characters (bound + 1) ('\\' :: e :: rest) = (characters bound rest).map (consChar c) := by
  rw [characters]
  · simp [h, consChar, Option.map_eq_bind, Function.comp_def]
  · simp [hunit]

theorem characters_plain (hlow : 0x20 ≤ c.toNat) (hquote : c ≠ '"') (hbackslash : c ≠ '\\') :
    characters (bound + 1) (c :: rest) = (characters bound rest).map (consChar c) := by
  rw [characters]
  · have hcontrol : ¬ c.toNat < 0x20 := by omega
    simp [hcontrol, hbackslash, consChar, Option.map_eq_bind, Function.comp_def]
  all_goals simp [hquote, hbackslash]

/-- The four digits of a control character are read as that character. -/
theorem characters_codeUnit (h : c.toNat < 0x20) :
    characters (bound + 1) ('\\' :: 'u' :: '0' :: '0' :: Data.hexDigit (c.toNat / 16) ::
      Data.hexDigit c.toNat :: rest) = (characters bound rest).map (consChar c) := by
  have hdigits : ∀ n < 0x20, Radix.ofDigits? 16 ['0', '0', Data.hexDigit (n / 16),
      Data.hexDigit n] = some n := by decide
  have hbelow : c.toNat < 0xD800 := by omega
  rw [characters, codePoint, codeUnit, hdigits _ h]
  simp [hbelow, consChar, Option.map_eq_bind, Function.comp_def, Char.ofNat_toNat]

/-- What stands for a character in a text is read as that character. -/
theorem characters_escapeChar :
    characters (bound + 1) (Data.escapeChar c ++ rest) =
      (characters bound rest).map (consChar c) := by
  fun_cases Data.escapeChar c with
  | case1 hc | case2 _ hc | case3 _ _ hc | case4 _ _ _ hc | case5 _ _ _ _ hc =>
    obtain rfl := beq_iff_eq.1 hc
    exact characters_simpleEscape (by decide) (by decide)
  | case6 _ _ _ _ _ hc | case7 _ _ _ _ _ _ hc =>
    have hcode := congrArg Char.ofNat hc
    rw [Char.ofNat_toNat] at hcode
    exact characters_simpleEscape (by decide) (by rw [hcode]; decide)
  | case8 _ _ _ _ _ _ _ hc => exact characters_codeUnit hc
  | case9 hquote hbackslash _ _ _ _ _ hc =>
    exact characters_plain (by omega) (by simpa using hquote) (by simpa using hbackslash)

/-- A written text is read up to its closing quote. -/
theorem characters_escaped {cs : List Char} (h : cs.length < bound) :
    characters bound (cs.flatMap Data.escapeChar ++ '"' :: rest) = some (cs, rest) := by
  induction cs generalizing bound with
  | nil =>
    obtain ⟨bound, rfl⟩ := Nat.exists_eq_add_one_of_ne_zero (Nat.ne_of_gt h)
    rfl
  | cons c cs ih =>
    obtain ⟨bound, rfl⟩ := Nat.exists_eq_add_one_of_ne_zero (Nat.ne_of_gt (Nat.zero_lt_of_lt h))
    rw [List.flatMap_cons, List.append_assoc, characters_escapeChar, ih (by simpa using h)]
    rfl

end Json

namespace Data

/-- Written texts are told apart at the front of a text. -/
theorem textToJson_append_inj {s t : String} {rest rest' : List Char}
    (h : textToJson s ++ rest = textToJson t ++ rest') : s = t ∧ rest = rest' := by
  have hread (s : String) (rest : List Char) (bound : Nat) (hbound : s.toList.length < bound) :
      Json.characters bound ((textToJson s ++ rest).drop 1) = some (s.toList, rest) := by
    simpa [textToJson] using Json.characters_escaped hbound
  have hs := hread s rest (s.toList.length + t.toList.length + 1) (by omega)
  have ht := hread t rest' (s.toList.length + t.toList.length + 1) (by omega)
  rw [h, ht] at hs
  obtain ⟨hchars, rfl⟩ := Prod.mk.inj (Option.some.inj hs)
  exact ⟨(String.toList_inj.1 hchars).symm, rfl⟩

/-! ## Letter case -/

/-- What is no small letter or mark of ASCII is not escaped. -/
theorem escapeChar_of_not_isFolded {c : Char} (h : isFolded c = false) : escapeChar c = [c] := by
  by_cases hascii : c.toNat < 0x80
  · have hcapital : ∀ n < 0x80, isFolded (Char.ofNat n) = false →
        escapeChar (Char.ofNat n) = [Char.ofNat n] := by decide
    exact forall_ascii (p := fun c => isFolded c = false → escapeChar c = [c]) hcapital hascii h
  · refine escapeChar_self (by omega) ?_ ?_ <;>
    · rintro rfl
      exact hascii (by decide)

/-- Nor is what stands for it up to letter case. -/
theorem escapeChar_of_mem_foldChar {c d : Char} (h : isFolded c = false) (hd : d ∈ foldChar c) :
    escapeChar d = [d] := by
  have hbeyond := lt_toNat_of_mem_foldChar h hd
  refine escapeChar_self (by omega) ?_ ?_ <;>
  · rintro rfl
    exact absurd hbeyond (by decide)

/-- Letter case may be left out of account before or after a character is written. -/
theorem foldChars_escapeChar (c : Char) :
    foldChars (escapeChar c) = (foldChar c).flatMap escapeChar := by
  cases hfolded : isFolded c with
  | true =>
    have hescape : ∀ n < 0x80, isFolded (Char.ofNat n) = true →
        (escapeChar (Char.ofNat n)).all isFolded = true := by decide
    have hall := forall_ascii (p := fun c => isFolded c = true → (escapeChar c).all isFolded = true)
      hescape (lt_of_isFolded hfolded) hfolded
    rw [foldChars_of_all_isFolded hall, foldChar_of_isFolded hfolded, List.flatMap_singleton]
  | false =>
    rw [escapeChar_of_not_isFolded hfolded, foldChars, List.flatMap_singleton,
      List.flatMap_congr fun d hd => escapeChar_of_mem_foldChar hfolded hd,
      List.flatMap_singleton']

/-- Letter case may be left out of account before or after a text is written. -/
theorem foldChars_textToJson (s : String) :
    foldChars (textToJson s) = textToJson (foldCase s) := by
  have hescaped (cs : List Char) :
      foldChars (cs.flatMap escapeChar) = (foldChars cs).flatMap escapeChar := by
    induction cs with
    | nil => rfl
    | cons c cs ih =>
      rw [List.flatMap_cons, foldChars_append, foldChars_escapeChar, ih, foldChars_cons,
        List.flatMap_append]
  have hquote : foldChar '"' = ['"'] := foldChar_of_isFolded (by decide)
  simp [textToJson, hescaped, hquote]

end Data

end FisheryRules
