import Mathlib
import FisheryRules.Text.Blank
import FisheryRules.Uuid

/-!
# Texts of identifiers

The canonical text of an identifier is made of hexadecimal digits and hyphens. It is never blank,
and it is read as the identifier that it was written from.

## Main definitions

* `IdSupply.upcoming` — the next identifiers of a supply, as texts.

## Main results

* `Uuid.not_isBlankText_toText` — no identifier is blank.
* `Uuid.parse?_toText` — identifiers are read back.
-/
namespace FisheryRules

/-! ## Written forms -/

namespace Uuid

theorem hexValue?_hexChar (d : Fin 16) : hexValue? (hexChar d) = some d := by
  revert d
  decide

/-- Five groups of digits are joined again. -/
theorem unhyphenate?_groups {a b c d e : List Char} (ha : a.length = 8) (hb : b.length = 4)
    (hc : c.length = 4) (hd : d.length = 4) (he : e.length = 12) :
    unhyphenate? (a ++ '-' :: b ++ '-' :: c ++ '-' :: d ++ '-' :: e) =
      some (a ++ b ++ c ++ d ++ e) := by
  simp [unhyphenate?, List.drop_append, List.drop_of_length_le, List.getElem?_append,
    ha, hb, hc, hd, he]

theorem unhyphenate?_hyphenate {cs : List Char} (h : cs.length = 32) :
    unhyphenate? (hyphenate cs) = some cs := by
  have hsplit (n k : Nat) : (cs.drop n).take k ++ cs.drop (n + k) = cs.drop n := by
    rw [← List.drop_drop, List.take_append_drop]
  rw [hyphenate, unhyphenate?_groups (by simp [h]) (by simp [h]) (by simp [h]) (by simp [h])
    (by simp [h])]
  simp only [List.append_assoc, hsplit 16 4, hsplit 12 4, hsplit 8 4, List.take_append_drop]

theorem ofHex?_map_hexChar (id : Uuid) : ofHex? (id.digits.toList.map hexChar) = some id := by
  have hvalues : (id.digits.toList.map hexChar).mapM hexValue? = some id.digits.toList := by
    induction id.digits.toList with
    | nil => rfl
    | cons d others ih => simp [hexValue?_hexChar, ih]
  obtain ⟨⟨digits, hsize⟩⟩ := id
  simp_all [ofHex?]

theorem parse?_toText (id : Uuid) : parse? id.toText = some id := by
  have hdigits : (id.digits.toList.map hexChar).length = 32 := by simp
  have hlength : (hyphenate (id.digits.toList.map hexChar)).length = 36 := by
    simp [hyphenate]
  simp only [parse?, toText, String.toList_ofList, hlength]
  simp [unhyphenate?_hyphenate hdigits, ofHex?_map_hexChar]

theorem not_isBlankText_toText (id : Uuid) : Text.isBlankText id.toText = false := by
  -- The first hyphen is not blank.
  simp [Text.isBlankText, toText, hyphenate, Text.isBlank]

end Uuid

/-! ## Supplies -/

namespace IdSupply

/-- The next identifiers, as texts. -/
def upcoming (ids : IdSupply) : Nat → List String
  | 0 => []
  | n + 1 => ids.draw.1.toText :: ids.draw.2.upcoming n

theorem upcoming_sublist (ids : IdSupply) (n : Nat) :
    (ids.upcoming n).Sublist (ids.upcoming (n + 1)) := by
  induction n generalizing ids with
  | zero => exact List.nil_sublist _
  | succ n ih => exact (ih ids.draw.2).cons_cons _

end IdSupply

end FisheryRules
