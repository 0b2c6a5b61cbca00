import FisheryRules.Proofs.Data.QuotedText
import FisheryRules.Rule.Serialized

/-!
# Segments up to letter case

The segments of a rule are told apart by the lower-case form of their JSON text, but for the letter
case of what their author wrote in them.

## Main definitions

* `Segment.foldCase` — a segment with the letter case of its texts left out of account.
-/
namespace FisheryRules

open Text

/-! ## Names of cases -/

/-- Names that all differ name one case each. -/
theorem injective_of_nodup_map {α β : Type} (cases : List α) {name : α → β}
    (hall : ∀ a, a ∈ cases) (h : (cases.map name).Nodup) : Function.Injective name :=
  fun a b => List.inj_on_of_nodup_map h (hall a) (hall b)

theorem Criteria.foldCase_code_injective : Function.Injective fun c : Criteria => foldCase c.code :=
  injective_of_nodup_map all (fun c => by cases c <;> decide) (by decide +kernel)

theorem SubCriteria.foldCase_code_injective :
    Function.Injective fun c : SubCriteria => foldCase c.code :=
  injective_of_nodup_map all (fun c => by cases c <;> decide) (by decide +kernel)

theorem CompareOp.foldCase_code_injective :
    Function.Injective fun op : CompareOp => foldCase op.code :=
  injective_of_nodup_map all (fun op => by cases op <;> decide) (by decide +kernel)

theorem LogicOperator.foldCase_code_injective :
    Function.Injective fun op : LogicOperator => foldCase op.code :=
  injective_of_nodup_map all (fun op => by cases op <;> decide) (by decide +kernel)

/-! ## Members of a record -/

namespace Data

/-- The written form of a member with a text, and the comma after it. -/
def textMember (texts : String × String) : List Char :=
  textToJson texts.1 ++ ':' :: (textToJson texts.2 ++ [','])

/-- As many members as one knows of are split off the front of a text. -/
theorem textMembers_append_inj {xs ys : List (String × String)} {rest rest' : List Char}
    (hlength : xs.length = ys.length)
    (h : xs.flatMap textMember ++ rest = ys.flatMap textMember ++ rest') :
    xs = ys ∧ rest = rest' := by
  induction xs generalizing ys with
  | nil =>
    obtain rfl : ys = [] := List.length_eq_zero_iff.1 hlength.symm
    exact ⟨rfl, h⟩
  | cons x xs ih =>
    obtain ⟨y, ys, rfl⟩ := List.exists_cons_of_length_eq_add_one hlength.symm
    simp only [List.flatMap_cons, textMember, List.append_assoc, List.cons_append,
      List.nil_append] at h
    obtain ⟨hname, h⟩ := textToJson_append_inj h
    obtain ⟨hvalue, h⟩ := textToJson_append_inj (List.cons.inj h).2
    obtain ⟨rfl, hrest⟩ := ih (Nat.succ.inj hlength) (List.cons.inj h).2
    exact ⟨by rw [Prod.ext hname hvalue], hrest⟩

/-- Letter case may be left out of account before or after members are written. -/
theorem foldChars_textMembers (texts : List (String × String)) :
    foldChars (texts.flatMap textMember) =
      (texts.map fun t => (foldCase t.1, foldCase t.2)).flatMap textMember := by
  have hcolon : foldChar ':' = [':'] := foldChar_of_isFolded (by decide)
  have hcomma : foldChar ',' = [','] := foldChar_of_isFolded (by decide)
  induction texts with
  | nil => rfl
  | cons t texts ih =>
    rw [List.flatMap_cons, foldChars_append, ih, List.map_cons, List.flatMap_cons]
    simp [textMember, foldChars_textToJson, hcolon, hcomma]

end Data

/-! ## Segments -/

namespace Segment

/-- The segment with the letter case of what its author wrote left out of account. -/
def foldCase (segment : Segment) : Segment :=
  { segment with
    startOperator := Text.foldCase segment.startOperator
    value := Text.foldCase segment.value
    endOperator := Text.foldCase segment.endOperator }

/-- The members of the written form of a segment that are texts. -/
def textMembers (segment : Segment) : List (String × String) :=
  [("startOperator", segment.startOperator), ("criteria", segment.criteria.code),
    ("subCriteria", segment.subCriteria.code), ("condition", segment.condition.code),
    ("value", segment.value), ("endOperator", segment.endOperator),
    ("logicOperator", segment.logicOperator.code)]

theorem toJson_eq (segment : Segment) :
    (toData segment).toJson = '\x7b' :: segment.textMembers.flatMap Data.textMember ++
      (Data.textToJson "order" ++ ':' :: (Nat.toDigits 10 segment.order.toNat ++ ['\x7d'])) := by
  simp [toData, Data.toJson, Data.membersToJson, textMembers, Data.textMember, toString, Int.repr,
    Nat.repr]

theorem foldChars_toDigits (n : Nat) : foldChars (Nat.toDigits 10 n) = Nat.toDigits 10 n :=
  foldChars_of_all_isFolded <| List.all_eq_true.2 fun _ hc =>
    isFolded_of_isDigit (Nat.isDigit_of_mem_toDigits (by decide) (by decide) hc)

/-- The lower-case form of a segment says what the segment is, up to letter case. -/
theorem foldChars_toJson_append_inj {a b : Segment} {rest rest' : List Char}
    (h : foldChars (toData a).toJson ++ rest = foldChars (toData b).toJson ++ rest') :
    a.foldCase = b.foldCase ∧ rest = rest' := by
  have hopen : foldChar '\x7b' = ['\x7b'] := foldChar_of_isFolded (by decide)
  have hclose : foldChar '\x7d' = ['\x7d'] := foldChar_of_isFolded (by decide)
  have hcolon : foldChar ':' = [':'] := foldChar_of_isFolded (by decide)
  simp only [toJson_eq, foldChars_append, foldChars_cons, foldChars_nil, hopen, hclose, hcolon,
    Data.foldChars_textMembers, Data.foldChars_textToJson, foldChars_toDigits, List.append_assoc,
    List.cons_append, List.nil_append] at h
  obtain ⟨hmembers, h⟩ := Data.textMembers_append_inj (by simp [textMembers]) (List.cons.inj h).2
  have hbrace (n : Nat) : '\x7d' ∉ Nat.toDigits 10 n := fun hmem =>
    absurd (Nat.isDigit_of_mem_toDigits (by decide) (by decide) hmem) (by decide)
  obtain ⟨hdigits, hrest⟩ := append_separator_inj (hbrace _) (hbrace _)
    (List.cons.inj (List.append_cancel_left h)).2
  have horder : a.order = b.order := by
    have hread := congrArg (Nat.ofDigitChars 10 · 0) hdigits
    simpa [UInt32.toNat_inj] using hread
  simp only [textMembers, List.map_cons, List.cons.injEq, Prod.mk.injEq, true_and] at hmembers
  obtain ⟨hstart, hcriteria, hsubCriteria, hcondition, hvalue, hend, hlogic, -⟩ := hmembers
  refine ⟨?_, hrest⟩
  simp only [foldCase, hstart, Criteria.foldCase_code_injective hcriteria,
    SubCriteria.foldCase_code_injective hsubCriteria,
    CompareOp.foldCase_code_injective hcondition, hvalue, hend,
    LogicOperator.foldCase_code_injective hlogic, horder]

/-- Segments whose JSON texts differ in letter case alone differ in letter case alone. -/
theorem map_foldCase_eq {xs ys : List Segment}
    (h : lowerChars (toData xs).toJson = lowerChars (toData ys).toJson) :
    xs.map foldCase = ys.map foldCase := by
  have hbracket : foldChar '[' = ['['] := foldChar_of_isFolded (by decide)
  have hclose : foldChar ']' = [']'] := foldChar_of_isFolded (by decide)
  have hform (segments : List Segment) : foldChars (toData segments).toJson =
      '[' :: (joinWith [','] (segments.map fun s => foldChars (toData s).toJson) ++ [']']) := by
    have hcomma : foldChars [','] = [','] := foldChars_of_all_isFolded (by decide)
    have hlist : toData segments = .list (segments.map toData) := rfl
    rw [hlist, Data.toJson, Data.itemsToJson_eq, foldChars_append, foldChars_cons,
      foldChars_joinWith, hcomma, hbracket, List.map_map, List.map_map]
    simp [hclose, Function.comp_def]
  have hfolded := foldChars_eq_of_lowerChars_eq h
  rw [hform, hform] at hfolded
  refine Data.joinWith_bracket_inj (fun x _ y _ rest rest' => foldChars_toJson_append_inj) ?_
    (List.cons.inj hfolded).2
  intro segment _ rest rest' heq
  rw [toJson_eq, List.cons_append, foldChars_cons] at heq
  exact absurd (List.cons.inj heq).1 (by decide)

end Segment

end FisheryRules
