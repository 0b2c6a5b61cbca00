import FisheryRules.Proofs.Text.Lines
import FisheryRules.Proofs.Text.Separators

/-!
# Folding

What folding changes in a text. The blanks at its two ends are dropped, blanks with a line break
among them become one blank, and all other characters stay.

## Main definitions

* `Folded` — a text becomes another one when its runs of blanks are folded.

## Main results

* `Folded.takeWhile_eq`, `Folded.head?_any` — what is seen ahead up to a blank does not change.
* `Folded.drop` — what comes after some characters that are not blank is folded, too.
* `exists_folded` — folding onto one line drops the blanks at the start and folds the rest.
-/
namespace FisheryRules.Text

variable {cs ds : List Char}

/-- The first text becomes the second one: blanks at its end are dropped, some runs of blanks that
have a line break become one blank each, and the other characters stay. -/
inductive Folded : List Char → List Char → Prop
  | ends {cs : List Char} (blank : ∀ c ∈ cs, isBlank c = true) : Folded cs []
  | keep (c : Char) {cs ds : List Char} (others : Folded cs ds) : Folded (c :: cs) (c :: ds)
  | gap {c : Char} {blanks cs ds : List Char} (blank : ∀ d ∈ c :: blanks, isBlank d = true)
      (broken : ¬ OneLine (c :: blanks)) (others : Folded cs ds) :
      Folded (c :: (blanks ++ cs)) (' ' :: ds)

namespace Folded

theorem append_left (front : List Char) (h : Folded cs ds) :
    Folded (front ++ cs) (front ++ ds) := by
  induction front with
  | nil => exact h
  | cons c front ih => exact .keep c ih

theorem gap_append {blanks : List Char} (blank : ∀ d ∈ blanks, isBlank d = true)
    (broken : ¬ OneLine blanks) (others : Folded cs ds) : Folded (blanks ++ cs) (' ' :: ds) := by
  cases blanks with
  | nil => exact absurd oneLine_nil broken
  | cons c blanks => exact .gap blank broken others

theorem eq_nil (h : Folded [] ds) : ds = [] := by
  cases h with
  | ends => rfl

/-- A text that is dropped consists of blanks. -/
theorem blank_of_nil (h : Folded cs []) : ∀ c ∈ cs, isBlank c = true := by
  cases h with
  | ends blank => exact blank

/-- A character that is not blank is kept. -/
theorem exists_of_cons {c : Char} (h : Folded (c :: cs) ds) (hc : isBlank c = false) :
    ∃ rest, ds = c :: rest ∧ Folded cs rest := by
  cases h with
  | keep _ others => exact ⟨_, rfl, others⟩
  | ends blank | gap blank _ _ => simp [hc] at blank

variable {p : Char → Bool}

theorem takeWhile_eq (h : Folded cs ds) (hp : ∀ c, isBlank c = true → p c = false) :
    cs.takeWhile p = ds.takeWhile p := by
  induction h with
  | @ends cs blank =>
    cases cs with
    | nil => rfl
    | cons c cs => simp [hp c (blank c List.mem_cons_self)]
  | keep c _ ih => rw [List.takeWhile_cons, List.takeWhile_cons, ih]
  | gap blank _ _ _ => simp [hp _ (blank _ List.mem_cons_self), hp ' ' rfl]

theorem head?_any (h : Folded cs ds) (hp : ∀ c, isBlank c = true → p c = false) :
    cs.head?.any p = ds.head?.any p := by
  cases h with
  | ends blank =>
    cases cs with
    | nil => rfl
    | cons c cs => simp [hp c (blank c List.mem_cons_self)]
  | keep c _ => rfl
  | gap blank _ _ => simp [hp _ (blank _ List.mem_cons_self), hp ' ' rfl]

/-- Characters that are not blank are kept, so what comes after them is folded. -/
theorem drop (h : Folded cs ds) {n : Nat} (hn : ∀ c ∈ cs.take n, isBlank c = false) :
    Folded (cs.drop n) (ds.drop n) := by
  induction n generalizing cs ds with
  | zero => exact h
  | succ n ih =>
    cases cs with
    | nil =>
      obtain rfl := h.eq_nil
      exact h
    | cons c cs =>
      obtain ⟨hc, hcs⟩ := List.forall_mem_cons.1 hn
      obtain ⟨rest, rfl, hrest⟩ := h.exists_of_cons hc
      exact ih hrest hcs

end Folded

/-! ## Folding onto one line -/

theorem lineBreak_blank {c : Char} (h : isLineBreak c = true) : isBlank c = true := by
  simp only [isLineBreak, Bool.or_eq_true, beq_iff_eq] at h
  obtain rfl | rfl := h <;> rfl

/-- A text is one line, or a line, a line break and more. -/
theorem oneLine_or_exists_break (cs : List Char) :
    OneLine cs ∨ ∃ line c rest, cs = line ++ c :: rest ∧ OneLine line ∧ isLineBreak c = true := by
  induction cs with
  | nil => exact .inl oneLine_nil
  | cons c cs ih =>
    cases hc : isLineBreak c with
    | true => exact .inr ⟨[], c, cs, rfl, oneLine_nil, hc⟩
    | false =>
      obtain hline | ⟨line, d, rest, rfl, hline, hd⟩ := ih
      · exact .inl (List.forall_mem_cons.2 ⟨hc, hline⟩)
      · exact .inr ⟨c :: line, d, rest, rfl, List.forall_mem_cons.2 ⟨hc, hline⟩, hd⟩

/-- A text is its trimmed form between blanks. -/
theorem exists_blanks_trim (cs : List Char) :
    ∃ before after, cs = before ++ trim cs ++ after ∧ (∀ c ∈ before, isBlank c = true) ∧
      ∀ c ∈ after, isBlank c = true := by
  obtain ⟨after, hsplit, hafter⟩ := trimEnd_append_blanks (trimStart cs)
  refine ⟨cs.takeWhile isBlank, after, ?_, fun c hc => List.mem_takeWhile_imp hc, hafter⟩
  calc cs = cs.takeWhile isBlank ++ trimStart cs := List.takeWhile_append_dropWhile.symm
    _ = cs.takeWhile isBlank ++ trim cs ++ after := by rw [hsplit, trim, List.append_assoc]

theorem fold_of_oneLine (h : OneLine cs) : fold cs = trim cs := by
  rw [fold, pieces_eq_singleton h]
  by_cases hempty : trim cs = [] <;> simp [hempty, joinWith]

/-- A blank line is left out. -/
theorem fold_break_of_blank {line rest : List Char} {c : Char} (hline : OneLine line)
    (hc : isLineBreak c = true) (hblank : trim line = []) :
    fold (line ++ c :: rest) = fold rest := by
  rw [fold, pieces_append_break hline hc, List.map_cons, hblank, fold]
  rfl

/-- A line that is not blank stands before the lines after it, one blank apart from them. -/
theorem fold_break {line rest : List Char} {c : Char} (hline : OneLine line)
    (hc : isLineBreak c = true) (hne : trim line ≠ []) :
    fold (line ++ c :: rest) =
      if fold rest = [] then trim line else trim line ++ ' ' :: fold rest := by
  have hfirst : (!(trim line).isEmpty) = true := by simp [hne]
  have hunfold : fold (line ++ c :: rest) = joinWith [' ']
      (trim line :: ((pieces isLineBreak rest).map trim).filter (!·.isEmpty)) := by
    rw [fold, pieces_append_break hline hc, List.map_cons, List.filter_cons, if_pos hfirst]
  by_cases hparts : ((pieces isLineBreak rest).map trim).filter (!·.isEmpty) = []
  · have hrest : fold rest = [] := by rw [fold, hparts]; rfl
    rw [hunfold, hparts, if_pos hrest]
    rfl
  · have hrest : fold rest ≠ [] := by
      refine (joinWith_trimmed fun part hpart => ?_).2 hparts
      obtain ⟨hmem, hpartNe⟩ := List.mem_filter.1 hpart
      obtain ⟨piece, -, rfl⟩ := List.mem_map.1 hmem
      exact ⟨trimmed_trim piece, by simpa using hpartNe⟩
    rw [hunfold, joinWith_cons hparts, if_neg hrest]
    rfl

/-- Folding onto one line drops the blanks at the start and folds the rest. -/
theorem exists_folded (cs : List Char) :
    ∃ before rest, cs = before ++ rest ∧ (∀ c ∈ before, isBlank c = true) ∧
      Folded rest (fold cs) := by
  induction hlength : cs.length using Nat.strong_induction_on generalizing cs with
  | _ n ih =>
    subst hlength
    obtain hline | ⟨line, c, rest, rfl, hline, hc⟩ := oneLine_or_exists_break cs
    · obtain ⟨before, after, hsplit, hbefore, hafter⟩ := exists_blanks_trim cs
      refine ⟨before, trim cs ++ after, by rw [← List.append_assoc, ← hsplit], hbefore, ?_⟩
      rw [fold_of_oneLine hline]
      simpa using (Folded.ends hafter).append_left (trim cs)
    obtain ⟨before, after, hsplit, hbefore, hafter⟩ := exists_blanks_trim line
    obtain ⟨skipped, kept, hrest, hskipped, hkept⟩ := ih rest.length (by simp; omega) rest rfl
    have hcBlank := lineBreak_blank hc
    -- what lies between the characters of this line and those of the lines after it
    have hbetween : ∀ d ∈ after ++ c :: skipped, isBlank d = true :=
      List.forall_mem_append.2 ⟨hafter, List.forall_mem_cons.2 ⟨hcBlank, hskipped⟩⟩
    by_cases hblank : trim line = []
    · rw [fold_break_of_blank hline hc hblank]
      refine ⟨before ++ (after ++ c :: skipped), kept, ?_,
        List.forall_mem_append.2 ⟨hbefore, hbetween⟩, hkept⟩
      rw [hsplit, hblank, hrest]
      simp
    have htext : line ++ c :: rest =
        before ++ (trim line ++ ((after ++ c :: skipped) ++ kept)) := by
      conv => lhs; rw [hsplit, hrest]
      simp
    refine ⟨before, _, htext, hbefore, ?_⟩
    rw [fold_break hline hc hblank]
    split
    case isTrue hnil =>
      have hkeptBlank := (hnil ▸ hkept).blank_of_nil
      have hends : Folded ((after ++ c :: skipped) ++ kept) [] :=
        .ends (List.forall_mem_append.2 ⟨hbetween, hkeptBlank⟩)
      simpa using hends.append_left (trim line)
    case isFalse =>
      have hbroken : ¬ OneLine (after ++ c :: skipped) := fun h => by
        simp [h c (by simp)] at hc
      exact (hkept.gap_append hbetween hbroken).append_left (trim line)

end FisheryRules.Text
