import FisheryRules.Proofs.Results
import FisheryRules.Text.LowerCase
import FisheryRules.Text.Lines

/-!
# Separators

Texts that do not have a separator are found again when they stand side by side with the separator
between them, and lower case neither brings in nor takes out a control character.
-/
namespace FisheryRules.Text

variable {separator terminator : Char}

/-- What stands before the first separator is split off the front of a text. -/
theorem append_separator_inj {front front' rest rest' : List Char}
    (hfront : separator ∉ front) (hfront' : separator ∉ front')
    (h : front ++ separator :: rest = front' ++ separator :: rest') :
    front = front' ∧ rest = rest' := by
  induction front generalizing front' with
  | nil =>
    cases front' with
    | nil => exact ⟨rfl, (List.cons.inj h).2⟩
    | cons c front' => exact absurd ((List.cons.inj h).1 ▸ List.mem_cons_self) hfront'
  | cons c front ih =>
    cases front' with
    | nil => exact absurd ((List.cons.inj h).1 ▸ List.mem_cons_self) hfront
    | cons c' front' =>
      obtain ⟨rfl, hothers⟩ := List.cons.inj h
      obtain ⟨rfl, hrest⟩ := ih (fun hmem => hfront (.tail _ hmem))
        (fun hmem => hfront' (.tail _ hmem)) hothers
      exact ⟨rfl, hrest⟩

/-- What stands before the first terminator, or before the end, is split off the front of a
text. -/
theorem append_terminated_inj {front front' rest rest' : List Char}
    (hfront : terminator ∉ front) (hfront' : terminator ∉ front')
    (hrest : ∀ c ∈ rest.head?, c = terminator) (hrest' : ∀ c ∈ rest'.head?, c = terminator)
    (h : front ++ rest = front' ++ rest') : front = front' ∧ rest = rest' := by
  cases rest with
  | nil =>
    cases rest' with
    | nil => exact ⟨by simpa using h, rfl⟩
    | cons c' rest' =>
      obtain rfl := hrest' c' rfl
      rw [List.append_nil] at h
      exact absurd (h ▸ List.mem_append_right _ List.mem_cons_self) hfront
  | cons c rest =>
    obtain rfl := hrest c rfl
    cases rest' with
    | nil =>
      rw [List.append_nil] at h
      exact absurd (h ▸ List.mem_append_right _ List.mem_cons_self) hfront'
    | cons c' rest' =>
      obtain rfl := hrest' c' rfl
      obtain ⟨hfronts, hrests⟩ := append_separator_inj hfront hfront' h
      exact ⟨hfronts, by rw [hrests]⟩

/-! ## Records -/

theorem joinWith_cons {part : List Char} {parts : List (List Char)} (h : parts ≠ []) :
    joinWith [separator] (part :: parts) = part ++ separator :: joinWith [separator] parts := by
  cases parts with
  | nil => exact absurd rfl h
  | cons second others => simp [joinWith]

/-- As many fields as one knows of, and a last one up to a terminator, are split off the front of a
text. -/
theorem joinWith_append_inj {fields fields' : List (List Char)} {last last' rest rest' : List Char}
    (hlength : fields.length = fields'.length)
    (hfields : ∀ field ∈ fields, separator ∉ field)
    (hfields' : ∀ field ∈ fields', separator ∉ field)
    (hlast : terminator ∉ last) (hlast' : terminator ∉ last')
    (hrest : ∀ c ∈ rest.head?, c = terminator) (hrest' : ∀ c ∈ rest'.head?, c = terminator)
    (h : joinWith [separator] (fields ++ [last]) ++ rest =
      joinWith [separator] (fields' ++ [last']) ++ rest') :
    fields = fields' ∧ last = last' ∧ rest = rest' := by
  induction fields generalizing fields' with
  | nil =>
    obtain rfl : fields' = [] := List.length_eq_zero_iff.1 hlength.symm
    exact ⟨rfl, append_terminated_inj hlast hlast' hrest hrest' h⟩
  | cons field fields ih =>
    obtain ⟨field', fields', rfl⟩ := List.exists_cons_of_length_eq_add_one hlength.symm
    obtain ⟨hfield, hothers⟩ := List.forall_mem_cons.1 hfields
    obtain ⟨hfield', hothers'⟩ := List.forall_mem_cons.1 hfields'
    rw [List.cons_append, List.cons_append, joinWith_cons (by simp), joinWith_cons (by simp),
      List.append_assoc, List.append_assoc] at h
    obtain ⟨rfl, hrests⟩ := append_separator_inj hfield hfield' h
    obtain ⟨rfl, hlasts⟩ := ih (Nat.succ.inj hlength) hothers hothers' hrests
    exact ⟨rfl, hlasts⟩

/-- The text is that of `width` fields and a last one. -/
def IsRecord (separator terminator : Char) (width : Nat) (cs : List Char) : Prop :=
  ∃ fields last, fields.length = width ∧ (∀ field ∈ fields, separator ∉ field) ∧
    terminator ∉ last ∧ cs = joinWith [separator] (fields ++ [last])

/-- Records on lines of their own are told apart, although a field may run over several lines. -/
theorem records_inj {width : Nat} {records records' : List (List Char)}
    (hrecords : ∀ record ∈ records, IsRecord separator terminator width record)
    (hrecords' : ∀ record ∈ records', IsRecord separator terminator width record)
    (h : records.flatMap (terminator :: ·) = records'.flatMap (terminator :: ·)) :
    records = records' := by
  have hhead (others : List (List Char)) :
      ∀ c ∈ (others.flatMap (terminator :: ·)).head?, c = terminator := by
    cases others <;> simp
  induction records generalizing records' with
  | nil =>
    cases records' with
    | nil => rfl
    | cons record' others' => simp at h
  | cons record others ih =>
    cases records' with
    | nil => simp at h
    | cons record' others' =>
      obtain ⟨⟨fields, last, hlength, hfields, hlast, rfl⟩, hothers⟩ :=
        List.forall_mem_cons.1 hrecords
      obtain ⟨⟨fields', last', hlength', hfields', hlast', rfl⟩, hothers'⟩ :=
        List.forall_mem_cons.1 hrecords'
      rw [List.flatMap_cons, List.flatMap_cons] at h
      obtain ⟨rfl, rfl, hrest⟩ := joinWith_append_inj (hlength.trans hlength'.symm) hfields hfields'
        hlast hlast' (hhead others) (hhead others') (List.cons.inj h).2
      rw [ih hothers hothers' hrest]

/-! ## Control characters and lower case -/

/-- Character below the blank, but for the null character. -/
def IsControl (c : Char) : Prop := 0 < c.toNat ∧ c.toNat < 0x20

/-- No run of letters leads down to the control characters. -/
theorem caseRuns_beyond : ∀ run ∈ caseRuns, 0x20 ≤ (run.first : Int) + run.shift := by
  decide +kernel

theorem not_isControl_ofNat {n : Nat} (h : 0x20 ≤ n) : ¬ IsControl (Char.ofNat n) := by
  rintro ⟨hpos, hlow⟩
  by_cases hvalid : n.isValidChar
  · rw [Char.toNat_ofNat, if_pos hvalid] at hlow
    omega
  · rw [Char.toNat_ofNat, if_neg hvalid] at hpos
    omega

/-- A control character is its own lower case, and that of no other character. -/
theorem lowerChar_eq_iff {c d : Char} (hc : IsControl c) : lowerChar d = c ↔ d = c := by
  unfold lowerChar
  split
  · by_cases hupper : d.isUpper
    · rw [Char.toLower_eq_of_isUpper hupper]
      have hletter : 0x20 ≤ d.toNat := by
        simp only [Char.isUpper, decide_eq_true_eq, UInt32.le_iff_toNat_le] at hupper
        exact Nat.le_trans (by decide) hupper.1
      refine iff_of_false (fun heq => ?_) (fun heq => ?_)
      · exact not_isControl_ofNat (by omega) (heq ▸ hc)
      · exact absurd (heq ▸ hc.2) (by omega)
    · rw [Char.toLower_eq_of_not_isUpper hupper]
  · next hbeyond =>
    have hne : d ≠ c := fun heq => by
      subst heq
      exact hbeyond (by have := hc.2; omega)
    simp only [hne, iff_false]
    split
    · next run hrun =>
      intro heq
      refine not_isControl_ofNat ?_ (heq ▸ hc)
      have hcontains := List.find?_some hrun
      have := caseRuns_beyond run (List.mem_of_find?_eq_some hrun)
      simp only [CaseRun.contains, Bool.and_eq_true, decide_eq_true_eq] at hcontains
      omega
    · exact hne

theorem mem_lowerFrom {c : Char} (hc : IsControl c) (before cs : List Char) :
    c ∈ lowerFrom before cs ↔ c ∈ cs := by
  induction cs generalizing before with
  | nil => simp [lowerFrom]
  | cons d rest ih =>
    have hlow := hc.2
    have hmapped {mapped : List Char} (hd : 0x20 ≤ d.toNat) (h : ∀ e ∈ mapped, 0x20 ≤ e.toNat) :
        c ∈ mapped ↔ c = d :=
      iff_of_false (fun hmem => by have := h c hmem; omega) (fun heq => by subst heq; omega)
    have hsigma : ∀ e ∈ [if meetsCased before && !meetsCased rest then Char.ofNat 0x3C2
        else Char.ofNat 0x3C3], 0x20 ≤ e.toNat := by
      intro e he
      rw [List.mem_singleton.1 he]
      split <;> decide
    rw [lowerFrom, List.mem_append, List.mem_cons, ih]
    refine or_congr_left ?_
    split
    · exact hmapped (by omega) (by simp)
    · split
      · exact hmapped (by omega) hsigma
      · rw [List.mem_singleton, eq_comm, lowerChar_eq_iff hc, eq_comm]

/-- Lower case keeps the control characters of a text as they are. -/
theorem mem_lowerChars {c : Char} (hc : IsControl c) (cs : List Char) :
    c ∈ lowerChars cs ↔ c ∈ cs :=
  mem_lowerFrom hc [] cs

end FisheryRules.Text
