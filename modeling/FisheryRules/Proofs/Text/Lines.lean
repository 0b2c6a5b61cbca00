import FisheryRules.Proofs.Results
import FisheryRules.Source.Grammar
import FisheryRules.Source.RuleText

/-!
# Trimming, lines and quotes

How the readers of line-oriented texts undo what writes such texts: blanks at the ends, line feeds,
the keyword of a line and the quotes around a cell.
-/
namespace FisheryRules.Text

variable {c : Char} {cs rest line : List Char}

/-! ## Trimming -/

/-- No blank at either end. -/
def Trimmed (cs : List Char) : Prop :=
  (∀ c ∈ cs.head?, isBlank c = false) ∧ ∀ c ∈ cs.getLast?, isBlank c = false

instance (cs : List Char) : Decidable (Trimmed cs) :=
  decidable_of_iff (cs.head?.all (!isBlank ·) ∧ cs.getLast?.all (!isBlank ·)) <| by
    simp [Trimmed, Option.all_eq_true]

theorem trimmed_nil : Trimmed [] := by simp [Trimmed]

theorem trimStart_eq_self (h : ∀ c ∈ cs.head?, isBlank c = false) : trimStart cs = cs := by
  cases cs with
  | nil => rfl
  | cons c cs => simp [trimStart, h c (by simp)]

theorem trimEnd_eq_self (h : ∀ c ∈ cs.getLast?, isBlank c = false) : trimEnd cs = cs := by
  have hreverse : cs.reverse.dropWhile isBlank = cs.reverse :=
    trimStart_eq_self (by simpa using h)
  simp [trimEnd, hreverse]

theorem trim_eq_self (h : Trimmed cs) : trim cs = cs := by
  rw [trim, trimStart_eq_self h.1, trimEnd_eq_self h.2]

theorem trim_cons_blank (h : isBlank c = true) : trim (c :: cs) = trim cs := by
  simp [trim, trimStart, h]

theorem trim_append_blanks {blanks : List Char} (h : ∀ c ∈ blanks, isBlank c = true) :
    trim (blanks ++ cs) = trim cs := by
  induction blanks with
  | nil => rfl
  | cons c blanks ih =>
    obtain ⟨hc, hblanks⟩ := List.forall_mem_cons.1 h
    rw [List.cons_append, trim_cons_blank hc, ih hblanks]

theorem head?_dropWhile_blank (cs : List Char) :
    ∀ c ∈ (cs.dropWhile isBlank).head?, isBlank c = false := by
  intro c hc
  have h := List.head?_dropWhile_not isBlank cs
  rw [Option.mem_def.1 hc] at h
  simpa using h

/-- A text is its end without blanks, and blanks. -/
theorem trimEnd_append_blanks (cs : List Char) :
    ∃ blanks, cs = trimEnd cs ++ blanks ∧ ∀ c ∈ blanks, isBlank c = true := by
  refine ⟨(cs.reverse.takeWhile isBlank).reverse, ?_, fun c hc => ?_⟩
  · rw [trimEnd, ← List.reverse_append, List.takeWhile_append_dropWhile, List.reverse_reverse]
  · exact List.mem_takeWhile_imp (List.mem_reverse.1 hc)

theorem trimmed_trim (cs : List Char) : Trimmed (trim cs) := by
  constructor
  · intro c hc
    obtain ⟨blanks, hsplit, -⟩ := trimEnd_append_blanks (trimStart cs)
    refine head?_dropWhile_blank cs c ?_
    change c ∈ (trimStart cs).head?
    rw [hsplit, ← trim, List.head?_append, Option.mem_def.1 hc]
    rfl
  · simpa [trim, trimEnd] using head?_dropWhile_blank (trimStart cs).reverse

/-- Blanks at the end of a text do not show when it is trimmed. -/
theorem trim_append_trailing {blanks : List Char} (h : ∀ c ∈ blanks, isBlank c = true) :
    trim (cs ++ blanks) = trim cs := by
  have hnone : blanks.dropWhile isBlank = [] := List.dropWhile_eq_nil_iff.2 h
  have hnoneReversed : blanks.reverse.dropWhile isBlank = [] :=
    List.dropWhile_eq_nil_iff.2 (by simpa using h)
  rw [trim, trim, trimStart, trimStart, List.dropWhile_append]
  split
  case isTrue hempty => rw [hnone, List.isEmpty_iff.1 hempty]
  case isFalse =>
    rw [trimEnd, trimEnd, List.reverse_append, List.dropWhile_append, hnoneReversed]
    rfl

theorem trim_trimEnd (cs : List Char) : trim (trimEnd cs) = trim cs := by
  obtain ⟨blanks, hsplit, hblanks⟩ := trimEnd_append_blanks cs
  conv => rhs; rw [hsplit, trim_append_trailing hblanks]

/-- What follows a trimmed text is trimmed at its end only. -/
theorem trim_append {front : List Char} (hfront : Trimmed front) (hne : front ≠ []) :
    trim (front ++ cs) = front ++ trimEnd cs := by
  have hstart : trimStart (front ++ cs) = front ++ cs :=
    trimStart_eq_self (by simpa [hne] using hfront.1)
  have hend : front.reverse.dropWhile isBlank = front.reverse :=
    trimStart_eq_self (by simpa using hfront.2)
  rw [trim, hstart, trimEnd, trimEnd, List.reverse_append, List.dropWhile_append, hend]
  split
  case isTrue hempty => simp [List.isEmpty_iff.1 hempty]
  case isFalse => simp

theorem Trimmed.append {front back : List Char} (hfront : Trimmed front) (hback : Trimmed back) :
    Trimmed (front ++ back) := by
  constructor
  · intro c hc
    rw [List.head?_append, Option.mem_def, Option.or_eq_some_iff] at hc
    obtain hc | ⟨-, hc⟩ := hc
    · exact hfront.1 c hc
    · exact hback.1 c hc
  · intro c hc
    rw [List.getLast?_append, Option.mem_def, Option.or_eq_some_iff] at hc
    obtain hc | ⟨-, hc⟩ := hc
    · exact hback.2 c hc
    · exact hfront.2 c hc

/-- A text between trimmed texts that are not empty does not show at the ends. -/
theorem Trimmed.append_append {front middle back : List Char} (hfront : Trimmed front)
    (hback : Trimmed back) (hf : front ≠ []) (hb : back ≠ []) :
    Trimmed (front ++ middle ++ back) := by
  constructor
  · simpa [hf] using hfront.1
  · simpa [hb] using hback.2

theorem joinWith_trimmed {separator : List Char} {parts : List (List Char)}
    (h : ∀ part ∈ parts, Trimmed part ∧ part ≠ []) :
    Trimmed (joinWith separator parts) ∧ (parts ≠ [] → joinWith separator parts ≠ []) := by
  induction parts with
  | nil => exact ⟨trimmed_nil, fun h => absurd rfl h⟩
  | cons first others ih =>
    obtain ⟨⟨hfirst, hne⟩, hothers⟩ := List.forall_mem_cons.1 h
    cases others with
    | nil => exact ⟨hfirst, fun _ => hne⟩
    | cons second others =>
      obtain ⟨hjoined, hjoinedNe⟩ := ih hothers
      refine ⟨hfirst.append_append hjoined hne (hjoinedNe (by simp)), fun _ => ?_⟩
      simp [joinWith, hne]

theorem fold_trimmed (cs : List Char) : Trimmed (fold cs) := by
  refine (joinWith_trimmed fun part hpart => ?_).1
  obtain ⟨hmem, hne⟩ := List.mem_filter.1 hpart
  obtain ⟨piece, -, rfl⟩ := List.mem_map.1 hmem
  exact ⟨trimmed_trim piece, by simpa using hne⟩

/-! ## Lines -/

/-- No character of the text starts a new line. -/
def OneLine (cs : List Char) : Prop := ∀ c ∈ cs, isLineBreak c = false

instance (cs : List Char) : Decidable (OneLine cs) :=
  decidable_of_iff (cs.all (!isLineBreak ·)) <| by simp [OneLine]

theorem oneLine_nil : OneLine [] := by simp [OneLine]

theorem OneLine.append {front back : List Char} (hfront : OneLine front) (hback : OneLine back) :
    OneLine (front ++ back) := by
  intro c hc
  obtain hc | hc := List.mem_append.1 hc
  · exact hfront c hc
  · exact hback c hc

theorem OneLine.of_subset {whole part : List Char} (h : OneLine whole) (hpart : part ⊆ whole) :
    OneLine part := fun c hc => h c (hpart hc)

theorem trim_subset (cs : List Char) : trim cs ⊆ cs := by
  intro c hc
  have hend : c ∈ (trimStart cs).reverse.dropWhile isBlank := by simpa [trim, trimEnd] using hc
  have hstart : c ∈ trimStart cs :=
    List.mem_reverse.1 ((List.dropWhile_sublist _).subset hend)
  exact (List.dropWhile_sublist _).subset hstart

theorem joinWith_oneLine {separator : List Char} {parts : List (List Char)}
    (hseparator : OneLine separator) (h : ∀ part ∈ parts, OneLine part) :
    OneLine (joinWith separator parts) := by
  induction parts with
  | nil => exact oneLine_nil
  | cons first others ih =>
    obtain ⟨hfirst, hothers⟩ := List.forall_mem_cons.1 h
    cases others with
    | nil => exact hfirst
    | cons second others => exact (hfirst.append hseparator).append (ih hothers)

/-- No piece between breaks has a break in it. -/
theorem pieces_forall_not_break (isBreak : Char → Bool) (cs : List Char) :
    ∀ piece ∈ pieces isBreak cs, ∀ c ∈ piece, isBreak c = false := by
  induction cs with
  | nil => simp [pieces]
  | cons c cs ih =>
    rw [pieces]
    split
    · simpa using ih
    · rename_i hc
      split
      · simp [hc]
      · rename_i first others heq
        obtain ⟨hfirst, hothers⟩ := List.forall_mem_cons.1 (heq ▸ ih)
        exact List.forall_mem_cons.2 ⟨List.forall_mem_cons.2 ⟨by simpa using hc, hfirst⟩, hothers⟩

theorem fold_oneLine (cs : List Char) : OneLine (fold cs) := by
  refine joinWith_oneLine (by simp [OneLine, isLineBreak]) fun part hpart => ?_
  obtain ⟨piece, hpiece, rfl⟩ := List.mem_map.1 (List.mem_filter.1 hpart).1
  exact OneLine.of_subset (pieces_forall_not_break isLineBreak cs piece hpiece) (trim_subset piece)

/-- A trimmed text without line breaks can be any part of a line. -/
structure Cell (cs : List Char) : Prop where
  trimmed : Trimmed cs
  oneLine : OneLine cs

theorem Cell.append {front back : List Char} (hfront : Cell front) (hback : Cell back) :
    Cell (front ++ back) :=
  ⟨hfront.trimmed.append hback.trimmed, hfront.oneLine.append hback.oneLine⟩

theorem fold_cell (cs : List Char) : Cell (fold cs) := ⟨fold_trimmed cs, fold_oneLine cs⟩

theorem pieces_ne_nil (isBreak : Char → Bool) (cs : List Char) : pieces isBreak cs ≠ [] := by
  cases cs with
  | nil => simp [pieces]
  | cons c cs =>
    rw [pieces]
    split
    · simp
    · split <;> simp

/-- A break separates the pieces before it from those after it. -/
theorem pieces_append {isBreak : Char → Bool} {front : List Char} (hc : isBreak c = true) :
    pieces isBreak (front ++ c :: rest) = pieces isBreak front ++ pieces isBreak rest := by
  induction front with
  | nil => simp [pieces, hc]
  | cons d front ih =>
    rw [List.cons_append, pieces, pieces, ih]
    split
    · rfl
    · obtain ⟨first, others, hpieces⟩ := List.exists_cons_of_ne_nil (pieces_ne_nil isBreak front)
      simp [hpieces]

theorem pieces_eq_singleton {isBreak : Char → Bool} (hline : ∀ c ∈ line, isBreak c = false) :
    pieces isBreak line = [line] := by
  induction line with
  | nil => rfl
  | cons c line ih =>
    obtain ⟨hc, hline⟩ := List.forall_mem_cons.1 hline
    simp [pieces, hc, ih hline]

theorem pieces_append_break {isBreak : Char → Bool} (hline : ∀ c ∈ line, isBreak c = false)
    (hc : isBreak c = true) :
    pieces isBreak (line ++ c :: rest) = line :: pieces isBreak rest := by
  rw [pieces_append hc, pieces_eq_singleton hline, List.singleton_append]

theorem OneLine.not_lineFeed (h : OneLine line) : ∀ c ∈ line, (c == '\n') = false := by
  intro c hc
  have hbreak := h c hc
  simp only [isLineBreak, Bool.or_eq_false_iff] at hbreak
  exact hbreak.1

theorem OneLine.dropReturn_eq_self (h : OneLine line) : dropReturn line = line := by
  unfold dropReturn
  split
  · rename_i hlast
    exact absurd (h _ (List.mem_of_getLast? hlast)) (by decide)
  · rfl

/-- A line that is ended by a line feed is read back, before the lines after it. -/
theorem lines_append_lineFeed (h : OneLine line) :
    lines (line ++ '\n' :: rest) = line :: lines rest := by
  rw [lines, pieces_append_break h.not_lineFeed (by rfl)]
  obtain ⟨first, others, hpieces⟩ := List.exists_cons_of_ne_nil (pieces_ne_nil (· == '\n') rest)
  rw [lines, hpieces, linesOf, h.dropReturn_eq_self]
  simp

/-- Lines written one after the other are read back. -/
theorem lines_unlines {ls : List (List Char)} (h : ∀ line ∈ ls, OneLine line) :
    lines (Grammar.unlines ls) = ls := by
  induction ls with
  | nil => rfl
  | cons line ls ih =>
    obtain ⟨hline, hls⟩ := List.forall_mem_cons.1 h
    calc lines (Grammar.unlines (line :: ls))
        = lines (line ++ '\n' :: Grammar.unlines ls) := by simp [Grammar.unlines]
      _ = line :: lines (Grammar.unlines ls) := lines_append_lineFeed hline
      _ = line :: ls := by rw [ih hls]

/-! ## Keywords and quotes -/

theorem after?_append (start : String) (rest : List Char) :
    after? start (start.toList ++ rest) = some rest := by
  rw [after?]
  induction start.toList with
  | nil => rfl
  | cons c cs ih => rw [List.cons_append, List.isPrefixOf?, if_pos (beq_self_eq_true c), ih]

/-- The text in quotes, whatever is in it. -/
def quoted (cs : List Char) : List Char := '"' :: cs ++ ['"']

theorem quoted_trimmed (cs : List Char) : Trimmed (quoted cs) := by
  have hquote : isBlank '"' = false := by rfl
  constructor
  · simp [quoted, hquote]
  · rw [quoted, List.getLast?_concat]
    simp [hquote]

theorem quoted_oneLine {cs : List Char} (h : OneLine cs) : OneLine (quoted cs) := by
  have hquote : OneLine ['"'] := by simp [OneLine, isLineBreak]
  exact (hquote.append h).append hquote

theorem unquote_quoted (cs : List Char) : unquote (quoted cs) = cs := by
  rw [unquote, trim_eq_self (quoted_trimmed cs)]
  simp [quoted]

/-- What follows a keyword and a blank, in a trimmed line. -/
theorem afterKeyword?_append {word : String} (h : Trimmed rest) :
    afterKeyword? word (word.toList ++ ' ' :: rest) = some rest := by
  have hblank : isBlank ' ' = true := by rfl
  rw [afterKeyword?, after?_append]
  simp [hblank, trim_cons_blank, trim_eq_self h]

theorem afterKeyword?_self (word : String) : afterKeyword? word word.toList = some [] := by
  have hafter := after?_append word []
  rw [List.append_nil] at hafter
  rw [afterKeyword?, hafter]
  simp [trim_eq_self trimmed_nil]

end FisheryRules.Text
