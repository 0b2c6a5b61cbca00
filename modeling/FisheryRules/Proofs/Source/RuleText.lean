import FisheryRules.Proofs.Source.Template

/-!
# Reading written rules

The lines of a written rule are read as one rule with the same cells, whatever stands in the
cells, as long as a cell has no line break and the condition no blanks at its ends.
-/
namespace FisheryRules

open Text

/-! ## Trimmed lines -/

namespace Text

/-- Trimming removes the blanks before a trimmed text. -/
theorem trim_indented {blanks cs : List Char} (hblanks : ∀ c ∈ blanks, isBlank c = true)
    (h : Trimmed cs) : trim (blanks ++ cs) = cs := by
  rw [trim_append_blanks hblanks, trim_eq_self h]

end Text

namespace RuleText

/-! ## Lines of a source -/

/-- The lines are read as whole rules, whatever comes after them. -/
def Splits (lines : List (List Char)) (units : List RuleText) : Prop :=
  ∀ number rest, splitFrom number none (lines ++ rest) =
    (splitFrom (number + lines.length) none rest).map (units ++ ·)

theorem splits_nil : Splits [] [] := by
  intro number rest
  cases h : splitFrom number none rest <;> simp [h, Except.map]

theorem Splits.append {front back : List (List Char)} {before after : List RuleText}
    (hfront : Splits front before) (hback : Splits back after) :
    Splits (front ++ back) (before ++ after) := by
  intro number rest
  rw [List.append_assoc, hfront, hback, List.length_append, Nat.add_assoc]
  cases splitFrom (number + (front.length + back.length)) none rest <;> simp [Except.map]

theorem Splits.flatMap {α : Type} {xs : List α} {lines : α → List (List Char)}
    {units : α → List RuleText} (h : ∀ x ∈ xs, Splits (lines x) (units x)) :
    Splits (xs.flatMap lines) (xs.flatMap units) := by
  induction xs with
  | nil => exact splits_nil
  | cons x xs ih =>
    obtain ⟨hx, hxs⟩ := List.forall_mem_cons.1 h
    exact hx.append (ih hxs)

section Steps

variable {line : List Char} {others : List (List Char)}

theorem splitFrom_skipped (number : Nat) (hheader : header? (trim line) = none)
    (hskipped : skipped line = true) :
    splitFrom number none (line :: others) = splitFrom (number + 1) none others := by
  rw [skipped] at hskipped
  rw [splitFrom.eq_def]
  simp only [hheader]
  rw [if_pos hskipped]

theorem splitFrom_header (number : Nat) {name : List Char}
    (hheader : header? (trim line) = some name) :
    splitFrom number none (line :: others) =
      splitFrom (number + 1) (some ⟨name, [], false⟩) others := by
  rw [splitFrom.eq_def]
  simp only [hheader]
  cases splitFrom (number + 1) (some ⟨name, [], false⟩) others <;> simp [Except.map]

theorem splitFrom_inside (number : Nat) (unit : RuleText) (hheader : header? (trim line) = none)
    (hend : trim line ≠ "end".toList) :
    splitFrom number (some unit) (line :: others) =
      splitFrom (number + 1) (some { unit with lines := unit.lines ++ [trim line] }) others := by
  rw [splitFrom.eq_def]
  simp only [hheader]
  rw [if_neg (by simpa using hend)]

theorem splitFrom_end (number : Nat) (unit : RuleText) (hend : trim line = "end".toList) :
    splitFrom number (some unit) (line :: others) =
      (splitFrom (number + 1) none others).map ({ unit with ended := true } :: ·) := by
  have hheader : header? (trim line) = none := by
    rw [hend]
    simp only [String.reduceToList]
    decide
  rw [splitFrom.eq_def]
  simp only [hheader]
  rw [if_pos (by simpa using hend)]

end Steps

/-- Lines without a meaning are read as no rule. -/
theorem splits_skipped {lines : List (List Char)}
    (h : ∀ line ∈ lines, header? (trim line) = none ∧ skipped line = true) : Splits lines [] := by
  induction lines with
  | nil => exact splits_nil
  | cons line lines ih =>
    obtain ⟨⟨hheader, hskipped⟩, hlines⟩ := List.forall_mem_cons.1 h
    intro number rest
    rw [List.cons_append, splitFrom_skipped number hheader hskipped, ih hlines, List.length_cons,
      Nat.add_right_comm, Nat.add_assoc]

/-- The lines inside a rule are kept, trimmed. -/
theorem splitFrom_open {lines : List (List Char)} (number : Nat) (unit : RuleText)
    (rest : List (List Char))
    (h : ∀ line ∈ lines, header? (trim line) = none ∧ trim line ≠ "end".toList) :
    splitFrom number (some unit) (lines ++ rest) =
      splitFrom (number + lines.length)
        (some { unit with lines := unit.lines ++ lines.map trim }) rest := by
  induction lines generalizing number unit with
  | nil => simp
  | cons line lines ih =>
    obtain ⟨⟨hheader, hend⟩, hlines⟩ := List.forall_mem_cons.1 h
    rw [List.cons_append, splitFrom_inside number unit hheader hend, ih _ _ hlines]
    simp [Nat.add_assoc, Nat.add_comm 1]

/-- A line that names a rule, lines inside it and a line that ends it are read as that rule. -/
theorem splits_unit {header closing : List Char} {name : List Char} {lines : List (List Char)}
    (hname : header? (trim header) = some name)
    (hlines : ∀ line ∈ lines, header? (trim line) = none ∧ trim line ≠ "end".toList)
    (hend : trim closing = "end".toList) :
    Splits (header :: lines ++ [closing]) [⟨name, lines.map trim, true⟩] := by
  intro number rest
  rw [List.append_assoc, List.cons_append, splitFrom_header number hname,
    splitFrom_open _ _ _ hlines, List.singleton_append, splitFrom_end _ _ hend]
  simp [Nat.add_assoc, Nat.add_comm 1]

/-- A source that consists of whole rules is split into them. -/
theorem Splits.split {lines : List (List Char)} {units : List RuleText} (h : Splits lines units)
    (hlines : ∀ line ∈ lines, OneLine line) : split (Grammar.unlines lines) = .ok units := by
  have hall := h 1 []
  rw [List.append_nil] at hall
  rw [RuleText.split, lines_unlines hlines, hall]
  simp [splitFrom, Except.map]

/-! ## The lines of a written rule -/

/-- A line that says what a rule does when it fires. -/
structure Consequential (line : List Char) : Prop where
  cell : Cell line
  notHeader : header? line = none
  notEnd : line ≠ "end".toList
  notVoid : isVoid line = false

theorem consequential_alarm : Consequential "alarm".toList := by
  constructor
  · constructor <;> simp only [String.reduceToList] <;> decide
  all_goals
    simp only [String.reduceToList]
    decide

theorem keyword_cell (part : EffectPart) :
    Cell part.keyword.toList ∧ part.keyword.toList ≠ [] := by
  cases part <;> refine ⟨⟨?_, ?_⟩, ?_⟩ <;>
    simp only [EffectPart.keyword, String.reduceToList] <;>
    decide

theorem consequential_directive (part : EffectPart) {text : List Char} (h : OneLine text) :
    Consequential (part.directive text) := by
  obtain ⟨hkeyword, hne⟩ := keyword_cell part
  have hsplit : part.directive text = part.keyword.toList ++ [' '] ++ quoted text := by
    simp [EffectPart.directive]
  refine ⟨⟨?_, ?_⟩, ?_, ?_, ?_⟩
  · rw [hsplit]
    exact hkeyword.trimmed.append_append (quoted_trimmed text) hne (by simp [quoted])
  · rw [hsplit]
    have hblank : OneLine [' '] := by simp [OneLine, isLineBreak]
    exact (hkeyword.oneLine.append hblank).append (quoted_oneLine h)
  · cases part <;> simp [EffectPart.directive, EffectPart.keyword, header?, after?,
      List.isPrefixOf?]
  · cases part <;> simp [EffectPart.directive, EffectPart.keyword]
  · cases part <;> simp [EffectPart.directive, EffectPart.keyword, isVoid]

/-- The line before a condition, trimmed: nothing is left of the blank after the keyword when the
condition is empty. -/
theorem trim_whenLine {condition : List Char} (h : Trimmed condition) :
    ∃ tail, trim ("    when ".toList ++ condition) = "when".toList ++ tail ∧
      afterKeyword? "when" ("when".toList ++ tail) = some condition := by
  have hblank : ∀ c ∈ "    ".toList, isBlank c = true := by
    simp only [String.reduceToList]
    exact List.all_eq_true.1 (by decide)
  have hsplit : "    when ".toList ++ condition =
      "    ".toList ++ ("when".toList ++ ' ' :: condition) := by simp
  rw [hsplit, trim_append_blanks hblank]
  by_cases hempty : condition = []
  · subst hempty
    refine ⟨[], by simp only [String.reduceToList]; decide, ?_⟩
    rw [List.append_nil, afterKeyword?_self]
  · refine ⟨' ' :: condition, ?_, afterKeyword?_append h⟩
    have hword : Trimmed "when".toList := by
      simp only [String.reduceToList]
      decide
    have htrimmed : Trimmed ("when".toList ++ [' '] ++ condition) :=
      hword.append_append h (by simp) hempty
    simpa using trim_eq_self htrimmed

/-- The rule that a written one is read as. -/
def ofCells (name : List Char) (factType : FactType) (condition : List Char)
    (consequences : List (List Char)) : RuleText where
  name := name
  lines := ["on ".toList ++ factType.name.toList, trim ("    when ".toList ++ condition),
    "then".toList] ++ consequences
  ended := true

variable {name condition : List Char} {factType : FactType} {consequences : List (List Char)}

theorem header?_written (name : List Char) :
    header? (trim ("rule ".toList ++ quoted name)) = some name := by
  have hword : Trimmed "rule".toList := by
    simp only [String.reduceToList]
    decide
  have htrimmed : Trimmed ("rule".toList ++ [' '] ++ quoted name) :=
    hword.append_append (quoted_trimmed name) (by simp) (by simp [quoted])
  have hline : trim ("rule ".toList ++ quoted name) = "rule ".toList ++ quoted name := by
    simpa using trim_eq_self htrimmed
  rw [hline, header?, after?_append, Option.map_some, unquote_quoted]

theorem trim_onLine (factType : FactType) :
    trim ("    on ".toList ++ factType.name.toList) = "on ".toList ++ factType.name.toList := by
  cases factType <;> simp only [FactType.name, String.reduceToList] <;> decide

theorem splits_written (hcondition : Trimmed condition)
    (hconsequences : ∀ line ∈ consequences, Consequential line) :
    Splits (written name factType condition consequences)
      [ofCells name factType condition consequences] := by
  have hindent : ∀ c ∈ "        ".toList, isBlank c = true := by
    simp only [String.reduceToList]
    exact List.all_eq_true.1 (by decide)
  have htrim : ∀ line ∈ consequences, trim ("        ".toList ++ line) = line :=
    fun line hline => trim_indented hindent (hconsequences line hline).cell.trimmed
  have hthen : trim "    then".toList = "then".toList := by
    simp only [String.reduceToList]
    decide
  have hlines : ∀ line ∈ ["    on ".toList ++ factType.name.toList,
      "    when ".toList ++ condition, "    then".toList]
      ++ consequences.map ("        ".toList ++ ·),
      header? (trim line) = none ∧ trim line ≠ "end".toList := by
    simp only [List.cons_append, List.nil_append, List.forall_mem_cons, List.forall_mem_map]
    refine ⟨?_, ?_, ?_, fun line hline => ?_⟩
    · rw [trim_onLine]
      simp [header?, after?, List.isPrefixOf?]
    · obtain ⟨tail, htail, -⟩ := trim_whenLine hcondition
      rw [htail]
      simp [header?, after?, List.isPrefixOf?]
    · rw [hthen]
      simp [header?, after?, List.isPrefixOf?]
    · rw [htrim line hline]
      exact ⟨(hconsequences line hline).notHeader, (hconsequences line hline).notEnd⟩
  have hend : trim "end".toList = "end".toList := by
    simp only [String.reduceToList]
    decide
  have hunit := splits_unit (header?_written name) hlines hend
  have hblank : Splits [[]] [] := splits_skipped (by decide)
  have hmap : (consequences.map ("        ".toList ++ ·)).map trim = consequences := by
    rw [List.map_map]
    exact (List.map_congr_left htrim).trans (List.map_id _)
  have hall := hunit.append hblank
  rw [List.map_append, hmap, List.map_cons, List.map_cons, List.map_cons, trim_onLine, hthen]
    at hall
  simpa [written, ofCells] using hall

/-- A written rule has as many lines as it seems to have. -/
theorem written_oneLine (hname : OneLine name) (hcondition : OneLine condition)
    (hconsequences : ∀ line ∈ consequences, Consequential line) :
    ∀ line ∈ written name factType condition consequences, OneLine line := by
  have hwords : ∀ word ∈ ["rule ", "    on ", "    when ", "    then", "        ", "end"],
      OneLine word.toList := by
    decide +kernel
  have htypes : ∀ type : FactType, OneLine type.name.toList := by
    intro type
    cases type <;> simp only [FactType.name] <;> decide +kernel
  simp only [written, List.forall_mem_append, List.forall_mem_cons, List.forall_mem_map]
  refine ⟨⟨⟨?_, ?_, ?_, ?_, List.forall_mem_nil _⟩, fun line hline => ?_⟩, ?_, oneLine_nil,
    List.forall_mem_nil _⟩
  · exact (hwords "rule " (by decide)).append (quoted_oneLine hname)
  · exact (hwords "    on " (by decide)).append (htypes factType)
  · exact (hwords "    when " (by decide)).append hcondition
  · exact hwords "    then" (by decide)
  · exact (hwords "        " (by decide)).append (hconsequences line hline).cell.oneLine
  · exact hwords "end" (by decide)

/-- The parts of a written rule are those it was written with. -/
theorem clauses_ofCells (hcondition : Trimmed condition)
    (hconsequences : ∀ line ∈ consequences, Consequential line) :
    (ofCells name factType condition consequences).clauses =
      if condition.isEmpty then .error .emptyCondition
      else .ok ⟨factType, condition, consequences⟩ := by
  obtain ⟨tail, htail, hkeyword⟩ := trim_whenLine hcondition
  have hvoid : ∀ line ∈ consequences, (!isVoid line) = true := by
    intro line hline
    simp [(hconsequences line hline).notVoid]
  have hfilter : ((ofCells name factType condition consequences).lines.filter (!isVoid ·)) =
      ("on ".toList ++ factType.name.toList) :: ("when".toList ++ tail) :: "then".toList
        :: consequences := by
    rw [ofCells, htail, List.filter_append, List.filter_eq_self.2 hvoid]
    simp [isVoid]
  have hon : FactType.parse? (String.ofList (trim factType.name.toList)) = some factType := by
    cases factType <;> decide +kernel
  have hnotOn : after? "on " ("when".toList ++ tail) = none := by
    simp [after?, List.isPrefixOf?]
  have hhead : readHead none (("on ".toList ++ factType.name.toList) :: ("when".toList ++ tail)
      :: "then".toList :: consequences) = .ok (some factType, condition, consequences) := by
    simp only [readHead, readCondition, after?_append, hon, hnotOn, hkeyword, afterKeyword?_self]
    rfl
  rw [clauses, hfilter, hhead]
  simp only [ofCells, ok_bind, trim_eq_self hcondition, Bool.not_true, Bool.false_eq_true, if_false]
  split <;> rfl

theorem ofText_ofCells (hcondition : Trimmed condition)
    (hconsequences : ∀ line ∈ consequences, Consequential line) :
    CompiledRule.ofText (ofCells name factType condition consequences) =
      if condition.isEmpty then .error .emptyCondition
      else do
        let compiled ← (Condition.compile factType condition).mapError .condition
        let effect ← RuleEffect.ofLines consequences
        return {
          id := effect.ruleId (String.ofList name), name := String.ofList name, factType
          condition := compiled, effect } := by
  rw [CompiledRule.ofText, clauses_ofCells hcondition hconsequences]
  split <;> rfl

end RuleText

/-! ## Effects -/

/-- The text that a line gives for a part is read back, whatever is in it. -/
theorem Consequence.read_directive (part : EffectPart) (text : List Char) :
    Consequence.read (part.directive text) = .ok (.part part (String.ofList text)) := by
  have hgiven : afterKeyword? part.keyword (part.directive text) = some (quoted text) :=
    afterKeyword?_append (quoted_trimmed text)
  have hother : ∀ other, other ≠ part →
      afterKeyword? other.keyword (part.directive text) = none := by
    intro other hother
    cases other <;> cases part <;>
      simp [EffectPart.directive, EffectPart.keyword, afterKeyword?, after?, List.isPrefixOf?]
        at hother ⊢
  have hnotAlarm : (part.directive text == "alarm".toList) = false := by
    cases part <;> simp [EffectPart.directive, EffectPart.keyword]
  rw [Consequence.read, hnotAlarm]
  cases part <;> simp [EffectPart.all, hgiven, hother, unquote_quoted]

theorem RuleEffect.ofLines_alarm : RuleEffect.ofLines ["alarm".toList] = .ok .alarm := by
  decide +kernel

theorem RuleEffect.ofLines_custom (guid actions : List Char) :
    RuleEffect.ofLines [EffectPart.guid.directive guid, EffectPart.actions.directive actions] =
      if guid.isEmpty then .error .noGuid
      else .ok (.custom (String.ofList guid) (String.ofList actions)) := by
  simp [ofLines, Consequence.read_directive, ofConsequences, Consequence.mention,
    Consequence.lastText?, Consequence.textFor?]

theorem RuleEffect.severity_code (severity : Severity) :
    RuleEffect.severity (some severity.code) = .ok severity := by
  cases severity <;> decide +kernel

theorem RuleEffect.ofLines_outcome (severity : Severity) (level message fieldPath : List Char) :
    RuleEffect.ofLines [EffectPart.errorType.directive severity.code.toList,
      EffectPart.level.directive level, EffectPart.message.directive message,
      EffectPart.fieldPath.directive fieldPath] =
    .ok (.outcome severity (String.ofList level) (String.ofList message)
      (String.ofList fieldPath)) := by
  simp [ofLines, Consequence.read_directive, ofConsequences, Consequence.mention,
    Consequence.lastText?, Consequence.textFor?, severity_code]

end FisheryRules
