import FisheryRules.Condition.Segments
import FisheryRules.Proofs.Condition.Spelling
import FisheryRules.Proofs.Text.Lines

/-!
# The text of segments

What is written for the segments of a custom rule: a text on one line without blanks at its ends,
which is scanned as the marks of the segments, one after the other.
-/
namespace FisheryRules

open Text

namespace Segment

variable {segment : Segment} {others : List Segment} {depth : Nat} {cs : List Char}

theorem groups_eq_ok {marker : String} {bracket : Char} {count : Nat} :
    groups marker bracket = .ok count ↔
      (trim marker.toList).all (· == bracket) ∧ count = (trim marker.toList).length := by
  by_cases hmarker : (trim marker.toList).all (· == bracket) <;> simp [groups, hmarker, eq_comm]

/-- A comparison is the name of a field of movements, an operator and a literal. -/
theorem comparison_eq_ok :
    segment.comparison = .ok cs ↔ segment.criteria = segment.subCriteria.criteria ∧
      ∃ field literal, CustomRule.factType.fieldFor? segment.subCriteria = some field ∧
        segment.literal field = .ok literal ∧
        cs = field.name.toList ++ ' ' :: segment.condition.symbol.toList ++ ' ' :: literal := by
  by_cases hcriteria : segment.criteria = segment.subCriteria.criteria
  · cases hfield : CustomRule.factType.fieldFor? segment.subCriteria with
    | none => simp [comparison, hcriteria, hfield]
    | some field =>
      have hcs (written : List Char) : Except.ok written = (.ok cs : Except RuleFlaw _) ↔
          cs = written := by rw [Except.ok.injEq, eq_comm]
      simp [comparison, hcriteria, hfield, bind_eq_ok, hcs]
  · simp [comparison, hcriteria]

/-- What joins a segment to the others after it. -/
def jointChars (segment : Segment) (others : List Segment) : Except RuleFlaw (List Char) :=
  if others.isEmpty then .ok [] else segment.connective

/-- What is written for segments: the brackets, the comparison and the connective of the first
one, and then the others. -/
theorem chars_cons_eq_ok :
    chars depth (segment :: others) = .ok cs ↔
      ∃ opening closing comparison joint rest,
        groups segment.startOperator '(' = .ok opening ∧
        groups segment.endOperator ')' = .ok closing ∧
        depth + opening ≤ Condition.maxNesting ∧
        segment.comparison = .ok comparison ∧
        closing ≤ depth + opening ∧
        segment.jointChars others = .ok joint ∧
        chars (depth + opening - closing) others = .ok rest ∧
        cs = List.replicate opening '(' ++ comparison ++ List.replicate closing ')' ++ joint
          ++ rest := by
  have hjoint : chars depth (segment :: others) = do
      let opening ← groups segment.startOperator '('
      let closing ← groups segment.endOperator ')'
      if Condition.maxNesting < depth + opening then .error (.nestsTooDeep segment.order)
      else do
        let comparison ← segment.comparison
        if depth + opening < closing then .error (.closesUnopened segment.order)
        else do
          let joint ← segment.jointChars others
          let rest ← chars (depth + opening - closing) others
          return List.replicate opening '(' ++ comparison ++ List.replicate closing ')' ++ joint
            ++ rest := by
    cases others <;> rfl
  simp only [hjoint, bind_eq_ok, guarded_eq_ok, pure_eq_ok, Except.ok.injEq, Nat.not_lt]
  constructor
  · rintro ⟨opening, hopening, closing, hclosing, hdepth, comparison, hcomparison, hopened, joint,
      hjoint, rest, hrest, hcs⟩
    exact ⟨opening, closing, comparison, joint, rest, hopening, hclosing, hdepth, hcomparison,
      hopened, hjoint, hrest, hcs.symm⟩
  · rintro ⟨opening, closing, comparison, joint, rest, hopening, hclosing, hdepth, hcomparison,
      hopened, hjoint, hrest, hcs⟩
    exact ⟨opening, hopening, closing, hclosing, hdepth, comparison, hcomparison, hopened, joint,
      hjoint, rest, hrest, hcs.symm⟩

/-! ## Fields and literals -/

/-- A field whose name is read back as the word that it is written as, and that a segment can
give a value for. -/
structure Spellable (field : FieldRef) : Prop where
  cell : Cell field.name.toList
  ne_nil : field.name.toList ≠ []
  start : ∀ c ∈ field.name.toList.head?, Token.startsWord c = true
  tail : ∀ c ∈ field.name.toList.tail, Token.continuesWord c = true
  word : Token.ofWord field.name.toList = .word field.name
  notBool : field.type.element ≠ .bool

theorem movement_refs_spellable : ∀ field ∈ FactType.movement.refs, Spellable field := by
  have hall : ∀ field ∈ FactType.movement.refs,
      Trimmed field.name.toList ∧ OneLine field.name.toList ∧ field.name.toList ≠ [] ∧
      field.name.toList.head?.all Token.startsWord = true ∧
      field.name.toList.tail.all Token.continuesWord = true ∧
      Token.ofWord field.name.toList = .word field.name ∧ field.type.element ≠ .bool := by
    decide +kernel
  intro field hfield
  obtain ⟨htrimmed, honeLine, hne, hstart, htail, hword, hbool⟩ := hall field hfield
  exact ⟨⟨htrimmed, honeLine⟩, hne, (Option.all_eq_true _ _).1 hstart, List.all_eq_true.1 htail,
    hword, hbool⟩

theorem mem_refs_of_fieldFor? {subCriteria : SubCriteria} {field : FieldRef}
    (h : CustomRule.factType.fieldFor? subCriteria = some field) :
    field ∈ FactType.movement.refs := by
  have hfind : (Field.refs Movement.fields).find? (·.subCriteria == some subCriteria) =
      some field := h
  exact List.mem_of_find?_eq_some hfind

theorem spellable_of_fieldFor? {subCriteria : SubCriteria} {field : FieldRef}
    (h : CustomRule.factType.fieldFor? subCriteria = some field) : Spellable field :=
  movement_refs_spellable field (mem_refs_of_fieldFor? h)

/-- The token that the value of a segment is written as. -/
def operand (segment : Segment) (field : FieldRef) : Token :=
  match field.type.element, Decimal.plain? (trim segment.value.toList) with
  | .number, some value => .number value.toBinary64
  | _, _ => .text segment.value

/-- A literal is a numeral, or the value of the segment in quotes. -/
theorem literal_eq_ok {field : FieldRef} (hfield : field.type.element ≠ .bool)
    (h : segment.literal field = .ok cs) :
    (∃ value, cs = trim segment.value.toList ∧ Decimal.plain? cs = some value ∧
      segment.operand field = .number value.toBinary64) ∨
    (cs = quoteChars segment.value.toList ∧ segment.operand field = .text segment.value) := by
  unfold literal at h
  unfold operand
  cases htype : field.type.element with
  | bool => exact absurd htype hfield
  | number =>
    cases hvalue : Decimal.plain? (trim segment.value.toList) with
    | none => simp [htype, hvalue] at h
    | some value =>
      simp only [htype, hvalue, Option.isSome_some, if_true, Except.ok.injEq] at h
      exact .inl ⟨value, h.symm, h ▸ hvalue, rfl⟩
  | _ =>
    simp only [htype, Except.ok.injEq] at h
    exact .inr ⟨h.symm, rfl⟩

theorem continuesNumber_not_lineBreak {c : Char} (h : Token.continuesNumber c = true) :
    isLineBreak c = false := by
  cases hbreak : isLineBreak c with
  | false => rfl
  | true =>
    simp only [isLineBreak, Bool.or_eq_true, beq_iff_eq] at hbreak
    obtain rfl | rfl := hbreak <;> revert h <;> decide

theorem plain?_oneLine {value : Decimal} (h : Decimal.plain? cs = some value) : OneLine cs := by
  obtain ⟨sign, digit, tail, rfl, hsign, hdigit, htail⟩ := Decimal.plain?_shape h
  have hsignLine : OneLine sign := by
    obtain rfl | rfl := hsign <;> simp [OneLine, isLineBreak]
  have hbody : ∀ c ∈ digit :: tail, Token.continuesNumber c = true :=
    List.forall_mem_cons.2 ⟨by simp [Token.continuesNumber, hdigit], htail⟩
  exact hsignLine.append fun c hc => continuesNumber_not_lineBreak (hbody c hc)

theorem escape_oneLine (c : Char) : OneLine (escape c) := by
  unfold escape
  split
  · rename_i hspecial
    simp only [Bool.or_eq_true, beq_iff_eq] at hspecial
    obtain rfl | rfl := hspecial <;> decide
  · split
    · decide
    · split
      · decide
      · simp_all [OneLine, isLineBreak]

theorem quoteChars_cell (cs : List Char) : Cell (quoteChars cs) := by
  have hescaped : OneLine (cs.flatMap escape) := by
    intro c hc
    obtain ⟨d, -, hd⟩ := List.mem_flatMap.1 hc
    exact escape_oneLine d c hd
  exact ⟨quoted_trimmed _, quoted_oneLine hescaped⟩

theorem literal_cell {field : FieldRef} (hfield : field.type.element ≠ .bool)
    (h : segment.literal field = .ok cs) : Cell cs ∧ cs ≠ [] := by
  obtain ⟨value, hcs, hvalue, -⟩ | ⟨rfl, -⟩ := literal_eq_ok hfield h
  · refine ⟨⟨hcs ▸ trimmed_trim _, plain?_oneLine hvalue⟩, ?_⟩
    obtain ⟨sign, digit, tail, rfl, -⟩ := Decimal.plain?_shape hvalue
    simp
  · exact ⟨quoteChars_cell _, by simp [quoteChars]⟩

theorem symbol_oneLine (op : CompareOp) : OneLine op.symbol.toList := by
  cases op <;> simp only [CompareOp.symbol, String.reduceToList] <;> decide

theorem blank_oneLine : OneLine [' '] := by simp [OneLine, isLineBreak]

theorem comparison_cell (h : segment.comparison = .ok cs) : Cell cs ∧ cs ≠ [] := by
  obtain ⟨-, field, literal, hfield, hliteral, rfl⟩ := comparison_eq_ok.1 h
  have hname := spellable_of_fieldFor? hfield
  obtain ⟨hcell, hne⟩ := literal_cell hname.notBool hliteral
  have hshape : field.name.toList ++ ' ' :: segment.condition.symbol.toList ++ ' ' :: literal =
      field.name.toList ++ ([' '] ++ segment.condition.symbol.toList ++ [' ']) ++ literal := by
    simp
  rw [hshape]
  have hmiddle : OneLine ([' '] ++ segment.condition.symbol.toList ++ [' ']) :=
    (blank_oneLine.append (symbol_oneLine _)).append blank_oneLine
  refine ⟨⟨hname.cell.trimmed.append_append hcell.trimmed hname.ne_nil hne,
    (hname.cell.oneLine.append hmiddle).append hcell.oneLine⟩, ?_⟩
  simp [hname.ne_nil]

theorem brackets_cell {bracket : Char} (count : Nat) (hblank : isBlank bracket = false)
    (hbreak : isLineBreak bracket = false) : Cell (List.replicate count bracket) := by
  have hall : ∀ c ∈ List.replicate count bracket, c = bracket :=
    fun c hc => List.eq_of_mem_replicate hc
  refine ⟨⟨fun c hc => ?_, fun c hc => ?_⟩, fun c hc => ?_⟩
  · rw [hall c (List.mem_of_mem_head? hc), hblank]
  · rw [hall c (List.mem_of_getLast? hc), hblank]
  · rw [hall c hc, hbreak]

theorem chars_nil_eq_ok : chars depth [] = .ok cs ↔ depth = 0 ∧ cs = [] := by
  by_cases hdepth : depth = 0 <;> simp [chars, hdepth, eq_comm]

/-- A connective stands where others come after the segment, and only there. -/
theorem jointChars_eq_ok :
    segment.jointChars others = .ok cs ↔ (others = [] ∧ cs = []) ∨ (others ≠ [] ∧
      ((segment.logicOperator = .and ∧ cs = " && ".toList) ∨
        (segment.logicOperator = .or ∧ cs = " || ".toList))) := by
  cases others with
  | nil => simp [jointChars, eq_comm]
  | cons next others =>
    cases hop : segment.logicOperator <;> simp [jointChars, connective, hop, eq_comm]

theorem jointChars_oneLine (h : segment.jointChars others = .ok cs) : OneLine cs := by
  obtain ⟨-, rfl⟩ | ⟨-, ⟨-, rfl⟩ | ⟨-, rfl⟩⟩ := jointChars_eq_ok.1 h <;>
    simp [OneLine, isLineBreak]

/-- Segments are written on one line, without blanks at the ends. -/
theorem chars_cell {segments : List Segment} (h : chars depth segments = .ok cs) :
    Cell cs ∧ (segments ≠ [] → cs ≠ []) := by
  induction segments generalizing depth cs with
  | nil =>
    obtain ⟨-, rfl⟩ := chars_nil_eq_ok.1 h
    exact ⟨⟨trimmed_nil, oneLine_nil⟩, fun h => absurd rfl h⟩
  | cons segment others ih =>
    obtain ⟨opening, closing, comparison, joint, rest, -, -, -, hcomparison, -, hjoint, hrest,
      rfl⟩ := chars_cons_eq_ok.1 h
    obtain ⟨hrestCell, hrestNe⟩ := ih hrest
    obtain ⟨hcell, hne⟩ := comparison_cell hcomparison
    have hfirst : Cell (List.replicate opening '(' ++ comparison ++ List.replicate closing ')') :=
      ((brackets_cell opening (by decide) (by decide)).append hcell).append
        (brackets_cell closing (by decide) (by decide))
    refine ⟨⟨?_, (hfirst.oneLine.append (jointChars_oneLine hjoint)).append hrestCell.oneLine⟩,
      fun _ => by simp [hne]⟩
    obtain ⟨rfl, rfl⟩ | ⟨hothers, -⟩ := jointChars_eq_ok.1 hjoint
    · obtain ⟨-, rfl⟩ := chars_nil_eq_ok.1 hrest
      simpa using hfirst.trimmed
    · exact hfirst.trimmed.append_append hrestCell.trimmed (by simp [hne]) (hrestNe hothers)

end Segment

namespace CustomRule

variable {rule : CustomRule} {cs : List Char}

theorem conditionChars_eq_ok : rule.conditionChars = .ok cs ↔
    rule.sortedSegments ≠ [] ∧ Segment.chars 0 rule.sortedSegments = .ok cs := by
  unfold conditionChars
  split
  · simp [*]
  · exact ⟨fun h => ⟨‹_›, h⟩, And.right⟩

theorem conditionChars_cell (h : rule.conditionChars = .ok cs) : Cell cs ∧ cs ≠ [] := by
  obtain ⟨hsegments, hchars⟩ := conditionChars_eq_ok.1 h
  obtain ⟨hcell, hne⟩ := Segment.chars_cell hchars
  exact ⟨hcell, hne hsegments⟩

end CustomRule

end FisheryRules
