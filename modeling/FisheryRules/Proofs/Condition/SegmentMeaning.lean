import FisheryRules.Proofs.Condition.SegmentMarks
import FisheryRules.Proofs.Condition.TypeSafety
import FisheryRules.Proofs.Rule.Order

/-!
# The meaning of segments

What the segments of a custom rule say of a movement, read from the segments themselves, and that
their condition says the same.
-/
namespace FisheryRules

/-- Whether the value of a field stands in relation to what a segment gives for it: the text as it
is, a number, or an instant. A field without a value differs from everything, and a list equals
what one of its items equals. -/
def Value.agrees (op : CompareOp) (raw : String) : Value → Bool
  | .null => op == .ne
  | .text actual => op.accepts (compare actual raw)
  | .number actual =>
    match Decimal.plain? (Text.trim raw.toList) with
    | some given => (actual.compare? given.toBinary64).any op.accepts
    | none => false
  | .time actual =>
    match Timestamp.read raw with
    | .ok given => op.accepts (actual.compare given)
    | .error _ => false
  | .list items =>
    let found := items.any fun
      | .text item => item == raw
      | _ => false
    if op == .eq then found else !found
  | .bool _ => false

/-- The value of the field of movements for a sub-criteria. -/
def Movement.valueFor (movement : Movement) (subCriteria : SubCriteria) : Value :=
  match Movement.fields.find? (·.subCriteria == some subCriteria) with
  | some field => field.read movement
  | none => .null

/-- Whether the comparison of a segment holds of a movement. -/
def Segment.holds (movement : Movement) (segment : Segment) : Bool :=
  (movement.valueFor segment.subCriteria).agrees segment.condition segment.value

/-! ## Fields of movements -/

theorem Field.findFor?_eq_some {α : Type} {fields : List (Field α)} {subCriteria : SubCriteria}
    {ref : FieldRef} (h : Field.findFor? fields subCriteria = some ref) :
    ∃ field, fields.find? (·.subCriteria == some subCriteria) = some field ∧
      fields[ref.index]? = some field := by
  obtain ⟨hsub, i, hi, hget, hbefore⟩ := List.find?_eq_some_iff_getElem.1 h
  have hlength : i < fields.length := by simpa [Field.refs] using hi
  obtain rfl : _ = ref := by simpa [Field.refs] using hget
  refine ⟨fields[i], List.find?_eq_some_iff_getElem.2 ⟨hsub, i, hlength, rfl, ?_⟩, by simp⟩
  intro j hj
  simpa [Field.refs] using hbefore j hj

theorem Movement.valueAt?_of_fieldFor? {subCriteria : SubCriteria} {ref : FieldRef}
    (h : CustomRule.factType.fieldFor? subCriteria = some ref) (movement : Movement) :
    (Payload.movement movement).valueAt? ref.index = some (movement.valueFor subCriteria) := by
  obtain ⟨field, hfind, hget⟩ := Field.findFor?_eq_some h
  simp [Payload.valueAt?, Field.valueAt?, hget, Movement.valueFor, hfind]

/-- The fields that a segment can name: none is boolean, and lists are of texts. -/
theorem movement_refs_type : ∀ ref ∈ FactType.movement.refs,
    (ref.type = .text ∨ ref.type = .number ∨ ref.type = .time ∨ ref.type = .textList) ∧
      ¬ IsConstant ref.name ∧ FactType.movement.field? ref.name = some ref := by
  simp only [IsConstant]
  decide +kernel

/-! ## One comparison -/

namespace Segment

variable {segment : Segment} {ref : FieldRef} {movement : Movement} {context : EvalContext}

/-- What the value of a segment is read as. -/
def given (segment : Segment) (ref : FieldRef) : Condition :=
  match segment.operand ref with
  | .number value => .literal (.number value)
  | _ => .literal (.text segment.value)

/-- The tree that a comparison is read as. -/
def tree (segment : Segment) (ref : FieldRef) : Condition :=
  .compare segment.condition (.field ref) (segment.given ref)

end Segment

/-- When the tree passes the check, it is boolean and has the given value. -/
def Condition.Yields (context : EvalContext) (fact : Payload) (tree : Condition) (value : Bool) :
    Prop :=
  ∀ checked type, tree.check = .ok (checked, type) →
    type = .of .bool ∧ checked.evaluate context fact = .ok (.bool value)

/-- What a segment is compared with on a field of a type that segments can name. -/
inductive Segment.Gives (segment : Segment) : FieldType → Value → Prop
  | text : Gives segment .text (.text segment.value)
  | number {value} : Decimal.plain? (Text.trim segment.value.toList) = some value →
      Gives segment .number (.number value.toBinary64)
  | time {instant} : Timestamp.read segment.value = .ok instant →
      Gives segment .time (.time instant)
  | textList : segment.condition.isEquality = true →
      Gives segment .textList (.text segment.value)

theorem accepts_compare_eq (a b : String) : CompareOp.eq.accepts (compare a b) = (a == b) := by
  rw [CompareOp.accepts, Bool.eq_iff_iff, beq_iff_eq, beq_iff_eq]
  exact Std.compare_eq_iff_eq

theorem compareValues_list_agrees {op : CompareOp} {raw : String} {items : List Value}
    (hop : op.isEquality = true) (hitems : ∀ item ∈ items, item.HasType (.of .text)) :
    compareValues op (.list items) (.text raw) = .ok ((Value.list items).agrees op raw) := by
  have hany : anyEqualsValue (.text raw) items = .ok (items.any fun
      | .text item => item == raw
      | _ => false) := by
    induction items with
    | nil => rfl
    | cons item others ih =>
      obtain ⟨hitem, hothers⟩ := List.forall_mem_cons.1 hitems
      rw [anyEqualsValue, ih hothers, List.any_cons]
      cases hitem with
      | null => rfl
      | list h => cases h
      | text value =>
        have hequal : equalsValue (.text raw) (.text value) = .ok (value == raw) := by
          rw [← accepts_compare_eq]
          rfl
        cases hsame : value == raw <;> simp [hequal, hsame]
  simp [compareValues, equalsValue, hop, hany, Value.isNull, Except.map, Value.agrees]

/-- The comparison with what a segment gives comes out as the segment says. -/
theorem Segment.Gives.compareValues_agrees {segment : Segment} {type : FieldType}
    {given value : Value} (h : segment.Gives type given) (hvalue : value.HasType (.of type)) :
    compareValues segment.condition value given =
      .ok (value.agrees segment.condition segment.value) := by
  cases h with
  | text =>
    cases hvalue with
    | null => rfl
    | text actual => rfl
    | list h => cases h
  | number hnumber =>
    cases hvalue with
    | null => rfl
    | number actual => simp [compareValues, compareScalars, Value.agrees, hnumber]
    | list h => cases h
  | time htime =>
    cases hvalue with
    | null => rfl
    | time actual => simp [compareValues, compareScalars, Value.agrees, htime]
    | list h => cases h
  | textList hop =>
    cases hvalue with
    | null => rfl
    | list _ hitems => exact compareValues_list_agrees hop hitems

/-- A comparison that passes the check compares the field with what the segment gives. -/
theorem Segment.check_tree {segment : Segment} {ref : FieldRef} {cs : List Char}
    (href : CustomRule.factType.fieldFor? segment.subCriteria = some ref)
    (hliteral : segment.literal ref = .ok cs) :
    (∃ error, (segment.tree ref).check = .error error) ∨
      ∃ given, segment.Gives ref.type given ∧ (segment.tree ref).check =
        .ok (.compare segment.condition (.field ref) (.literal given), .of .bool) := by
  obtain ⟨htype, -, -⟩ := movement_refs_type ref (mem_refs_of_fieldFor? href)
  obtain htype | htype | htype | htype := htype
  · have hgiven : segment.given ref = .literal (.text segment.value) := by
      simp [given, operand, htype, FieldType.element]
    refine .inr ⟨.text segment.value, htype ▸ .text, ?_⟩
    simp [tree, hgiven, Condition.check, Condition.checkCompare, Condition.coerceTime, htype,
      ValueType.ofValue, ValueType.allows, FieldType.isList]
  · obtain ⟨value, hvalue⟩ : ∃ value, Decimal.plain? (Text.trim segment.value.toList) =
        some value := by
      cases hvalue : Decimal.plain? (Text.trim segment.value.toList) with
      | none => simp [literal, htype, FieldType.element, hvalue] at hliteral
      | some value => exact ⟨value, rfl⟩
    have hgiven : segment.given ref = .literal (.number value.toBinary64) := by
      simp [given, operand, htype, FieldType.element, hvalue]
    refine .inr ⟨.number value.toBinary64, htype ▸ .number hvalue, ?_⟩
    simp [tree, hgiven, Condition.check, Condition.checkCompare, Condition.coerceTime, htype,
      ValueType.ofValue, ValueType.allows, FieldType.isList]
  · have hgiven : segment.given ref = .literal (.text segment.value) := by
      simp [given, operand, htype, FieldType.element]
    cases hread : Timestamp.read segment.value with
    | error flaw =>
      refine .inl ⟨.notTimestamp segment.value flaw, ?_⟩
      simp [tree, hgiven, Condition.check, Condition.checkCompare, Condition.coerceTime, htype,
        hread]
    | ok instant =>
      refine .inr ⟨.time instant, htype ▸ .time hread, ?_⟩
      simp [tree, hgiven, Condition.check, Condition.checkCompare, Condition.coerceTime, htype,
        hread, ValueType.allows, FieldType.isList]
  · have hgiven : segment.given ref = .literal (.text segment.value) := by
      simp [given, operand, htype, FieldType.element]
    cases hop : segment.condition.isEquality with
    | false =>
      refine .inl ⟨.mismatch (.of .textList) segment.condition (.of .text), ?_⟩
      simp [tree, hgiven, Condition.check, Condition.checkCompare, Condition.coerceTime, htype,
        ValueType.ofValue, ValueType.allows, FieldType.isList, hop]
    | true =>
      refine .inr ⟨.text segment.value, htype ▸ .textList hop, ?_⟩
      simp [tree, hgiven, Condition.check, Condition.checkCompare, Condition.coerceTime, htype,
        ValueType.ofValue, ValueType.allows, FieldType.isList, FieldType.element, hop]

theorem Segment.tree_yields {segment : Segment} {ref : FieldRef} {cs : List Char}
    (href : CustomRule.factType.fieldFor? segment.subCriteria = some ref)
    (hliteral : segment.literal ref = .ok cs) (context : EvalContext) (movement : Movement) :
    (segment.tree ref).Yields context (.movement movement) (segment.holds movement) := by
  intro checked type hcheck
  obtain ⟨error, herror⟩ | ⟨given, hgiven, hchecked⟩ := segment.check_tree href hliteral
  · cases herror.symm.trans hcheck
  cases hchecked.symm.trans hcheck
  have hvalue := Movement.valueAt?_of_fieldFor? href movement
  obtain ⟨value, hread, htype⟩ := (Payload.movement movement).valueAt?_of_mem_refs
    (mem_refs_of_fieldFor? href)
  obtain rfl : _ = value := Option.some.inj (hvalue.symm.trans hread)
  refine ⟨rfl, ?_⟩
  simp [Condition.evaluate, hvalue, hgiven.compareValues_agrees htype, Segment.holds]

/-! ## Rows of comparisons -/

namespace Condition

variable {context : EvalContext} {fact : Payload} {tree : Condition} {trees : List Condition}
  {value rest : Bool}

/-- Operands that have the given value when they are joined by a connective. -/
structure OperandsYield (context : EvalContext) (fact : Payload) (connective : Connective)
    (trees : List Condition) (value : Bool) : Prop where
  ne_nil : trees ≠ []
  whole : (ofChain connective.connect trees).Yields context fact value
  operands : ∀ checked, checkOperands connective.operator trees = .ok checked →
    connective.holds context fact checked = .ok value

theorem checkOperands_cons_eq_ok {operator : String} {checked : List Condition} :
    checkOperands operator (tree :: trees) = .ok checked ↔
      ∃ first others, tree.check = .ok (first, .of .bool) ∧
        checkOperands operator trees = .ok others ∧ checked = first :: others := by
  simp only [checkOperands, bind_eq_ok, pure_eq_ok, Except.ok.injEq]
  constructor
  · rintro ⟨⟨first, found⟩, hfirst, u, hbool, others, hothers, rfl⟩
    obtain rfl := expectBool_eq_ok.1 hbool
    exact ⟨first, others, hfirst, hothers, rfl⟩
  · rintro ⟨first, others, hfirst, hothers, rfl⟩
    exact ⟨(first, _), hfirst, (), expectBool_eq_ok.2 rfl, others, hothers, rfl⟩

theorem ofChain_cons {connect : List Condition → Condition} (h : trees ≠ []) :
    ofChain connect (tree :: trees) = connect (tree :: trees) := by
  cases trees with
  | nil => exact absurd rfl h
  | cons second others => rfl

theorem yields_connect {connective : Connective}
    (h : ∀ checked, checkOperands connective.operator trees = .ok checked →
      connective.holds context fact checked = .ok value) :
    (connective.connect trees).Yields context fact value := by
  intro checked type hcheck
  obtain ⟨operands, hoperands, rfl, rfl⟩ := Connective.check_connect_eq_ok.1 hcheck
  exact ⟨rfl, by rw [Connective.evaluate_connect, h operands hoperands]; rfl⟩

theorem Yields.operandsYield (connective : Connective) (h : tree.Yields context fact value) :
    OperandsYield context fact connective [tree] value := by
  refine ⟨by simp, h, fun checked hchecked => ?_⟩
  obtain ⟨first, others, hfirst, hothers, rfl⟩ := checkOperands_cons_eq_ok.1 hchecked
  obtain ⟨-, hvalue⟩ := h first _ hfirst
  cases hothers
  rw [Connective.holds_cons hvalue, Connective.holds_nil]
  cases connective <;> cases value <;> rfl

theorem OperandsYield.cons {connective : Connective} (h : tree.Yields context fact value)
    (hothers : OperandsYield context fact connective trees rest) :
    OperandsYield context fact connective (tree :: trees) (connective.join value rest) := by
  have hoperands : ∀ checked, checkOperands connective.operator (tree :: trees) = .ok checked →
      connective.holds context fact checked = .ok (connective.join value rest) := by
    intro checked hchecked
    obtain ⟨first, others, hfirst, hrest, rfl⟩ := checkOperands_cons_eq_ok.1 hchecked
    obtain ⟨-, hvalue⟩ := h first _ hfirst
    rw [Connective.holds_cons hvalue, hothers.operands others hrest]
    cases connective <;> cases value <;> rfl
  refine ⟨by simp, ?_, hoperands⟩
  rw [ofChain_cons hothers.ne_nil]
  exact yields_connect hoperands

end Condition

/-- The tokens are read as a phrase that has the given value. -/
def MarkPhrase.Reads (context : EvalContext) (fact : Payload) (levels : Nat) (tokens : List Token)
    (value : Bool) : MarkPhrase → Prop
  | unit => ∃ tree, Derives .movement levels (.unary tree) tokens ∧ tree.Yields context fact value
  | conjunction => ∃ trees, Derives .movement levels (.conjuncts trees) tokens ∧
      Condition.OperandsYield context fact .and trees value
  | disjunction => ∃ trees, Derives .movement levels (.disjuncts trees) tokens ∧
      Condition.OperandsYield context fact .or trees value

theorem Segment.reads_tokens {segment : Segment} {cs : List Char} {levels : Nat}
    (h : segment.comparison = .ok cs) (context : EvalContext) (movement : Movement) :
    MarkPhrase.unit.Reads context (.movement movement) levels segment.tokens
      (segment.holds movement) := by
  obtain ⟨-, ref, literal, href, hliteral, -⟩ := comparison_eq_ok.1 h
  obtain ⟨-, hconstant, hfield⟩ := movement_refs_type ref (mem_refs_of_fieldFor? href)
  refine ⟨segment.tree ref, ?_, tree_yields href hliteral context movement⟩
  have hgiven : Derives .movement levels (.operand (segment.given ref)) [segment.operand ref] := by
    have hnotBool := (spellable_of_fieldFor? href).notBool
    obtain ⟨value, -, -, hoperand⟩ | ⟨-, hoperand⟩ := literal_eq_ok hnotBool hliteral
    · simpa [given, hoperand] using Derives.number value.toBinary64
    · simpa [given, hoperand] using Derives.text segment.value
  have hcompare : Derives .movement levels (.comparison (segment.tree ref))
      ([Token.word ref.name] ++ Token.compare segment.condition :: [segment.operand ref]) :=
    .compare (.field hconstant hfield) hgiven
  simpa [tokens, href] using Derives.comparison hcompare

/-- Marks are read as what they mean. -/
theorem Means.reads {levels : Nat} {phrase : MarkPhrase} {marks : List Mark} {value : Bool}
    {movement : Movement} (h : Means (Segment.holds movement) levels phrase marks value)
    (hcomparisons : ∀ segment, Mark.comparison segment ∈ marks → ∃ cs, segment.comparison = .ok cs)
    (context : EvalContext) :
    phrase.Reads context (.movement movement) levels (marks.flatMap Mark.tokens) value := by
  induction h with
  | comparison segment =>
    obtain ⟨cs, hcs⟩ := hcomparisons segment (by simp)
    simpa [Mark.tokens] using segment.reads_tokens hcs context movement
  | group h ih =>
    obtain ⟨trees, hderives, hyields⟩ :=
      ih fun segment hmem => hcomparisons segment (by simp [hmem])
    refine ⟨Condition.ofChain .or trees, ?_, hyields.whole⟩
    simpa [Mark.tokens] using Derives.comparison (.single (.parenthesized hderives))
  | single h ih =>
    obtain ⟨tree, hderives, hyields⟩ := ih hcomparisons
    exact ⟨[tree], .conjunct hderives, hyields.operandsYield .and⟩
  | and h hothers ih ihOthers =>
    obtain ⟨tree, hderives, hyields⟩ :=
      ih fun segment hmem => hcomparisons segment (by simp [hmem])
    obtain ⟨trees, hothersDerive, hothersYield⟩ :=
      ihOthers fun segment hmem => hcomparisons segment (by simp [hmem])
    refine ⟨tree :: trees, ?_, hothersYield.cons hyields⟩
    simpa [Mark.tokens] using Derives.and hderives hothersDerive
  | alternative h ih =>
    obtain ⟨trees, hderives, hyields⟩ := ih hcomparisons
    exact ⟨_, .disjunct hderives, hyields.whole.operandsYield .or⟩
  | or h hothers ih ihOthers =>
    obtain ⟨trees, hderives, hyields⟩ :=
      ih fun segment hmem => hcomparisons segment (by simp [hmem])
    obtain ⟨disjuncts, hothersDerive, hothersYield⟩ :=
      ihOthers fun segment hmem => hcomparisons segment (by simp [hmem])
    refine ⟨Condition.ofChain .and trees :: disjuncts, ?_, hothersYield.cons hyields.whole⟩
    simpa [Mark.tokens] using Derives.or hderives hothersDerive

/-! ## The condition of a rule -/

/-- The segments by ascending order, where those of equal order keep their places. -/
structure StablySorted (segments sorted : List Segment) : Prop where
  perm : sorted.Perm segments
  ascending : sorted.Pairwise fun a b => a.order ≤ b.order
  stable : ∀ order, sorted.filter (·.order == order) = segments.filter (·.order == order)

theorem CustomRule.sortedSegments_stablySorted (rule : CustomRule) :
    StablySorted rule.segments rule.sortedSegments :=
  ⟨rule.sortedSegments_sortedBy.perm, rule.sortedSegments_sortedBy.ascending,
    rule.sortedSegments_sortedBy.stable⟩

theorem Segment.comparison_of_mem_marks {segments : List Segment} {depth : Nat} {cs : List Char}
    (h : chars depth segments = .ok cs) :
    ∀ segment, Mark.comparison segment ∈ marks segments → ∃ cs, segment.comparison = .ok cs := by
  induction segments generalizing depth cs with
  | nil => simp [marks]
  | cons first others ih =>
    obtain ⟨opening, closing, comparison, joint, rest, -, -, -, hcomparison, -, -, hrest, -⟩ :=
      chars_cons_eq_ok.1 h
    intro segment hmem
    have hjoint : Mark.comparison segment ∉ first.joint others := by
      unfold Segment.joint
      split
      · simp
      · split <;> simp
    simp only [marks, List.mem_append, List.mem_cons, List.mem_replicate, hjoint,
      Mark.comparison.injEq, reduceCtorEq, and_false, false_or, or_false] at hmem
    obtain rfl | hothers := hmem
    · exact ⟨comparison, hcomparison⟩
    · exact ih hrest segment hothers

theorem Condition.checkBoolean_eq_ok {tree checked : Condition} :
    checkBoolean tree = .ok checked ↔ tree.check = .ok (checked, .of .bool) := by
  simp only [checkBoolean, bind_eq_ok]
  constructor
  · rintro ⟨⟨first, found⟩, hfirst, hbool⟩
    by_cases hfound : found = .of .bool
    · subst hfound
      simpa [hfirst] using hbool
    · simp [hfound] at hbool
  · exact fun h => ⟨_, h, by simp⟩

namespace CustomRule

variable {rule : CustomRule} {source : List Char}

/-- The segments of a rule that can be written mean something. -/
theorem segments_mean (h : rule.conditionChars = .ok source) (holds : Segment → Bool) :
    ∃ value, Means holds Condition.maxNesting .disjunction (Segment.marks rule.sortedSegments)
      value := by
  obtain ⟨hne, hchars⟩ := conditionChars_eq_ok.1 h
  simpa using Segment.marks_means hchars hne (ready_nil holds)

/-- Compiling the condition of a rule comes to checking a tree that has the value that the segments
mean. -/
theorem compile_of_means (h : rule.conditionChars = .ok source) {movement : Movement} {value : Bool}
    (hmeans : Means (Segment.holds movement) Condition.maxNesting .disjunction
      (Segment.marks rule.sortedSegments) value) (context : EvalContext) :
    ∃ tree, Condition.compile .movement source = (Condition.checkBoolean tree).mapError .type ∧
      tree.Yields context (.movement movement) value := by
  obtain ⟨-, hchars⟩ := conditionChars_eq_ok.1 h
  obtain ⟨trees, hderives, hyields⟩ :=
    hmeans.reads (Segment.comparison_of_mem_marks hchars) context
  have hscan : Token.scan source =
      .ok ((Segment.marks rule.sortedSegments).flatMap Mark.tokens) := Segment.scans_marks hchars 0
  have hread := Condition.ofTokens_eq_ok_iff.2 ⟨trees, rfl, hderives⟩
  refine ⟨Condition.ofChain .or trees, ?_, hyields.whole⟩
  rw [Condition.compile, hscan]
  simp [Except.mapError, hread]

/-- The condition that the segments of a rule are written as has no flaw but one of types. Where
it has none, it is true of a movement if and only if the segments mean so: sorted by their order,
they have one meaning, by which a conjunction binds tighter than a disjunction and markers
group. -/
theorem conditionChars_means (h : rule.conditionChars = .ok source) :
    ((∃ condition, Condition.compile .movement source = .ok condition) ∨
      ∃ error, Condition.compile .movement source = .error (.type error)) ∧
    ∃ sorted, StablySorted rule.segments sorted ∧
      ∀ condition, Condition.compile .movement source = .ok condition →
        ∀ movement, ∃ value,
          (∀ other, Means (Segment.holds movement) Condition.maxNesting .disjunction
            (Segment.marks sorted) other ↔ other = value) ∧
          ∀ context, condition.evaluate context (.movement movement) = .ok (.bool value) := by
  constructor
  · obtain ⟨value, hmeans⟩ := segments_mean h (Segment.holds {})
    obtain ⟨tree, hcompile, -⟩ := compile_of_means h hmeans ⟨.epoch, none⟩
    cases hcheck : Condition.checkBoolean tree with
    | ok condition => exact .inl ⟨condition, by rw [hcompile, hcheck]; rfl⟩
    | error error => exact .inr ⟨error, by rw [hcompile, hcheck]; rfl⟩
  refine ⟨rule.sortedSegments, rule.sortedSegments_stablySorted, ?_⟩
  intro condition hcondition movement
  have hevaluate : ∀ value, Means (Segment.holds movement) Condition.maxNesting .disjunction
      (Segment.marks rule.sortedSegments) value →
      ∀ context, condition.evaluate context (.movement movement) = .ok (.bool value) := by
    intro value hmeans context
    obtain ⟨tree, hcompile, hyields⟩ := compile_of_means h hmeans context
    have hchecked := mapError_eq_ok.1 (hcompile.symm.trans hcondition)
    exact (hyields condition _ (Condition.checkBoolean_eq_ok.1 hchecked)).2
  obtain ⟨value, hmeans⟩ := segments_mean h (Segment.holds movement)
  refine ⟨value, fun other => ⟨fun hother => ?_, fun heq => heq ▸ hmeans⟩, hevaluate value hmeans⟩
  have hsame := (hevaluate other hother ⟨.epoch, none⟩).symm.trans
    (hevaluate value hmeans ⟨.epoch, none⟩)
  simpa using hsame

/-- A quotation mark in a value, and a group over two segments that are out of order. -/
theorem conditionChars_means_grouped :
    let rule : CustomRule := {
      guid := "g"
      name := "n"
      segments := [
        { criteria := .position, subCriteria := .source, condition := .ne, value := "\"",
          endOperator := ")", logicOperator := .and, order := 2 },
        { criteria := .position, subCriteria := .altitude, condition := .gt, value := " 5 ",
          order := 3 },
        { startOperator := "(", criteria := .position, subCriteria := .source, condition := .eq,
          value := "a", logicOperator := .or, order := 1 }] }
    let source := "(source == \"a\" || source != \"\\\"\") && altitude > 5".toList
    let movement : Movement := { source := some "b", altitude := some (.ofMagnitude false 0) }
    rule.conditionChars = .ok source ∧
      ∃ condition sorted, Condition.compile .movement source = .ok condition ∧
        StablySorted rule.segments sorted ∧
        Means (Segment.holds movement) Condition.maxNesting .disjunction (Segment.marks sorted)
          false := by
  intro rule source movement
  have hchars : rule.conditionChars = .ok source := by cbv
  let condition : Condition := .and [
    .or [
      .compare .eq (.field ⟨24, "source", .text, some .source⟩) (.literal (.text "a")),
      .compare .ne (.field ⟨24, "source", .text, some .source⟩) (.literal (.text "\""))],
    .compare .gt (.field ⟨14, "altitude", .number, some .altitude⟩)
      (.literal (.number ⟨0x4014000000000000⟩))]
  have hscan : Token.scan source = .ok [.openParen, .word "source", .compare .eq, .text "a", .or,
      .word "source", .compare .ne, .text "\"", .closeParen, .and, .word "altitude", .compare .gt,
      .number ⟨0x4014000000000000⟩] := by
    simp only [source, String.reduceToList]
    decide +kernel
  have hcompile : Condition.compile .movement source = .ok condition := by
    rw [Condition.compile, hscan]
    cbv
  have hevaluate : condition.evaluate ⟨.epoch, none⟩ (.movement movement) =
      .ok (.bool false) := by cbv
  obtain ⟨-, sorted, hsorted, hmeaning⟩ := conditionChars_means hchars
  obtain ⟨value, hmeans, hvalue⟩ := hmeaning condition hcompile movement
  have hfalse : false = value := by simpa using hevaluate.symm.trans (hvalue ⟨.epoch, none⟩)
  exact ⟨hchars, condition, sorted, hcompile, hsorted, (hmeans false).2 hfalse⟩

end CustomRule

end FisheryRules
