import FisheryRules.Proofs.Condition.Connective
import FisheryRules.Proofs.Condition.Grammar

/-!
# Type safety of conditions

A compiled condition has a type at every node, and evaluation follows the types: the only thing
that can go wrong on a fact of the right kind is a look-up in a code list.

`Value.HasType` and `Condition.HasType` are the judgments. `check` establishes the second on the
trees that the grammar derives, whose literals are scalars and whose fields belong to the table of
the fact type; evaluation turns it into the first.
-/
namespace FisheryRules

/-- The types of a value. An absent property has every type but `bool`, for no table has a
property of that type. -/
inductive Value.HasType : Value → ValueType → Prop
  | null {type} : type ≠ .of .bool → HasType .null type
  | text (value) : HasType (.text value) (.of .text)
  | number (value) : HasType (.number value) (.of .number)
  | bool (value) : HasType (.bool value) (.of .bool)
  | time (value) : HasType (.time value) (.of .time)
  | list {items} {type : FieldType} : type.isList →
      (∀ item ∈ items, HasType item (.of type.element)) → HasType (.list items) (.of type)

open Condition in
/-- The types of a checked tree. -/
inductive Condition.HasType (factType : FactType) : Condition → ValueType → Prop
  | literal {value type} : value.HasType type → HasType factType (literal value) type
  | field {ref} : ref ∈ factType.refs → HasType factType (field ref) (.of ref.type)
  | now : HasType factType now (.of .time)
  | inList {list value type} : HasType factType value type →
      HasType factType (inList list value) (.of .bool)
  | not {inner} : HasType factType inner (.of .bool) → HasType factType (not inner) (.of .bool)
  | and {operands} : (∀ operand ∈ operands, HasType factType operand (.of .bool)) →
      HasType factType (and operands) (.of .bool)
  | or {operands} : (∀ operand ∈ operands, HasType factType operand (.of .bool)) →
      HasType factType (or operands) (.of .bool)
  | compare {op left right leftType rightType} : HasType factType left leftType →
      HasType factType right rightType → leftType.allows op rightType →
      HasType factType (compare op left right) (.of .bool)

/-! ## The tables -/

theorem FactType.field?_mem_refs {factType : FactType} {name : String} {ref : FieldRef}
    (h : factType.field? name = some ref) : ref ∈ factType.refs := by
  have hfind : ∀ {α : Type} {fields : List (Field α)}, Field.find? fields name = some ref →
      ref ∈ Field.refs fields := by
    intro α fields h
    obtain h | ⟨-, h⟩ := Option.or_eq_some_iff.1 h <;> exact List.mem_of_find?_eq_some h
  cases factType <;> exact hfind h

/-- Every property reads as a value of its type. -/
def Field.Sound {α : Type} (field : Field α) : Prop :=
  ∀ fact, (field.read fact).HasType (.of field.type)

theorem Value.ofText_hasType (value : Option String) : (ofText value).HasType (.of .text) := by
  cases value <;> constructor; simp

theorem Value.ofNumber_hasType (value : Option Binary64) :
    (ofNumber value).HasType (.of .number) := by
  cases value <;> constructor; simp

theorem Value.ofTime_hasType (value : Option Instant) : (ofTime value).HasType (.of .time) := by
  cases value <;> constructor; simp

theorem Value.ofTexts_hasType (values : List String) :
    (ofTexts values).HasType (.of .textList) := by
  refine .list rfl fun item hitem => ?_
  obtain ⟨value, -, rfl⟩ := List.mem_map.1 hitem
  exact .text value

theorem RawMovement.fields_sound : ∀ field ∈ RawMovement.fields, field.Sound := by
  simp [RawMovement.fields, Field.Sound, Value.ofText_hasType, Value.ofNumber_hasType,
    Value.ofTime_hasType]

theorem Movement.fields_sound : ∀ field ∈ Movement.fields, field.Sound := by
  simp [Movement.fields, Field.Sound, Value.ofText_hasType, Value.ofNumber_hasType,
    Value.ofTime_hasType, Value.ofTexts_hasType]

theorem FishingActivity.fields_sound : ∀ field ∈ FishingActivity.fields, field.Sound := by
  simp [FishingActivity.fields, Field.Sound, Value.ofText_hasType, Value.ofNumber_hasType,
    Value.ofTime_hasType, Value.ofTexts_hasType]

theorem SalesPrice.fields_sound : ∀ field ∈ SalesPrice.fields, field.Sound := by
  have hvalues (sale : SalesPrice) :
      (Value.list (sale.chargeAmounts.map (.number ·.value))).HasType (.of .numberList) := by
    refine .list rfl fun item hitem => ?_
    obtain ⟨amount, -, rfl⟩ := List.mem_map.1 hitem
    exact .number _
  have hcurrencies (sale : SalesPrice) :
      (Value.list (sale.chargeAmounts.map (.ofText ·.currency))).HasType (.of .textList) := by
    refine .list rfl fun item hitem => ?_
    obtain ⟨amount, -, rfl⟩ := List.mem_map.1 hitem
    exact Value.ofText_hasType _
  simp [SalesPrice.fields, Field.Sound, hvalues, hcurrencies]

/-- A reference into a table of sound properties reads as a value of its type. -/
theorem Field.valueAt?_of_mem_refs {α : Type} {fields : List (Field α)} {ref : FieldRef}
    (hsound : ∀ field ∈ fields, field.Sound) (h : ref ∈ Field.refs fields) (fact : α) :
    ∃ value, Field.valueAt? fields fact ref.index = some value ∧ value.HasType (.of ref.type) := by
  obtain ⟨i, hi, rfl⟩ := List.mem_mapIdx.1 h
  exact ⟨_, by simp [Field.valueAt?, hi], hsound _ (List.getElem_mem hi) fact⟩

theorem Payload.valueAt?_of_mem_refs (fact : Payload) {ref : FieldRef}
    (h : ref ∈ fact.factType.refs) :
    ∃ value, fact.valueAt? ref.index = some value ∧ value.HasType (.of ref.type) := by
  cases fact with
  | rawMovement fact => exact Field.valueAt?_of_mem_refs RawMovement.fields_sound h fact
  | movement fact => exact Field.valueAt?_of_mem_refs Movement.fields_sound h fact
  | salesPrice fact => exact Field.valueAt?_of_mem_refs SalesPrice.fields_sound h fact
  | fishingActivity fact => exact Field.valueAt?_of_mem_refs FishingActivity.fields_sound h fact

/-! ## Checked trees are typed -/

namespace Condition

variable {factType : FactType} {tree : Condition} {trees : List Condition} {type : ValueType}

/-- Whenever the check accepts the tree, what it gives has the type that it finds. -/
def ChecksSound (factType : FactType) (tree : Condition) : Prop :=
  ∀ ⦃checked type⦄, check tree = .ok (checked, type) → HasType factType checked type

theorem expectBool_eq_ok {operator : String} {u : Unit} :
    expectBool operator type = .ok u ↔ type = .of .bool := by
  by_cases h : type = .of .bool <;> simp [expectBool, h]

/-- A literal that is read as a timestamp is one of type `time`; any other tree stays. -/
theorem coerceTime_getD_hasType {other : ValueType} {coerced : Option Condition}
    (h : HasType factType tree type) (hcoerce : coerceTime tree other = .ok coerced) :
    HasType factType ((coerced.map fun tree => (tree, ValueType.of .time)).getD (tree, type)).1
      ((coerced.map fun tree => (tree, ValueType.of .time)).getD (tree, type)).2 := by
  unfold coerceTime at hcoerce
  split at hcoerce
  · split at hcoerce
    · split at hcoerce <;> cases hcoerce
      exact .literal (.time _)
    · cases hcoerce
      exact h
  · cases hcoerce
    exact h

theorem checkCompare_hasType {op : CompareOp} {left right : Condition × ValueType}
    {checked : Condition} (hleft : HasType factType left.1 left.2)
    (hright : HasType factType right.1 right.2)
    (h : checkCompare op left right = .ok checked) : HasType factType checked (.of .bool) := by
  simp only [checkCompare, bind_eq_ok] at h
  obtain ⟨left', hl, right', hr, h⟩ := h
  split at h
  · rename_i hallows
    cases h
    exact .compare (coerceTime_getD_hasType hleft hl) (coerceTime_getD_hasType hright hr) hallows
  · cases h

theorem checkOperands_hasType {operator : String} {checked : List Condition}
    (h : ∀ tree ∈ trees, ChecksSound factType tree)
    (hcheck : checkOperands operator trees = .ok checked) :
    ∀ tree ∈ checked, HasType factType tree (.of .bool) := by
  induction trees generalizing checked with
  | nil =>
    cases hcheck
    simp
  | cons first others ih =>
    simp only [checkOperands, bind_eq_ok, expectBool_eq_ok] at hcheck
    obtain ⟨⟨tree, found⟩, hfirst, -, hbool, rest, hrest, done⟩ := hcheck
    cases done
    obtain ⟨hhead, htail⟩ := List.forall_mem_cons.1 h
    exact List.forall_mem_cons.2 ⟨hbool ▸ hhead hfirst, ih htail hrest⟩

theorem HasType.connect {connective : Connective}
    (h : ∀ tree ∈ trees, HasType factType tree (.of .bool)) :
    HasType factType (connective.connect trees) (.of .bool) := by
  cases connective with
  | and => exact .and h
  | or => exact .or h

theorem checksSound_ofChain (connective : Connective)
    (h : ∀ tree ∈ trees, ChecksSound factType tree) :
    ChecksSound factType (ofChain connective.connect trees) := by
  unfold ofChain
  split
  · exact h _ (by simp)
  · intro checked type hcheck
    obtain ⟨operands, hoperands, rfl, rfl⟩ := Connective.check_connect_eq_ok.1 hcheck
    exact .connect (checkOperands_hasType h hoperands)

end Condition

/-- The trees that a phrase stands for. -/
def Phrase.trees : Phrase → List Condition
  | operand tree | comparison tree | unary tree => [tree]
  | conjuncts trees | disjuncts trees => trees

open Condition in
theorem Derives.checksSound {factType : FactType} {levels : Nat} {phrase : Phrase}
    {tokens : List Token} (h : Derives factType levels phrase tokens) :
    ∀ tree ∈ phrase.trees, ChecksSound factType tree := by
  induction h with
  | null | true | false | text | number =>
    simp only [Phrase.trees, List.mem_singleton, forall_eq]
    intro checked type hcheck
    cases hcheck
    exact .literal (by constructor; try simp [ValueType.ofValue])
  | field _ href =>
    simp only [Phrase.trees, List.mem_singleton, forall_eq]
    intro checked type hcheck
    cases hcheck
    exact .field (FactType.field?_mem_refs href)
  | now =>
    simp only [Phrase.trees, List.mem_singleton, forall_eq]
    intro checked type hcheck
    cases hcheck
    exact .now
  | inList _ ih =>
    simp only [Phrase.trees, List.mem_singleton, forall_eq]
    intro checked type hcheck
    simp only [check, bind_eq_ok] at hcheck
    obtain ⟨⟨value, found⟩, hvalue, hfound⟩ := hcheck
    split at hfound
    · cases hfound
      exact .inList (checksSound_ofChain .or ih hvalue)
    · cases hfound
  | parenthesized _ ih =>
    simp only [Phrase.trees, List.mem_singleton, forall_eq]
    exact checksSound_ofChain .or ih
  | single _ ih | comparison _ ih | conjunct _ ih => exact ih
  | compare _ _ ihl ihr =>
    simp only [Phrase.trees, List.mem_singleton, forall_eq] at ihl ihr ⊢
    intro checked type hcheck
    simp only [check, bind_eq_ok] at hcheck
    obtain ⟨left, hleft, right, hright, compared, hcompare, done⟩ := hcheck
    cases done
    exact checkCompare_hasType (ihl hleft) (ihr hright) hcompare
  | not _ ih =>
    simp only [Phrase.trees, List.mem_singleton, forall_eq] at ih ⊢
    intro checked type hcheck
    simp only [check, bind_eq_ok, expectBool_eq_ok] at hcheck
    obtain ⟨⟨inner, found⟩, hinner, -, hbool, done⟩ := hcheck
    cases done
    exact .not (hbool ▸ ih hinner)
  | and _ _ ih ihs => exact List.forall_mem_cons.2 ⟨ih _ (by simp [Phrase.trees]), ihs⟩
  | disjunct _ ih =>
    simp only [Phrase.trees, List.mem_singleton, forall_eq]
    exact checksSound_ofChain .and ih
  | or _ _ ih ihs => exact List.forall_mem_cons.2 ⟨checksSound_ofChain .and ih, ihs⟩

theorem Condition.compile_hasType {factType : FactType} {source : List Char}
    {condition : Condition} (h : Condition.compile factType source = .ok condition) :
    HasType factType condition (.of .bool) := by
  simp only [Condition.compile, bind_eq_ok, mapError_eq_ok] at h
  obtain ⟨tokens, -, tree, hparse, hcheck⟩ := h
  obtain ⟨trees, rfl, hderives⟩ := ofTokens_eq_ok_iff.1 hparse
  simp only [checkBoolean, bind_eq_ok] at hcheck
  obtain ⟨⟨checked, found⟩, hcheck, hfound⟩ := hcheck
  split at hfound
  · rename_i hbool
    cases hfound
    exact hbool ▸ checksSound_ofChain .or hderives.checksSound hcheck
  · cases hfound

/-! ## Typed comparisons succeed -/

section

variable {op : CompareOp} {left right : Value} {type : FieldType}

/-- Two values of one scalar type, or `null` in the place of either, can be compared. -/
theorem compareScalars_succeeds (htype : ¬ type.isList) (hop : type = .bool → op.isEquality)
    (hleft : left.HasType (.of type)) (hright : right.HasType (.of type)) :
    ∃ result, compareScalars op left right = .ok result := by
  cases hleft with
  | list h => exact absurd h htype
  | bool value =>
    cases hright with
    | null h => exact absurd rfl h
    | list h => exact absurd h htype
    | bool other => exact ⟨_, if_pos (hop rfl)⟩
  | _ =>
    cases hright with
    | list h => exact absurd h htype
    | _ => exact ⟨_, rfl⟩

/-- Values of one scalar type are compared for equality as scalars. -/
theorem equalsValue_of_hasType (htype : ¬ type.isList) (hleft : left.HasType (.of type))
    (hright : right.HasType (.of type)) :
    equalsValue right left = compareScalars .eq left right := by
  cases hleft with
  | list h => exact absurd h htype
  | _ =>
    cases hright with
    | list h => exact absurd h htype
    | _ => rfl

theorem anyEqualsValue_succeeds {items : List Value} (htype : ¬ type.isList)
    (hright : right.HasType (.of type)) (hitems : ∀ item ∈ items, item.HasType (.of type)) :
    ∃ result, anyEqualsValue right items = .ok result := by
  induction items with
  | nil => exact ⟨false, rfl⟩
  | cons item others ih =>
    obtain ⟨hitem, hothers⟩ := List.forall_mem_cons.1 hitems
    obtain ⟨equal, hequal⟩ : ∃ equal, compareScalars .eq item right = .ok equal :=
      compareScalars_succeeds htype (fun _ => rfl) hitem hright
    rw [anyEqualsValue, equalsValue_of_hasType htype hitem hright, hequal]
    cases equal with
    | true => exact ⟨true, rfl⟩
    | false => exact ih hothers

/-- Values of one scalar type are compared for equality as scalars. -/
theorem equalsScalar_of_hasType (htype : ¬ type.isList) (hleft : left.HasType (.of type))
    (hright : right.HasType (.of type)) :
    equalsScalar left right = compareScalars .eq right left := by
  cases hright with
  | list h => exact absurd h htype
  | _ => rfl

theorem anyEqualsScalar_succeeds {items : List Value} (htype : ¬ type.isList)
    (hleft : left.HasType (.of type)) (hitems : ∀ item ∈ items, item.HasType (.of type)) :
    ∃ result, anyEqualsScalar left items = .ok result := by
  induction items with
  | nil => exact ⟨false, rfl⟩
  | cons item others ih =>
    obtain ⟨hitem, hothers⟩ := List.forall_mem_cons.1 hitems
    obtain ⟨equal, hequal⟩ : ∃ equal, compareScalars .eq item left = .ok equal :=
      compareScalars_succeeds htype (fun _ => rfl) hitem hleft
    rw [anyEqualsScalar, equalsScalar_of_hasType htype hleft hitem, hequal]
    cases equal with
    | true => exact ⟨true, rfl⟩
    | false => exact ih hothers

theorem FieldType.not_isList_element (type : FieldType) : ¬ type.element.isList := by
  cases type <;> simp [element, isList]

/-- A list can be compared for equality with a value of the type of its items, on either side. -/
theorem compareValues_list_succeeds {items : List Value} (hop : op.isEquality)
    (htype : ¬ type.isList) (hitems : ∀ item ∈ items, item.HasType (.of type))
    (hscalar : right.HasType (.of type)) :
    (∃ result, compareValues op (.list items) right = .ok result) ∧
      ∃ result, compareValues op right (.list items) = .ok result := by
  obtain ⟨leftEqual, hleftEqual⟩ := anyEqualsValue_succeeds htype hscalar hitems
  obtain ⟨rightEqual, hrightEqual⟩ := anyEqualsScalar_succeeds htype hscalar hitems
  cases hscalar with
  | list h => exact absurd h htype
  | null => exact ⟨⟨_, rfl⟩, _, rfl⟩
  | _ =>
    constructor
    · simp [compareValues, equalsValue, hop, hleftEqual, Value.isNull, Except.map]
    · simp [compareValues, equalsValue, hop, hrightEqual, Value.isNull, Except.map]

theorem compareValues_null_left (op : CompareOp) (right : Value) :
    ∃ result, compareValues op .null right = .ok result := ⟨_, rfl⟩

theorem compareValues_null_right (op : CompareOp) (left : Value) :
    ∃ result, compareValues op left .null = .ok result := by
  cases left <;> exact ⟨_, rfl⟩

/-- Two values of one scalar type can be compared. -/
theorem compareValues_scalar_succeeds (htype : ¬ type.isList) (hop : type = .bool → op.isEquality)
    (hleft : left.HasType (.of type)) (hright : right.HasType (.of type)) :
    ∃ result, compareValues op left right = .ok result := by
  have hscalars := compareScalars_succeeds htype hop hleft hright
  cases hleft with
  | null => exact compareValues_null_left op right
  | list h => exact absurd h htype
  | _ =>
    cases hright with
    | null => exact compareValues_null_right op _
    | list h => exact absurd h htype
    | _ => exact hscalars

/-- A comparison that the types allow succeeds. -/
theorem compareValues_succeeds {leftType rightType : ValueType}
    (hallows : leftType.allows op rightType) (hleft : left.HasType leftType)
    (hright : right.HasType rightType) : ∃ result, compareValues op left right = .ok result := by
  cases leftType with
  | null =>
    cases hleft
    exact compareValues_null_left op right
  | of leftType =>
    cases rightType with
    | null =>
      cases hright
      exact compareValues_null_right op left
    | of rightType =>
      by_cases hl : leftType.isList
      · simp only [ValueType.allows, if_pos hl, Bool.and_eq_true, beq_iff_eq] at hallows
        obtain ⟨⟨hop, -⟩, rfl⟩ := hallows
        cases hleft with
        | null => exact compareValues_null_left op right
        | list _ hitems =>
          exact (compareValues_list_succeeds hop (FieldType.not_isList_element _) hitems hright).1
        | _ => cases hl
      by_cases hr : rightType.isList
      · simp only [ValueType.allows, if_neg hl, if_pos hr, Bool.and_eq_true, beq_iff_eq] at hallows
        obtain ⟨hop, rfl⟩ := hallows
        cases hright with
        | null => exact compareValues_null_right op left
        | list _ hitems =>
          exact (compareValues_list_succeeds hop (FieldType.not_isList_element _) hitems hleft).2
        | _ => cases hr
      obtain ⟨rfl, hop⟩ : leftType = rightType ∧ (leftType = .bool → op.isEquality) := by
        by_cases hb : leftType = .bool <;> simp_all [ValueType.allows]
      exact compareValues_scalar_succeeds hl hop hleft hright

end

/-! ## Typed conditions evaluate -/

/-- A tree is another one or a part of it. -/
inductive Condition.Contains (part : Condition) : Condition → Prop
  | self : Contains part part
  | inList {list value} : Contains part value → Contains part (.inList list value)
  | not {inner} : Contains part inner → Contains part (.not inner)
  | and {operands operand} : operand ∈ operands → Contains part operand →
      Contains part (.and operands)
  | or {operands operand} : operand ∈ operands → Contains part operand →
      Contains part (.or operands)
  | left {op left right} : Contains part left → Contains part (.compare op left right)
  | right {op left right} : Contains part right → Contains part (.compare op left right)

namespace Condition

variable {context : EvalContext} {fact : Payload} {factType : FactType}

/-- The error is that of a look-up in the tree: the value that is looked up is there, and either
there is no look-up service, or the service itself failed on the value. -/
def LookupFails (context : EvalContext) (fact : Payload) (tree : Condition) (error : EvalError) :
    Prop :=
  ∃ list argument value, Contains (.inList list argument) tree ∧
    argument.evaluate context fact = .ok value ∧ value.isNull = false ∧
    ((context.lookup = none ∧ error = .noLookup) ∨
      ∃ lookup reason, context.lookup = some lookup ∧
        lookup list value.toText = .error reason ∧ error = .lookupFailed reason)

theorem LookupFails.of_part {part tree : Condition} {error : EvalError}
    (hpart : ∀ sub, Contains sub part → Contains sub tree)
    (h : LookupFails context fact part error) : LookupFails context fact tree error := by
  obtain ⟨list, argument, value, hcontains, h⟩ := h
  exact ⟨list, argument, value, hpart _ hcontains, h⟩

/-- The tree has a value of its type, or one of its look-ups fails. -/
def Evaluates (context : EvalContext) (fact : Payload) (tree : Condition) (type : ValueType) :
    Prop :=
  (∃ value, tree.evaluate context fact = .ok value ∧ value.HasType type) ∨
    ∃ error, tree.evaluate context fact = .error error ∧ LookupFails context fact tree error

/-- A tree of type `bool` is `true` or `false`, or one of its look-ups fails. -/
theorem Evaluates.holds {tree : Condition} (h : Evaluates context fact tree (.of .bool)) :
    (∃ value, tree.evaluate context fact = .ok (.bool value)) ∨
      ∃ error, tree.evaluate context fact = .error error ∧
        LookupFails context fact tree error := by
  obtain ⟨value, hvalue, htype⟩ | h := h
  · cases htype with
    | null h => exact absurd rfl h
    | bool value => exact .inl ⟨value, hvalue⟩
    | list h => cases h
  · exact .inr h

theorem connective_evaluates (connective : Connective) {operands : List Condition}
    (h : ∀ operand ∈ operands, Evaluates context fact operand (.of .bool)) :
    (∃ value, connective.holds context fact operands = .ok value) ∨
      ∃ error, connective.holds context fact operands = .error error ∧
        ∃ operand ∈ operands, LookupFails context fact operand error := by
  induction operands with
  | nil => exact .inl ⟨_, Connective.holds_nil⟩
  | cons first others ih =>
    obtain ⟨hfirst, hothers⟩ := List.forall_mem_cons.1 h
    obtain ⟨value, hvalue⟩ | ⟨error, herror, hfails⟩ := hfirst.holds
    · rw [Connective.holds_cons hvalue]
      by_cases hdecisive : value = connective.decisive
      · exact .inl ⟨value, if_pos hdecisive⟩
      · rw [if_neg hdecisive]
        obtain hok | ⟨error, herror, operand, hmem, hfails⟩ := ih hothers
        · exact .inl hok
        · exact .inr ⟨error, herror, operand, List.mem_cons_of_mem _ hmem, hfails⟩
    · exact .inr ⟨error, Connective.holds_cons_error herror, first, List.mem_cons_self, hfails⟩

theorem Contains.connect {connective : Connective} {operands : List Condition}
    {part operand : Condition} (hmem : operand ∈ operands) (h : Contains part operand) :
    Contains part (connective.connect operands) := by
  cases connective with
  | and => exact .and hmem h
  | or => exact .or hmem h

/-- Operands that evaluate do so joined. -/
theorem evaluates_connect (connective : Connective) {operands : List Condition}
    (h : ∀ operand ∈ operands, Evaluates context fact operand (.of .bool)) :
    Evaluates context fact (connective.connect operands) (.of .bool) := by
  obtain ⟨value, hvalue⟩ | ⟨error, herror, operand, hmem, hfails⟩ :=
    connective_evaluates connective h
  · exact .inl ⟨.bool value, by rw [Connective.evaluate_connect, hvalue]; rfl, .bool value⟩
  · exact .inr ⟨error, by rw [Connective.evaluate_connect, herror]; rfl,
      hfails.of_part fun _ => .connect hmem⟩

/-- What a look-up gives when its argument has a value. -/
theorem evaluate_inList {list : String} {argument : Condition} {value : Value}
    (h : argument.evaluate context fact = .ok value) :
    Evaluates context fact (inList list argument) (.of .bool) := by
  have hlookup (hvalue : value.isNull = false) {error : EvalError}
      (hcause : (context.lookup = none ∧ error = .noLookup) ∨
        ∃ lookup reason, context.lookup = some lookup ∧
          lookup list value.toText = .error reason ∧ error = .lookupFailed reason) :
      LookupFails context fact (inList list argument) error :=
    ⟨list, argument, value, .self, h, hvalue, hcause⟩
  cases hvalue : value.isNull with
  | true => exact .inl ⟨.bool false, by simp [evaluate, h, hvalue], .bool _⟩
  | false =>
    cases hservice : context.lookup with
    | none =>
      refine .inr ⟨.noLookup, ?_, hlookup hvalue (.inl ⟨hservice, rfl⟩)⟩
      simp only [evaluate, h, ok_bind, hvalue, hservice]
      rfl
    | some lookup =>
      cases hpresent : lookup list value.toText with
      | ok present =>
        refine .inl ⟨.bool present, ?_, .bool _⟩
        simp only [evaluate, h, ok_bind, hvalue, hservice, hpresent]
        rfl
      | error reason =>
        refine .inr ⟨.lookupFailed reason, ?_,
          hlookup hvalue (.inr ⟨lookup, reason, hservice, hpresent, rfl⟩)⟩
        simp only [evaluate, h, ok_bind, hvalue, hservice, hpresent]
        rfl

/-- A typed tree has a value of its type on every fact of the right kind, or one of its look-ups
fails. -/
theorem HasType.evaluates {tree : Condition} {type : ValueType} (h : HasType factType tree type)
    (hfact : fact.factType = factType) : Evaluates context fact tree type := by
  subst hfact
  induction h with
  | literal h => exact .inl ⟨_, rfl, h⟩
  | field h =>
    obtain ⟨value, hvalue, htype⟩ := fact.valueAt?_of_mem_refs h
    exact .inl ⟨value, by simp [evaluate, hvalue], htype⟩
  | now => exact .inl ⟨_, rfl, .time _⟩
  | inList _ ih =>
    obtain ⟨value, hvalue, -⟩ | ⟨error, herror, hfails⟩ := ih
    · exact evaluate_inList hvalue
    · exact .inr ⟨error, by simp [evaluate, herror], hfails.of_part fun _ => .inList⟩
  | not _ ih =>
    obtain ⟨value, hvalue⟩ | ⟨error, herror, hfails⟩ := ih.holds
    · exact .inl ⟨.bool !value, by simp [evaluate, hvalue, Value.holds], .bool _⟩
    · exact .inr ⟨error, by simp [evaluate, herror], hfails.of_part fun _ => .not⟩
  | and _ ih => exact evaluates_connect .and ih
  | or _ ih => exact evaluates_connect .or ih
  | compare _ _ hallows ihl ihr =>
    obtain ⟨left, hleft, hleftType⟩ | ⟨error, herror, hfails⟩ := ihl
    · obtain ⟨right, hright, hrightType⟩ | ⟨error, herror, hfails⟩ := ihr
      · obtain ⟨result, hresult⟩ := compareValues_succeeds hallows hleftType hrightType
        exact .inl ⟨_, by simp [evaluate, hleft, hright, hresult],
          .bool result⟩
      · exact .inr ⟨error, by simp [evaluate, hleft, herror], hfails.of_part fun _ => .right⟩
    · exact .inr ⟨error, by simp [evaluate, herror], hfails.of_part fun _ => .left⟩

/-- A compiled condition is `true` or `false` on every fact of its type, or a look-up in it fails:
without a look-up service, or because the service itself does. A condition without look-ups is
always `true` or `false`. -/
theorem compile_evaluates {source : List Char} {condition : Condition}
    (h : Condition.compile factType source = .ok condition) (context : EvalContext)
    (fact : Payload) (hfact : fact.factType = factType) :
    ((∃ value, condition.evaluate context fact = .ok (.bool value) ∧
        condition.test context fact = .ok value) ∨
      ∃ error, condition.evaluate context fact = .error error ∧
        condition.test context fact = .error error ∧
        LookupFails context fact condition error) ∧
    ((∀ list argument, ¬ Contains (.inList list argument) condition) →
      ∃ value, condition.evaluate context fact = .ok (.bool value) ∧
        condition.test context fact = .ok value) := by
  have hevaluates : Evaluates context fact condition (.of .bool) :=
    (compile_hasType h).evaluates hfact
  obtain ⟨value, hvalue⟩ | ⟨error, herror, hfails⟩ := hevaluates.holds
  · have hboth : condition.evaluate context fact = .ok (.bool value) ∧
        condition.test context fact = .ok value := ⟨hvalue, by simp [test, hvalue, Value.holds]⟩
    exact ⟨.inl ⟨value, hboth⟩, fun _ => ⟨value, hboth⟩⟩
  · refine ⟨.inr ⟨error, herror, by simp [test, herror], hfails⟩, fun hnone => ?_⟩
    obtain ⟨list, argument, -, hcontains, -⟩ := hfails
    exact absurd hcontains (hnone list argument)

/-- Without a look-up service it is the look-up that fails, here on a vessel from Sweden. -/
theorem compile_evaluates_without_service :
    let condition := or [
      compare .ne (field ⟨6, "flagState", .text, some .flagState⟩) (literal (.text "SWE")),
      inList "G" (field ⟨7, "gearType", .text, some .assetIdGearType⟩)]
    let fact := Payload.movement { flagState := some "SWE", gearType := some "OTB" }
    Condition.compile .movement "flagState!=\"SWE\"||isPresentInList(\"G\",gearType)".toList =
        .ok condition ∧
      ∃ error, condition.test ⟨.epoch, none⟩ fact = .error error ∧
        LookupFails ⟨.epoch, none⟩ fact condition error := by
  intro condition fact
  have hscan : Token.scan "flagState!=\"SWE\"||isPresentInList(\"G\",gearType)".toList =
      .ok [.word "flagState", .compare .ne, .text "SWE", .or, .word "isPresentInList", .openParen,
        .text "G", .comma, .word "gearType", .closeParen] := by
    simp only [String.reduceToList]
    decide +kernel
  have hcompile : Condition.compile .movement
      "flagState!=\"SWE\"||isPresentInList(\"G\",gearType)".toList = .ok condition := by
    rw [Condition.compile, hscan]
    cbv
  obtain ⟨⟨value, -, hvalue⟩ | ⟨error, -, herror⟩, -⟩ :=
    compile_evaluates hcompile ⟨.epoch, none⟩ fact rfl
  · cases hvalue
  · exact ⟨hcompile, error, herror⟩

end Condition

end FisheryRules
