import FisheryRules.Proofs.Condition.SegmentText
import FisheryRules.Proofs.Source.RuleText

/-!
# Definitions and their rows

What a definition of any category states when it is read on its own, and that a definition without
line breaks in its cells has a row that states the same.
-/
namespace FisheryRules

open Text

/-- Definition of a rule of any category. -/
inductive Definition
  | sanity (rule : SanityRule)
  | custom (rule : CustomRule)
  | business (rule : BusinessRule)
deriving DecidableEq

namespace Definition

/-- The name that a definition is reported under. -/
def label : Definition → String
  | sanity rule => rule.name
  | custom rule => rule.name
  | business rule => rule.brId

/-- The condition that a text states. -/
def conditionOf (factType : FactType) (source : List Char) : Except RuleFlaw Condition :=
  if source.isEmpty then .error .emptyCondition
  else (Condition.compile factType source).mapError .condition

/-- The rule that a definition states, or its flaw. -/
def verdict : Definition → Except RuleFlaw CompiledRule
  | sanity rule => do
    checkLines [("name", rule.name)]
    let condition ← conditionOf .rawMovement (fold rule.expression.toList)
    return {
      id := rule.name
      name := rule.name
      factType := .rawMovement
      condition
      effect := .alarm }
  | custom rule => do
    checkLines [("name", rule.name), ("guid", rule.guid), ("actions", rule.actionList)]
    let condition ← conditionOf .movement (← rule.conditionChars)
    if rule.guid.isEmpty then throw .noGuid
    return {
      id := rule.guid
      name := rule.name
      factType := .movement
      condition
      effect := .custom rule.guid rule.actionList }
  | business rule => do
    checkLines [("brId", rule.brId), ("message", rule.message), ("level", rule.level),
      ("propertyNames", rule.propertyNames.getD "")]
    let condition ← conditionOf rule.factType (fold rule.expression.toList)
    return {
      id := rule.brId
      name := rule.brId
      factType := rule.factType
      condition
      effect := .outcome rule.errorType rule.level rule.message (rule.propertyNames.getD "") }

/-- What becomes of a definition after rules with some ids were published. -/
def settle (published : List String) (definition : Definition) : Except FailedRule CompiledRule :=
  match definition.verdict with
  | .error flaw => .error (.ofFlaw definition.label flaw)
  | .ok rule =>
    if rule.id ∈ published then .error (.ofFlaw definition.label (.duplicateId rule.id))
    else .ok rule

end Definition

namespace Snapshot

/-- The definitions of a category. -/
def definitions : Snapshot → List Definition
  | sanity rules => rules.map .sanity
  | custom rules => rules.map .custom
  | business rules => rules.map .business

/-- The definitions in the order of their rows: business rules stand by the type of their facts. -/
def rowOrder : Snapshot → List Definition
  | sanity rules => rules.map .sanity
  | custom rules => rules.map .custom
  | business rules =>
    FactType.all.flatMap fun factType =>
      (rules.filter (·.factType == factType)).map .business

theorem length_definitions (snapshot : Snapshot) : snapshot.definitions.length = snapshot.size := by
  cases snapshot <;> simp [definitions, size]

/-- The rules on the types of facts, one type after the other, are all rules. -/
theorem flatMap_filter_perm (rules : List BusinessRule) :
    (FactType.all.flatMap fun factType => rules.filter (·.factType == factType)).Perm rules := by
  refine List.perm_iff_count.2 fun rule => ?_
  have hcount (factType : FactType) : (rules.filter (·.factType == factType)).count rule =
      if rule.factType = factType then rules.count rule else 0 := by
    split
    · exact List.count_filter (by simpa using ‹_›)
    · exact List.count_eq_zero.2 fun hmem => ‹¬ _› (by simpa using (List.mem_filter.1 hmem).2)
  cases hfact : rule.factType <;> simp [FactType.all, hcount, hfact]

/-- Every definition has one row. -/
theorem rowOrder_perm (snapshot : Snapshot) : snapshot.rowOrder.Perm snapshot.definitions := by
  cases snapshot with
  | business rules =>
    have hperm := (flatMap_filter_perm rules).map Definition.business
    rwa [List.map_flatMap] at hperm
  | _ => exact .refl _

end Snapshot

/-! ## Rows -/

theorem checkLines_eq_ok {columns : List (String × String)} {u : Unit} :
    checkLines columns = .ok u ↔ ∀ column ∈ columns, OneLine column.2.toList := by
  induction columns with
  | nil => simp [checkLines]
  | cons column others ih =>
    obtain ⟨name, cell⟩ := column
    by_cases hbreak : cell.toList.any isLineBreak
    · have hnot : ¬ OneLine cell.toList := by
        obtain ⟨c, hc, hcBreak⟩ := List.any_eq_true.1 hbreak
        intro hline
        simp [hline c hc] at hcBreak
      simp [checkLines, hbreak, hnot]
    · have hline : OneLine cell.toList := by
        intro c hc
        simpa using fun h => hbreak (List.any_eq_true.2 ⟨c, hc, h⟩)
      simp [checkLines, hbreak, hline, ih]

namespace Definition

/-- The cells of a definition. -/
def row : Definition → RowResult
  | sanity rule => rule.row
  | custom rule => rule.row
  | business rule => rule.row

def factType : Definition → FactType
  | sanity _ => .rawMovement
  | custom _ => .movement
  | business rule => rule.factType

/-- What the cells of a definition ask for. -/
def consequences : Definition → Row → List (List Char)
  | sanity _ => Bundled.sanityConsequences
  | custom _ => Bundled.customConsequences
  | business _ => Bundled.businessConsequences

/-- The rule of a source that a row stands for. -/
def unitOf (definition : Definition) (row : Row) : RuleText :=
  .ofCells (row.getD 0 []) definition.factType (row.getD 1 []) (definition.consequences row)

/-- The row can be written and reads as what the definition states. -/
structure RowSound (definition : Definition) (row : Row) : Prop where
  name : OneLine (row.getD 0 [])
  label : String.ofList (row.getD 0 []) = definition.label
  condition : Cell (row.getD 1 [])
  consequences : ∀ line ∈ definition.consequences row, RuleText.Consequential line
  verdict : CompiledRule.ofText (definition.unitOf row) = definition.verdict

/-- What is read from a written rule: its condition, and then its effect. -/
theorem ofText_written {name condition : List Char} {factType : FactType}
    {consequences : List (List Char)} (hcondition : Cell condition)
    (hconsequences : ∀ line ∈ consequences, RuleText.Consequential line) :
    CompiledRule.ofText (.ofCells name factType condition consequences) = do
      let compiled ← conditionOf factType condition
      let effect ← RuleEffect.ofLines consequences
      return {
        id := effect.ruleId (String.ofList name)
        name := String.ofList name
        factType
        condition := compiled
        effect } := by
  rw [RuleText.ofText_ofCells hcondition.trimmed hconsequences, conditionOf]
  split <;> rfl

theorem sanity_spec (rule : SanityRule) (hname : OneLine rule.name.toList) :
    (sanity rule).RowSound [rule.name.toList, fold rule.expression.toList] := by
  have hcheck : checkLines [("name", rule.name)] = .ok () :=
    checkLines_eq_ok.2 (by simpa using hname)
  have hconsequences : ∀ line ∈ ["alarm".toList], RuleText.Consequential line := by
    simpa only [List.forall_mem_singleton] using RuleText.consequential_alarm
  refine ⟨hname, String.ofList_toList, fold_cell _, hconsequences, ?_⟩
  refine (ofText_written (fold_cell _) hconsequences).trans ?_
  simp only [verdict, hcheck, factType, RuleEffect.ofLines_alarm, ok_bind, RuleEffect.ruleId,
    List.getD_cons_zero, String.ofList_toList]

theorem custom_spec (rule : CustomRule) {condition : List Char}
    (hname : OneLine rule.name.toList) (hguid : OneLine rule.guid.toList)
    (hactions : OneLine rule.actionList.toList) (hcondition : rule.conditionChars = .ok condition) :
    (custom rule).RowSound
      [rule.name.toList, condition, rule.actionChars, rule.guid.toList] := by
  have hcheck : checkLines [("name", rule.name), ("guid", rule.guid),
      ("actions", rule.actionList)] = .ok () :=
    checkLines_eq_ok.2 (by simpa using ⟨hname, hguid, hactions⟩)
  have hchars : OneLine rule.actionChars := by simpa [CustomRule.actionList] using hactions
  have hcell := (CustomRule.conditionChars_cell hcondition).1
  have hconsequences : ∀ line ∈ [EffectPart.guid.directive rule.guid.toList,
      EffectPart.actions.directive rule.actionChars], RuleText.Consequential line := by
    simp only [List.forall_mem_cons]
    exact ⟨RuleText.consequential_directive _ hguid, RuleText.consequential_directive _ hchars,
      List.forall_mem_nil _⟩
  refine ⟨hname, String.ofList_toList, hcell, hconsequences, ?_⟩
  refine (ofText_written hcell hconsequences).trans ?_
  have hlist : String.ofList rule.actionChars = rule.actionList := rfl
  simp only [verdict, hcheck, hcondition, factType, RuleEffect.ofLines_custom, ok_bind, hlist,
    List.getD_cons_zero, String.ofList_toList]
  cases hempty : rule.guid.toList.isEmpty with
  | true =>
    have hguidEmpty : rule.guid.isEmpty = true := by simpa using hempty
    simp [hguidEmpty]
  | false =>
    have hguidEmpty : rule.guid.isEmpty = false := by simpa using hempty
    simp [hguidEmpty, RuleEffect.ruleId]

theorem business_spec (rule : BusinessRule) (hlabel : OneLine rule.brId.toList)
    (hmessage : OneLine rule.message.toList) (hlevel : OneLine rule.level.toList)
    (hproperty : OneLine (rule.propertyNames.getD "").toList) :
    (business rule).RowSound [rule.brId.toList, fold rule.expression.toList, rule.message.toList,
      rule.errorType.code.toList, rule.level.toList, (rule.propertyNames.getD "").toList] := by
  have hcheck : checkLines [("brId", rule.brId), ("message", rule.message), ("level", rule.level),
      ("propertyNames", rule.propertyNames.getD "")] = .ok () :=
    checkLines_eq_ok.2 (by simpa using ⟨hlabel, hmessage, hlevel, hproperty⟩)
  have hseverity : OneLine rule.errorType.code.toList := by
    cases rule.errorType <;> simp only [Severity.code, String.reduceToList] <;> decide
  have hconsequences : ∀ line ∈ [EffectPart.errorType.directive rule.errorType.code.toList,
      EffectPart.level.directive rule.level.toList,
      EffectPart.message.directive rule.message.toList,
      EffectPart.fieldPath.directive (rule.propertyNames.getD "").toList],
      RuleText.Consequential line := by
    simp only [List.forall_mem_cons]
    exact ⟨RuleText.consequential_directive _ hseverity, RuleText.consequential_directive _ hlevel,
      RuleText.consequential_directive _ hmessage, RuleText.consequential_directive _ hproperty,
      List.forall_mem_nil _⟩
  refine ⟨hlabel, String.ofList_toList, fold_cell _, hconsequences, ?_⟩
  refine (ofText_written (fold_cell _) hconsequences).trans ?_
  simp only [verdict, hcheck, factType, RuleEffect.ofLines_outcome, ok_bind, RuleEffect.ruleId,
    List.getD_cons_zero, String.ofList_toList]

/-- A definition without a row has the flaw that keeps it from having one; otherwise its row says
all there is to know about it. -/
theorem row_spec (definition : Definition) :
    (∃ flaw, definition.verdict = .error flaw ∧
      definition.row = .error (.ofFlaw definition.label flaw)) ∨
    ∃ row, definition.row = .ok row ∧ definition.RowSound row := by
  cases definition with
  | sanity rule =>
    cases hcheck : checkLines [("name", rule.name)] with
    | error flaw =>
      exact .inl ⟨flaw, by simp [verdict, hcheck],
        by simp [row, SanityRule.row, hcheck, Except.mapError, label]⟩
    | ok u =>
      have hlines := checkLines_eq_ok.1 hcheck
      simp only [List.forall_mem_cons] at hlines
      exact .inr ⟨_, by simp [row, SanityRule.row, hcheck, Except.mapError],
        sanity_spec rule hlines.1⟩
  | custom rule =>
    cases hcheck : checkLines [("name", rule.name), ("guid", rule.guid),
        ("actions", rule.actionList)] with
    | error flaw =>
      exact .inl ⟨flaw, by simp [verdict, hcheck],
        by simp [row, CustomRule.row, hcheck, Except.mapError, label]⟩
    | ok u =>
      have hlines := checkLines_eq_ok.1 hcheck
      simp only [List.forall_mem_cons] at hlines
      cases hcondition : rule.conditionChars with
      | error flaw =>
        exact .inl ⟨flaw, by simp [verdict, hcheck, hcondition],
          by simp [row, CustomRule.row, hcheck, hcondition, Except.mapError, label]⟩
      | ok condition =>
        exact .inr ⟨_, by simp [row, CustomRule.row, hcheck, hcondition, Except.mapError],
          custom_spec rule hlines.1 hlines.2.1 hlines.2.2.1 hcondition⟩
  | business rule =>
    cases hcheck : checkLines [("brId", rule.brId), ("message", rule.message),
        ("level", rule.level), ("propertyNames", rule.propertyNames.getD "")] with
    | error flaw =>
      exact .inl ⟨flaw, by simp [verdict, hcheck],
        by simp [row, BusinessRule.row, hcheck, Except.mapError, label]⟩
    | ok u =>
      have hlines := checkLines_eq_ok.1 hcheck
      simp only [List.forall_mem_cons] at hlines
      exact .inr ⟨_, by simp [row, BusinessRule.row, hcheck, Except.mapError],
        business_spec rule hlines.1 hlines.2.1 hlines.2.2.1 hlines.2.2.2.1⟩

end Definition

end FisheryRules
