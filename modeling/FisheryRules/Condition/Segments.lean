import FisheryRules.RuleSet.Flaw
import FisheryRules.Text.Quoted

/-!
# Conditions of custom rules

The segments of a custom rule, in their order, are written as a condition on movements. A segment
compares the property of its sub-criteria with its value; its markers open groups before the
comparison and close groups after it.

## Main definitions

* `Segment.comparison` — the comparison of one segment.
* `CustomRule.conditionChars` — the condition of a rule.
-/
namespace FisheryRules

/-- Type of the facts that custom rules are evaluated on. -/
def CustomRule.factType : FactType := .movement

namespace Segment

/-- The number of groups that a marker opens or closes. Blanks around it do not count. -/
def groups (marker : String) (bracket : Char) : Except RuleFlaw Nat :=
  let cs := Text.trim marker.toList
  if cs.all (· == bracket) then .ok cs.length else .error (.badMarker (String.ofList cs))

/-- The value of a segment as a literal of the type of its field. -/
def literal (segment : Segment) (field : FieldRef) : Except RuleFlaw (List Char) :=
  let raw := Text.trim segment.value.toList
  match field.type.element with
  | .number =>
    if (Decimal.plain? raw).isSome then .ok raw
    else .error (.notANumber (String.ofList raw) field.name)
  | .bool =>
    let word := Text.asciiLower raw
    if word == "true".toList || word == "false".toList then .ok word
    else .error (.notABoolean (String.ofList word) field.name)
  | _ => .ok (Text.quoteChars segment.value.toList)

/-- The comparison that a segment stands for. -/
def comparison (segment : Segment) : Except RuleFlaw (List Char) := do
  if segment.criteria != segment.subCriteria.criteria then
    throw (.foreignCriteria segment.order segment.subCriteria segment.criteria)
  match CustomRule.factType.fieldFor? segment.subCriteria with
  | none => throw (.noField CustomRule.factType segment.subCriteria)
  | some field =>
    let value ← segment.literal field
    return field.name.toList ++ ' ' :: segment.condition.symbol.toList ++ ' ' :: value

/-- What joins a segment to the next one. -/
def connective (segment : Segment) : Except RuleFlaw (List Char) :=
  match segment.logicOperator with
  | .and => .ok " && ".toList
  | .or => .ok " || ".toList
  | .none => .error (.notJoined segment.order)

/-- The condition of some segments that start inside `depth` groups. -/
def chars (depth : Nat) : List Segment → Except RuleFlaw (List Char)
  | [] => if depth = 0 then .ok [] else .error (.leftOpen depth)
  | segment :: others => do
    let opening ← groups segment.startOperator '('
    let closing ← groups segment.endOperator ')'
    if Condition.maxNesting < depth + opening then throw (.nestsTooDeep segment.order)
    let comparison ← segment.comparison
    if depth + opening < closing then throw (.closesUnopened segment.order)
    let joint ← if others.isEmpty then pure [] else segment.connective
    let rest ← chars (depth + opening - closing) others
    return List.replicate opening '(' ++ comparison ++ List.replicate closing ')' ++ joint ++ rest

end Segment

/-- The condition of a custom rule. -/
def CustomRule.conditionChars (rule : CustomRule) : Except RuleFlaw (List Char) :=
  match rule.sortedSegments with
  | [] => .error .noSegments
  | segments => Segment.chars 0 segments

end FisheryRules
