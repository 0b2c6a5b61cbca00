import FisheryRules.Condition.Evaluation
import FisheryRules.Data.Serialized

/-!
# Written conditions

Values and conditions as data, for those who inspect a rule set. A node is a record whose first
member tells of what kind it is.

## Main definitions

* `Value.written`, `Condition.written` — the written forms.
-/
namespace FisheryRules

namespace Value

mutual

/-- A value with its type. A number is written as its text. -/
def written : Value → Data
  | null => .null
  | text value => .record [("text", .text value)]
  | number value => .record [("number", .text value.toText)]
  | bool value => .record [("bool", .bool value)]
  | time value => .record [("time", .text value.toOffset)]
  | list items => .record [("list", .list (itemsWritten items))]

/-- The written forms of the items of a list. -/
def itemsWritten : List Value → List Data
  | [] => []
  | item :: others => item.written :: itemsWritten others

end

end Value

instance : Written Value := ⟨Value.written⟩

namespace Condition

mutual

/-- The tree of a condition. -/
def written : Condition → Data
  | literal value => .record [("lit", value.written)]
  | field ref => .record [("field", .text ref.name)]
  | now => .record [("now", .bool true)]
  | inList list value => .record [("inList", .text list), ("value", value.written)]
  | not inner => .record [("not", inner.written)]
  | and operands => .record [("and", .list (operandsWritten operands))]
  | or operands => .record [("or", .list (operandsWritten operands))]
  | compare op left right =>
    .record [("cmp", .text op.symbol), ("left", left.written), ("right", right.written)]

/-- The trees of the operands of a chain. -/
def operandsWritten : List Condition → List Data
  | [] => []
  | operand :: others => operand.written :: operandsWritten others

end

end Condition

instance : Written Condition := ⟨Condition.written⟩

instance : Written EvalError where
  toData error := .failure "EvalError" error.message

end FisheryRules
