import FisheryRules.Condition.Token

/-!
# Conditions

The tree of a condition. Chains of the same connective are one flat list of operands, so the
height of a tree does not grow with the length of a chain.

## Main definitions

* `Condition` — the trees.
* `Condition.height` — the number of nodes on the longest path from the root.
-/
namespace FisheryRules

/-- Condition of a rule. -/
inductive Condition
  | literal (value : Value)
  | field (field : FieldRef)
  | now
  | inList (list : String) (value : Condition)
  | not (inner : Condition)
  | and (operands : List Condition)
  | or (operands : List Condition)
  | compare (op : CompareOp) (left right : Condition)
deriving Inhabited

namespace Condition

mutual

/-- The number of nodes on the longest path from the root to a leaf. -/
def height : Condition → Nat
  | literal _ | field _ | now => 1
  | inList _ value => height value + 1
  | not inner => height inner + 1
  | and operands => greatestHeight operands + 1
  | or operands => greatestHeight operands + 1
  | compare _ left right => max (height left) (height right) + 1

/-- The greatest height among some trees, and zero if there are none. -/
def greatestHeight : List Condition → Nat
  | [] => 0
  | first :: others => max (height first) (greatestHeight others)

end

end Condition

end FisheryRules
