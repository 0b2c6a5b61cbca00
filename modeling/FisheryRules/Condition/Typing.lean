import FisheryRules.Condition.Parser

/-!
# Types of conditions

A condition is checked before it is evaluated, so that only the data can make its evaluation fail.
A text literal that is compared with a time is read as a timestamp.

## Main definitions

* `ValueType` — the type of a tree: a declared type, or that of `null`.
* `Condition.check` — the type of a tree, and the tree with its time literals read.
* `Condition.compile` — scans, reads and checks a text as a condition.
-/
namespace FisheryRules

/-- Type of what a tree evaluates to. -/
inductive ValueType
  | null
  | of (type : FieldType)
deriving DecidableEq

def ValueType.name : ValueType → String
  | null => "null"
  | of type => type.name

/-- Why a tree has no type. -/
inductive TypeError
  | notBoolean (found : ValueType)
  | lookupArgument (found : ValueType)
  | operand (operator : String) (found : ValueType)
  | notTimestamp (raw : String) (flaw : Timestamp.Flaw)
  | mismatch (left : ValueType) (op : CompareOp) (right : ValueType)
deriving DecidableEq

def TypeError.message : TypeError → String
  | notBoolean found => s!"condition must be boolean, found {found.name}"
  | lookupArgument found => s!"isPresentInList expects a text or number value, found {found.name}"
  | operand operator found => s!"operand of {operator} must be boolean, found {found.name}"
  | notTimestamp raw flaw => s!"`{raw}` is not an RFC 3339 timestamp: {flaw.message}"
  | mismatch left op right => s!"cannot compare {left.name} {op.symbol} {right.name}"

/-- Whether the comparison is for equality or its opposite. -/
def CompareOp.isEquality : CompareOp → Bool
  | eq | ne => true
  | _ => false

namespace ValueType

/-- The type of a literal. -/
def ofValue : Value → ValueType
  | .null => null
  | .text _ => of .text
  | .number _ => of .number
  | .bool _ => of .bool
  | .time _ => of .time
  | .list _ => of .textList

/-- Whether values of the two types may be compared. `null` and lists are only compared for
equality, a list with an element; booleans are not ordered. -/
def allows (op : CompareOp) : ValueType → ValueType → Bool
  | null, _ | _, null => op.isEquality
  | of left, of right =>
    if left.isList then op.isEquality && !right.isList && left.element == right
    else if right.isList then op.isEquality && right.element == left
    else if left == .bool then op.isEquality && right == .bool
    else left == right

end ValueType

namespace Condition

def expectBool (operator : String) (found : ValueType) : Except TypeError Unit :=
  if found = .of .bool then .ok () else .error (.operand operator found)

/-- Reads a text literal that is compared with a time as a timestamp. Gives nothing when there is
nothing to read. -/
def coerceTime (tree : Condition) (other : ValueType) : Except TypeError (Option Condition) :=
  match tree with
  | literal (.text raw) =>
    if other = .of .time then
      match Timestamp.read raw with
      | .ok t => .ok (some (literal (.time t)))
      | .error flaw => .error (.notTimestamp raw flaw)
    else .ok none
  | _ => .ok none

/-- Checks a comparison of two checked trees. -/
def checkCompare (op : CompareOp) (left : Condition × ValueType) (right : Condition × ValueType) :
    Except TypeError Condition := do
  let left := ((← coerceTime left.1 right.2).map fun tree => (tree, .of .time)).getD left
  let right := ((← coerceTime right.1 left.2).map fun tree => (tree, .of .time)).getD right
  if left.2.allows op right.2 then return compare op left.1 right.1
  else throw (.mismatch left.2 op right.2)

mutual

/-- The type of a tree, and the tree with its time literals read. -/
def check : Condition → Except TypeError (Condition × ValueType)
  | literal value => .ok (literal value, .ofValue value)
  | field ref => .ok (field ref, .of ref.type)
  | now => .ok (now, .of .time)
  | inList list value => do
    let (value, found) ← check value
    if found = .null ∨ found = .of .text ∨ found = .of .number then
      return (inList list value, .of .bool)
    else throw (.lookupArgument found)
  | not inner => do
    let (inner, found) ← check inner
    expectBool "!" found
    return (not inner, .of .bool)
  | and operands => do
    return (and (← checkOperands "&&" operands), .of .bool)
  | or operands => do
    return (or (← checkOperands "||" operands), .of .bool)
  | compare op left right => do
    let left ← check left
    let right ← check right
    return (← checkCompare op left right, .of .bool)

/-- Checks the operands of a connective in turn. -/
def checkOperands (operator : String) : List Condition → Except TypeError (List Condition)
  | [] => .ok []
  | first :: others => do
    let (first, found) ← check first
    expectBool operator found
    return first :: (← checkOperands operator others)

end

/-- Checks a tree that must be boolean. -/
def checkBoolean (tree : Condition) : Except TypeError Condition := do
  let (tree, found) ← check tree
  if found = .of .bool then return tree else throw (.notBoolean found)

end Condition

/-- Why a text is no condition. -/
inductive ConditionError
  | scan (error : ScanError)
  | parse (error : ParseError)
  | type (error : TypeError)
deriving DecidableEq

/-- Reads and checks a text as a condition on facts of the given type. -/
def Condition.compile (factType : FactType) (source : List Char) :
    Except ConditionError Condition := do
  let tokens ← (Token.scan source).mapError .scan
  let tree ← (ofTokens factType tokens).mapError .parse
  (checkBoolean tree).mapError .type

end FisheryRules
