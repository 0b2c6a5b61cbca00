import FisheryRules.Condition.Typing

/-!
# Evaluation of conditions

A condition is evaluated on the contents of a fact, at an instant, with or without a service that
looks values up in code lists. An absent property is `null`: it differs from everything but `null`
and is neither less nor greater than anything, and a condition that evaluates to it does not hold.

## Main definitions

* `compareValues` — the comparison of two values.
* `Condition.evaluate`, `Condition.test` — the value of a condition, and whether it holds.
-/
namespace FisheryRules

/-- Tells whether a list holds a value, or why that cannot be told. -/
abbrev Lookup := (list : String) → (value : String) → Except String Bool

/-- What a condition can see besides the fact. -/
structure EvalContext where
  now : Instant
  lookup : Option Lookup := none

/-- Why a condition has no value. -/
inductive EvalError
  | unreadable (field : String) (factType : FactType)
  | noLookup
  | lookupFailed (reason : String)
  | notBoolean (value : Value)
  | listOperator (op : CompareOp)
  | incomparable (left : Value) (op : CompareOp) (right : Value)

/-- The type and the text of a value, as they stand in messages. -/
def Value.described (value : Value) : String := s!"{value.typeName} `{value.toText}`"

def EvalError.message : EvalError → String
  | unreadable field factType => s!"field `{field}` is not readable on a {factType.name} fact"
  | noLookup => "no lookup service in session"
  | lookupFailed reason => s!"lookup failed: {reason}"
  | notBoolean value => s!"expected bool, found {value.described}"
  | listOperator op => s!"operator {op.symbol} is not defined on lists"
  | incomparable left op right =>
    s!"cannot compare {left.described} {op.symbol} {right.described}"

/-- Whether the comparison holds of values in the given order. -/
def CompareOp.accepts : CompareOp → Ordering → Bool
  | eq, ordering => ordering == .eq
  | ne, ordering => ordering != .eq
  | gt, ordering => ordering == .gt
  | ge, ordering => ordering != .lt
  | lt, ordering => ordering == .lt
  | le, ordering => ordering != .gt

/-- Compares two values of which neither is a list. -/
def compareScalars (op : CompareOp) (left right : Value) : Except EvalError Bool :=
  match left, right with
  | .null, .null => .ok (op == .eq)
  | .null, _ | _, .null => .ok (op == .ne)
  | .text a, .text b => .ok (op.accepts (compare a b))
  | .number a, .number b => .ok ((a.compare? b).any op.accepts)
  | .time a, .time b => .ok (op.accepts (a.compare b))
  | .bool a, .bool b =>
    if op.isEquality then .ok (op.accepts (compare a b))
    else .error (.incomparable left op right)
  | _, _ => .error (.incomparable left op right)

mutual

/-- Whether a value equals a scalar or, if it is a list, one of its items does. -/
def equalsScalar (scalar : Value) : Value → Except EvalError Bool
  | .list items => if scalar.isNull then .ok false else anyEqualsScalar scalar items
  | value => compareScalars .eq value scalar

/-- Whether one of the values equals a scalar. The first that does or fails decides. -/
def anyEqualsScalar (scalar : Value) : List Value → Except EvalError Bool
  | [] => .ok false
  | item :: others => do
    if ← equalsScalar scalar item then return true
    anyEqualsScalar scalar others

end

mutual

/-- Whether `left` equals `right`, where a list equals what one of its items equals. -/
def equalsValue (right : Value) : (left : Value) → Except EvalError Bool
  | .list items => if right.isNull then .ok false else anyEqualsValue right items
  | left =>
    match right with
    | .list items => if left.isNull then .ok false else anyEqualsScalar left items
    | right => compareScalars .eq left right

/-- Whether one of the values equals `right`. The first that does or fails decides. -/
def anyEqualsValue (right : Value) : List Value → Except EvalError Bool
  | [] => .ok false
  | item :: others => do
    if ← equalsValue right item then return true
    anyEqualsValue right others

end

/-- Compares two values. A list and a value other than `null` are only compared for equality: they
are equal when one of the items is equal to the value. -/
def compareValues (op : CompareOp) (left right : Value) : Except EvalError Bool :=
  match left, right with
  | .null, _ | _, .null =>
    .ok (if left.isNull && right.isNull then op == .eq else op == .ne)
  | .list _, _ | _, .list _ =>
    if op.isEquality then
      (equalsValue right left).map fun equal => if op == .eq then equal else !equal
    else .error (.listOperator op)
  | _, _ => compareScalars op left right

/-- Whether a value that stands for a condition holds. -/
def Value.holds : Value → Except EvalError Bool
  | .bool value => .ok value
  | .null => .ok false
  | other => .error (.notBoolean other)

namespace Condition

mutual

/-- The value of a condition on the contents of a fact. -/
def evaluate (context : EvalContext) (fact : Payload) : Condition → Except EvalError Value
  | literal value => .ok value
  | field ref =>
    match fact.valueAt? ref.index with
    | some value => .ok value
    | none => .error (.unreadable ref.name fact.factType)
  | now => .ok (.time context.now)
  | inList list value => do
    let value ← evaluate context fact value
    if value.isNull then return .bool false
    match context.lookup with
    | none => throw .noLookup
    | some lookup =>
      match lookup list value.toText with
      | .ok present => return .bool present
      | .error reason => throw (.lookupFailed reason)
  | not inner => do
    let value ← evaluate context fact inner
    return .bool (!(← value.holds))
  | and operands => do return .bool (← allHold context fact operands)
  | or operands => do return .bool (← anyHolds context fact operands)
  | compare op left right => do
    let left ← evaluate context fact left
    let right ← evaluate context fact right
    return .bool (← compareValues op left right)

/-- Whether all operands hold. The first that does not, or fails, decides. -/
def allHold (context : EvalContext) (fact : Payload) : List Condition → Except EvalError Bool
  | [] => .ok true
  | first :: others => do
    let value ← evaluate context fact first
    if ← value.holds then allHold context fact others else return false

/-- Whether some operand holds. The first that does, or fails, decides. -/
def anyHolds (context : EvalContext) (fact : Payload) : List Condition → Except EvalError Bool
  | [] => .ok false
  | first :: others => do
    let value ← evaluate context fact first
    if ← value.holds then return true else anyHolds context fact others

end

/-- Whether a condition holds of the contents of a fact. -/
def test (context : EvalContext) (fact : Payload) (condition : Condition) :
    Except EvalError Bool := do
  let value ← condition.evaluate context fact
  value.holds

end Condition

end FisheryRules
