import FisheryRules.Condition.Typing
import FisheryRules.Condition.Evaluation
import FisheryRules.Proofs.Results

/-!
# Connectives

Conjunctions and disjunctions are checked and evaluated in the same way, up to the value of an
operand that decides the whole.
-/
namespace FisheryRules

/-- What operands are joined by. -/
inductive Connective
  | and
  | or

namespace Connective

/-- The operator in a condition. -/
def operator : Connective → String
  | and => "&&"
  | or => "||"

/-- The operands joined. -/
def connect : Connective → List Condition → Condition
  | and => Condition.and
  | or => Condition.or

/-- The value of an operand after which the others do not matter. -/
def decisive : Connective → Bool
  | and => false
  | or => true

/-- The value of the operands joined. -/
def join : Connective → Bool → Bool → Bool
  | and => Bool.and
  | or => Bool.or

/-- Whether the operands joined hold. -/
def holds (context : EvalContext) (fact : Payload) :
    Connective → List Condition → Except EvalError Bool
  | and => Condition.allHold context fact
  | or => Condition.anyHolds context fact

variable {connective : Connective} {context : EvalContext} {fact : Payload}
  {first : Condition} {operands others : List Condition} {value : Bool}

theorem check_connect_eq_ok {tree : Condition} {type : ValueType} :
    (connective.connect operands).check = .ok (tree, type) ↔
      ∃ checked, Condition.checkOperands connective.operator operands = .ok checked ∧
        connective.connect checked = tree ∧ .of .bool = type := by
  cases connective <;>
    simp only [connect, operator, Condition.check, bind_eq_ok, pure_eq_ok, Except.ok.injEq,
      Prod.mk.injEq]

theorem evaluate_connect : (connective.connect operands).evaluate context fact =
    do return .bool (← connective.holds context fact operands) := by
  cases connective <;> rw [connect, Condition.evaluate, holds]

theorem holds_nil : connective.holds context fact [] = .ok !connective.decisive := by
  cases connective <;> rfl

theorem holds_cons_eq : connective.holds context fact (first :: others) =
    (do
      let value ← first.evaluate context fact
      let decided ← value.holds
      if decided = connective.decisive then return decided
      else connective.holds context fact others) := by
  cases connective with
  | and =>
    simp only [holds, decisive, Condition.allHold]
    refine bind_congr fun value => bind_congr fun decided => ?_
    cases decided <;> rfl
  | or =>
    simp only [holds, decisive, Condition.anyHolds]
    refine bind_congr fun value => bind_congr fun decided => ?_
    cases decided <;> rfl

/-- The first operand decides, or the others do. -/
theorem holds_cons (h : first.evaluate context fact = .ok (.bool value)) :
    connective.holds context fact (first :: others) =
      if value = connective.decisive then .ok value else connective.holds context fact others := by
  rw [holds_cons_eq, h]
  rfl

theorem holds_cons_error {error : EvalError} (h : first.evaluate context fact = .error error) :
    connective.holds context fact (first :: others) = .error error := by
  rw [holds_cons_eq, h]
  rfl

end Connective

end FisheryRules
