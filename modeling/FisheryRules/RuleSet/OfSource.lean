import FisheryRules.Source.Consequence

/-!
# Rules of a source

Every rule of a source is compiled on its own, and a flaw excludes that rule alone. Of several
rules with one id the first that compiles is kept. A line outside of all rules fails the whole
source.

## Main definitions

* `CompiledRule.ofText` — one rule.
* `CompiledRules.ofSource` — the rules of a source, with those that failed.
-/
namespace FisheryRules

/-- The id of a rule: the guid it carries, or else its name. -/
def RuleEffect.ruleId (name : String) : RuleEffect → String
  | .custom guid _ => guid
  | .alarm | .outcome .. => name

/-- Compiles one rule. -/
def CompiledRule.ofText (text : RuleText) : Except RuleFlaw CompiledRule := do
  let clauses ← text.clauses
  let condition ← (Condition.compile clauses.factType clauses.condition).mapError .condition
  let effect ← RuleEffect.ofLines clauses.consequences
  let name := String.ofList text.name
  return { id := effect.ruleId name, name, factType := clauses.factType, condition, effect }

/-- Rules that compiled, and those that did not. -/
structure CompiledRules where
  rules : List CompiledRule := []
  failed : List FailedRule := []

namespace CompiledRules

/-- Adds a rule after the others, or the reason why it cannot be added. -/
def add (compiled : CompiledRules) (text : RuleText) : CompiledRules :=
  let name := String.ofList text.name
  let result : Except RuleFlaw CompiledRule := do
    let rule ← CompiledRule.ofText text
    if compiled.rules.any (·.id == rule.id) then throw (.duplicateId rule.id)
    return rule
  match result with
  | .ok rule => { compiled with rules := compiled.rules ++ [rule] }
  | .error flaw => { compiled with failed := compiled.failed ++ [.ofFlaw name flaw] }

/-- The rules of a source. -/
def ofSource (source : List Char) : Except SourceError CompiledRules :=
  (RuleText.split source).map (·.foldl add {})

end CompiledRules

end FisheryRules
