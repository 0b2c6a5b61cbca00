import FisheryRules.Data.Serialized
import FisheryRules.RuleSet.Basic

/-!
# Serialized parts of rule sets

The serialized forms of rule categories and of the reports on excluded rules.
-/
namespace FisheryRules

instance : Serialized RuleCategory where
  toData c := .text c.code
  ofData? := Data.readCase? RuleCategory.all RuleCategory.code

instance : Serialized FailedRule where
  toData rule := .record [
    ("name", toData rule.name),
    ("reason", toData rule.reason)]
  ofData? data := do
    let m ← data.members? 2
    return {
      name := ← m.required 0 "name"
      reason := ← m.required 1 "reason" }

end FisheryRules
