import FisheryRules.Evaluation.Batch
import FisheryRules.Fact.Serialized
import FisheryRules.RuleSet.Written

/-!
# Written reports

What came of an evaluation, as data. Of a fact it tells the verdict and leaves out the contents.
-/
namespace FisheryRules

/-- The verdict on a fact. -/
def Fact.verdict (fact : Fact) : Data := .record [
  ("id", toData fact.id),
  ("type", .text fact.factType.name),
  ("ok", .bool fact.ok),
  ("outcomes", toData fact.outcomes),
  ("uniqueIds", toData fact.uniqueIds),
  ("source", toData fact.source),
  ("hasErrors", .bool fact.hasErrors),
  ("hasWarnings", .bool fact.hasWarnings)]

instance : Written Firing where
  toData firing := .record [
    ("category", toData firing.category),
    ("ruleId", .text firing.ruleId),
    ("ruleName", .text firing.ruleName),
    ("effect", toData firing.effect),
    ("factId", toData firing.factId),
    ("factType", .text firing.fact.factType.name),
    ("firedAt", toData firing.firedAt)]

/-- The members of a written report. -/
def Report.members (report : Report) : List (String × Data) := [
  ("facts", .list (report.facts.map Fact.verdict)),
  ("firings", toData report.firings),
  ("exceptions", .list (report.exceptions.map Fact.verdict))]

instance : Written Report where
  toData report := .record report.members

end FisheryRules
