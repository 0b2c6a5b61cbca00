import FisheryRules.Condition.Written
import FisheryRules.Rule.Serialized
import FisheryRules.RuleSet.Flaw
import FisheryRules.RuleSet.Serialized

/-!
# Written rule sets

Rule sets as data, for those who inspect what is in service.
-/
namespace FisheryRules

/-- The kind of an effect decides which members it has. -/
instance : Serialized RuleEffect where
  toData
    | .alarm => .record [("kind", .text "alarm")]
    | .custom guid actions =>
      .record [("kind", .text "custom"), ("guid", .text guid), ("actions", .text actions)]
    | .outcome severity level message fieldPath => .record [
        ("kind", .text "outcome"),
        ("severity", toData severity),
        ("level", .text level),
        ("message", .text message),
        ("fieldPath", .text fieldPath)]
  ofData? data := do
    let m ← data.members? 5
    let kind : String ← m.required 0 "kind"
    if kind = "alarm" then return .alarm
    else if kind = "custom" then
      return .custom (← m.required 1 "guid") (← m.required 2 "actions")
    else if kind = "outcome" then
      return .outcome (← m.required 1 "severity") (← m.required 2 "level")
        (← m.required 3 "message") (← m.required 4 "fieldPath")
    else none

/-- The code of a kind of flaw. -/
def FlawKind.code : FlawKind → String
  | malformed => "Syntax"
  | unknownField => "UnknownField"
  | illTyped => "Type"
  | grouping => "Grouping"
  | definition => "Definition"

/-- The flaw of a rule, written as a failure. -/
def RuleFlaw.written (flaw : RuleFlaw) (rule : String) : Data :=
  .failure flaw.kind.code (flaw.message rule)

instance : Written SourceError where
  toData error := .failure "Source" error.message

instance : Written CompiledRule where
  toData rule := .record [
    ("id", .text rule.id),
    ("name", .text rule.name),
    ("description", toData rule.description),
    ("factType", .text rule.factType.name),
    ("condition", toData rule.condition),
    ("effect", toData rule.effect),
    ("intervals", toData rule.intervals)]

/-- The members of a written rule set. -/
def RuleSet.members (set : RuleSet) : List (String × Data) := [
  ("category", toData set.category),
  ("version", toData set.version),
  ("fingerprint", .text set.fingerprint),
  ("source", .text set.source),
  ("rules", toData set.rules),
  ("failed", toData set.failed),
  ("definitions", toData set.snapshot.size),
  ("empty", .bool set.isEmpty)]

instance : Written RuleSet where
  toData set := .record set.members

end FisheryRules
