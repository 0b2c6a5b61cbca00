import FisheryRules.Condition.Typing
import FisheryRules.RuleSet.Basic

/-!
# Flaws of rules

Why a definition is excluded from its set. A flaw is reported under the name of the rule, with a
label that tells what kind of flaw it is.

## Main definitions

* `RuleFlaw` — the flaws.
* `RuleFlaw.kind`, `RuleFlaw.detail` — the two parts of the report.
* `FailedRule.describe` — the report.
-/
namespace FisheryRules

/-- Kind of a flaw. -/
inductive FlawKind
  | malformed
  | unknownField
  | illTyped
  | grouping
  | definition
deriving DecidableEq

/-- What stands before the details of a flaw. -/
def FlawKind.label : FlawKind → String
  | malformed => "syntax error: "
  | illTyped => "type error: "
  | grouping => "unbalanced condition grouping: "
  | unknownField | definition => ""

/-- Why a rule is excluded from its set. -/
inductive RuleFlaw
  | condition (error : ConditionError)
  | noSegments
  | badMarker (marker : String)
  | nestsTooDeep (order : UInt32)
  | closesUnopened (order : UInt32)
  | leftOpen (count : Nat)
  | notJoined (order : UInt32)
  | foreignCriteria (order : UInt32) (subCriteria : SubCriteria) (criteria : Criteria)
  | noField (factType : FactType) (subCriteria : SubCriteria)
  | notANumber (raw : String) (field : String)
  | notABoolean (raw : String) (field : String)
  | lineBreak (column : String)
  | noGrammar (factType : FactType)
  | missingEnd
  | unexpectedLine (line : String)
  | unknownFactType (name : String)
  | noClause
  | noFactType
  | emptyCondition
  | unknownConsequence (line : String)
  | noGuid
  | noConsequence
  | conflictingConsequences
  | unknownErrorType (name : String)
  | noErrorType
  | duplicateId (id : String)
deriving DecidableEq

namespace RuleFlaw

def kind : RuleFlaw → FlawKind
  | condition (.scan _) => .malformed
  | condition (.parse (.unknownField ..)) => .unknownField
  | condition (.parse _) => .malformed
  | condition (.type _) => .illTyped
  | badMarker _ | nestsTooDeep _ | closesUnopened _ | leftOpen _ => .grouping
  | noField .. => .unknownField
  | notANumber .. | notABoolean .. => .illTyped
  | missingEnd | unexpectedLine _ | noClause | emptyCondition | unknownConsequence _ => .malformed
  | noSegments | notJoined _ | foreignCriteria .. | lineBreak _ | noGrammar _
  | unknownFactType _ | noFactType | noGuid | noConsequence | conflictingConsequences
  | unknownErrorType _ | noErrorType | duplicateId _ => .definition

def detail : RuleFlaw → String
  | condition (.scan error) => error.message
  | condition (.parse error) => error.message
  | condition (.type error) => error.message
  | noSegments => "rule has no condition segments"
  | badMarker marker => s!"invalid grouping marker `{marker}`"
  | nestsTooDeep order =>
    s!"segment {order} nests groups deeper than {Condition.maxNesting} levels"
  | closesUnopened order => s!"segment {order} closes a group that was never opened"
  | leftOpen count => s!"{count} group(s) left open"
  | notJoined order => s!"segment {order} is not joined to the next one"
  | foreignCriteria order subCriteria criteria =>
    s!"segment {order}: {subCriteria.title} does not belong to {criteria.title}"
  | noField factType subCriteria => s!"unknown field `{subCriteria.title}` on {factType.name}"
  | notANumber raw field => s!"`{raw}` is not a number for {field}"
  | notABoolean raw field => s!"`{raw}` is not a boolean for {field}"
  | lineBreak column => s!"{column} contains a line break"
  | noGrammar factType => s!"no business rule grammar for {factType.name}"
  | missingEnd => "rule is missing `end`"
  | unexpectedLine line => s!"unexpected `{line}`"
  | unknownFactType name => s!"unknown fact type `{name}`"
  | noClause => "rule has no `when ... then` clause"
  | noFactType => "rule does not declare `on <FactType>`"
  | emptyCondition => "empty condition"
  | unknownConsequence line => s!"unknown consequence `{line}`"
  | noGuid => "rule actions without a rule guid"
  | noConsequence => "rule has no consequence"
  | conflictingConsequences => "conflicting consequences"
  | unknownErrorType name => s!"unknown error type `{name}`"
  | noErrorType => "outcome without an error type"
  | duplicateId id => s!"duplicate rule id {id}"

/-- The flaw as it is reported for a rule. -/
def message (rule : String) (flaw : RuleFlaw) : String :=
  s!"rule {rule}: {flaw.kind.label}{flaw.detail}"

end RuleFlaw

namespace FailedRule

/-- A rule excluded for a flaw of the given kind. -/
def describe (rule : String) (kind : FlawKind) (detail : String) : FailedRule :=
  ⟨rule, s!"rule {rule}: {kind.label}{detail}"⟩

/-- A rule excluded for a flaw. -/
def ofFlaw (rule : String) (flaw : RuleFlaw) : FailedRule := ⟨rule, flaw.message rule⟩

end FailedRule

/-- A line of a rule source that belongs to no rule; lines are counted from one. -/
structure SourceError where
  line : Nat
  detail : String
deriving DecidableEq

def SourceError.message (error : SourceError) : String :=
  s!"rendered source line {error.line}: {error.detail}"

/-- The source failure in the form of a failed rule. -/
def FailedRule.ofSource (error : SourceError) : FailedRule :=
  ⟨s!"line {error.line}", error.message⟩

end FisheryRules
