import FisheryRules.Condition.Evaluation

/-!
# Rule sets

Rules fall into three categories, each compiled into a set of its own. A set keeps the definitions
it was made from, and tells which of them it excludes and why.

## Main definitions

* `RuleCategory`, `Snapshot` — the categories, and the definitions of one.
* `CompiledRule`, `RuleEffect` — an executable rule.
* `RuleSet` — the rules of a category, with those that failed.
-/
namespace FisheryRules

/-- Category of rules. -/
inductive RuleCategory
  | sanity
  | custom
  | business
deriving DecidableEq

namespace RuleCategory

def all : List RuleCategory := [sanity, custom, business]

theorem mem_all (category : RuleCategory) : category ∈ all := by
  cases category <;> decide

def code : RuleCategory → String
  | sanity => "SANITY"
  | custom => "CUSTOM"
  | business => "BUSINESS"

end RuleCategory

/-- What happens when a rule fires. -/
inductive RuleEffect
  /-- The fact is flagged and an alarm is raised. -/
  | alarm
  /-- The declared actions are carried out. -/
  | custom (guid : String) (actions : String)
  /-- An outcome is attached to the fact. -/
  | outcome (severity : Severity) (level : String) (message : String) (fieldPath : String)
deriving DecidableEq

/-- Executable rule. Sanity rules are identified by name, custom rules by guid and business rules
by their business rule id. -/
structure CompiledRule where
  id : String
  name : String
  description : Option String := none
  factType : FactType
  condition : Condition
  effect : RuleEffect
  intervals : List TimeInterval := []

def CompiledRule.isActiveAt (rule : CompiledRule) (t : Instant) : Bool :=
  TimeInterval.anyContains rule.intervals t

/-- Rule that is excluded from its set, with the reason. -/
structure FailedRule where
  name : String
  reason : String
deriving DecidableEq

/-- The definitions of one category. -/
inductive Snapshot
  | sanity (rules : List SanityRule)
  | custom (rules : List CustomRule)
  | business (rules : List BusinessRule)
deriving DecidableEq

namespace Snapshot

def category : Snapshot → RuleCategory
  | sanity _ => .sanity
  | custom _ => .custom
  | business _ => .business

/-- The number of definitions. -/
def size : Snapshot → Nat
  | sanity rules => rules.length
  | custom rules => rules.length
  | business rules => rules.length

def isEmpty (snapshot : Snapshot) : Bool := snapshot.size == 0

end Snapshot

/-- The executable rules of a category. -/
structure RuleSet where
  /-- A count without a bound, as that of the slot which it is drawn from. -/
  version : Nat
  fingerprint : String
  source : String
  rules : List CompiledRule
  failed : List FailedRule
  snapshot : Snapshot

namespace RuleSet

def category (set : RuleSet) : RuleCategory := set.snapshot.category

def isEmpty (set : RuleSet) : Bool := set.rules.isEmpty

/-- The rule with the given id. -/
def find? (set : RuleSet) (id : String) : Option CompiledRule := set.rules.find? (·.id == id)

end RuleSet

end FisheryRules
