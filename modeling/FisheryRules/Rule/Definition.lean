import FisheryRules.Fact.Basic

/-!
# Rule definitions

The three kinds of rules as their authors write them: sanity rules for reports as received, custom
rules for enriched movements, and business rules for any kind of fact.

## Main definitions

* `SanityRule`, `CustomRule`, `BusinessRule` — the definitions.
* `Segment` — one comparison of a custom rule.
* `ActionKind`, `RuleAction` — what a custom rule asks for when it fires.
* `TimeInterval` — when a rule may fire.
-/
namespace FisheryRules

/-- Comparison of values. -/
inductive CompareOp
  | eq
  | ne
  | gt
  | ge
  | lt
  | le
deriving DecidableEq

def CompareOp.symbol : CompareOp → String
  | eq => "=="
  | ne => "!="
  | gt => ">"
  | ge => ">="
  | lt => "<"
  | le => "<="

/-- Visibility of a custom rule. -/
inductive Availability
  | personal
  | shared
  | global
deriving DecidableEq

/-- Connective between a segment and the next one. -/
inductive LogicOperator
  | and
  | or
  | none
deriving DecidableEq

/-- One comparison of a custom rule, with markers that open groups before it and close groups
after it. -/
structure Segment where
  startOperator : String := ""
  criteria : Criteria
  subCriteria : SubCriteria
  condition : CompareOp
  value : String
  endOperator : String := ""
  logicOperator : LogicOperator := .none
  order : UInt32 := 0
deriving DecidableEq

/-- Kind of action a custom rule can declare. -/
inductive ActionKind
  | email
  | ticket
  | sendToEndpoint
  | manualPoll
  | onHold
  | sms
  | topBarNotification
deriving DecidableEq

namespace ActionKind

def all : List ActionKind :=
  [email, ticket, sendToEndpoint, manualPoll, onHold, sms, topBarNotification]

def code : ActionKind → String
  | email => "EMAIL"
  | ticket => "TICKET"
  | sendToEndpoint => "SEND_TO_ENDPOINT"
  | manualPoll => "MANUAL_POLL"
  | onHold => "ON_HOLD"
  | sms => "SMS"
  | topBarNotification => "TOP_BAR_NOTIFICATION"

/-- Reads a kind in any letter case, with blanks around it; gives the text in upper case when it
names none. -/
def parse (cs : List Char) : Except UnknownName ActionKind :=
  let word := String.ofList (Text.asciiUpper (Text.trim cs))
  match all.find? (·.code == word) with
  | some kind => .ok kind
  | none => .error (.action word)

end ActionKind

/-- Action that a custom rule declares. -/
structure RuleAction where
  action : ActionKind
  value : Option String := none
  order : UInt32 := 0
deriving DecidableEq

/-- Window in which a rule may fire. An open end has no bound. -/
structure TimeInterval where
  start : Option Instant := none
  stop : Option Instant := none
deriving DecidableEq

/-- Whether the window contains an instant; both ends belong to it. -/
def TimeInterval.contains (interval : TimeInterval) (t : Instant) : Bool :=
  interval.start.all (·.atMost t) && interval.stop.all (t.atMost ·)

/-- Whether a rule with these windows may fire at an instant. No windows are no restriction. -/
def TimeInterval.anyContains (intervals : List TimeInterval) (t : Instant) : Bool :=
  intervals.isEmpty || intervals.any (·.contains t)

/-- How a subscriber of a custom rule is told. -/
inductive SubscriptionKind
  | ticket
  | email
deriving DecidableEq

structure Subscription where
  owner : String
  kind : SubscriptionKind
deriving DecidableEq

/-- Rule written by a user, evaluated on enriched movements. -/
structure CustomRule where
  guid : String
  name : String
  description : Option String := none
  availability : Availability := .personal
  organisation : Option String := none
  active : Bool := true
  archived : Bool := false
  /-- Kept with the definition; evaluation does not read it. -/
  aggregateInvocations : Bool := false
  segments : List Segment := []
  actions : List RuleAction := []
  intervals : List TimeInterval := []
  subscriptions : List Subscription := []
  lastTriggered : Option Instant := none
  updated : Option Instant := none
  updatedBy : Option String := none
deriving DecidableEq

namespace CustomRule

/-- A rule runs when it is active and not archived. -/
def isRunnable (rule : CustomRule) : Bool := rule.active && !rule.archived

def isActiveAt (rule : CustomRule) (t : Instant) : Bool :=
  TimeInterval.anyContains rule.intervals t

/-- The segments by ascending order; those of equal order keep their places. -/
def sortedSegments (rule : CustomRule) : List Segment :=
  rule.segments.mergeSort fun a b => a.order ≤ b.order

/-- The actions by ascending order; those of equal order keep their places. -/
def sortedActions (rule : CustomRule) : List RuleAction :=
  rule.actions.mergeSort fun a b => a.order ≤ b.order

/-- One entry of the action list of a rule. -/
def actionEntry (action : RuleAction) : List Char :=
  action.action.code.toList ++ ',' :: (action.value.getD "").toList

/-- The declared actions as `ACTION,VALUE;ACTION,VALUE`. -/
def actionChars (rule : CustomRule) : List Char :=
  Text.joinWith [';'] (rule.sortedActions.map actionEntry)

/-- The declared actions as `ACTION,VALUE;ACTION,VALUE`. -/
def actionList (rule : CustomRule) : String := String.ofList rule.actionChars

/-- The owners of the subscriptions by mail. -/
def emailSubscribers (rule : CustomRule) : List String :=
  (rule.subscriptions.filter (·.kind == .email)).map (·.owner)

end CustomRule

/-- Validity check on reports as received. -/
structure SanityRule where
  name : String
  expression : String
  description : Option String := none
  updated : Option Instant := none
  updatedBy : Option String := none
deriving DecidableEq

/-- Validation of one type of fact. A firing attaches an outcome to the fact. -/
structure BusinessRule where
  brId : String
  factType : FactType
  expression : String
  message : String
  errorType : Severity
  level : String
  /-- Property the outcome points at. -/
  propertyNames : Option String := none
  active : Bool := true
  updated : Option Instant := none
  updatedBy : Option String := none
deriving DecidableEq

end FisheryRules
