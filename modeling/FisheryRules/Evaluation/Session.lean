import FisheryRules.RuleSet.Basic

/-!
# Sessions

A session holds facts and lets the rules of a set fire on them. Every pair of a fact and an active
rule for its type fires once if the condition holds. Facts that share a unique id describe one
object: once a rule has fired on a fact, it stays silent on later facts with one of its ids.

## Main definitions

* `Firing` — a rule that fired on a fact.
* `Session`, `Session.scan` — the state, and one pass over all pairs.
* `Session.fireAll` — passes until one fires nothing; a failing condition interrupts.
-/
namespace FisheryRules

/-- Rule that fired on a fact. -/
structure Firing where
  category : RuleCategory
  ruleId : String
  ruleName : String
  effect : RuleEffect
  factId : Uuid
  /-- Contents of the fact that the rule fired on. -/
  fact : Payload
  firedAt : Instant
deriving DecidableEq

/-- Condition that failed on a fact. -/
structure EvalFailure where
  ruleId : String
  fact : Uuid
  error : EvalError

def EvalFailure.message (failure : EvalFailure) : String :=
  s!"rule {failure.ruleId} failed on fact {failure.fact.toText}: {failure.error.message}"

/-- Facts under evaluation against a rule set. -/
structure Session where
  set : RuleSet
  now : Instant
  lookup : Option Lookup := none
  facts : List Fact := []
  /-- Positions of the rules and facts of which the condition held. -/
  fired : List (Nat × Nat) := []
  /-- Positions of rules, with the unique ids of the facts they fired on. -/
  reported : List (Nat × String) := []
  firings : List Firing := []

/-- Session that a failing condition interrupted. -/
structure Interrupted where
  session : Session
  failure : EvalFailure

namespace CompiledRule

/-- The level of the outcome of an alarm. -/
def alarmLevel : String := "L00"

/-- The outcome that a firing of the rule attaches to the fact. -/
def outcome? (rule : CompiledRule) : Option Outcome :=
  match rule.effect with
  | .alarm => some {
      severity := .error
      message := rule.description.getD rule.name
      ruleId := rule.id
      level := alarmLevel }
  | .outcome severity level message fieldPath =>
    some { severity, message, ruleId := rule.id, level, fieldPath }
  | .custom .. => none

/-- The fact after the rule has fired on it. -/
def mark (rule : CompiledRule) (fact : Fact) : Fact :=
  match rule.outcome? with
  | some outcome => fact.addOutcome outcome
  | none => fact

end CompiledRule

namespace Session

/-- A session that holds some facts. -/
def start (set : RuleSet) (now : Instant) (lookup : Option Lookup) (facts : List Fact) : Session :=
  { set, now, lookup, facts }

def insert (session : Session) (fact : Fact) : Session :=
  { session with facts := session.facts ++ [fact] }

/-- The session with a service that is consulted from now on. -/
def setLookup (session : Session) (lookup : Lookup) : Session :=
  { session with lookup := some lookup }

/-- The rules that may fire at the instant of the session, with their positions in the set. -/
def activeRules (session : Session) : List (CompiledRule × Nat) :=
  session.set.rules.zipIdx.filter fun (rule, _) => rule.isActiveAt session.now

def context (session : Session) : EvalContext := ⟨session.now, session.lookup⟩

/-- Whether the rule has fired on a fact with one of these unique ids. -/
def hasReported (session : Session) (ruleIndex : Nat) (fact : Fact) : Bool :=
  fact.uniqueIds.toList.any fun id => session.reported.contains (ruleIndex, id)

/-- The session after a rule has fired on a fact. -/
def fire (session : Session) (rule : CompiledRule) (ruleIndex : Nat) (fact : Fact)
    (factIndex : Nat) : Session :=
  { session with
    facts := session.facts.set factIndex (rule.mark fact)
    reported := fact.uniqueIds.toList.map (ruleIndex, ·) ++ session.reported
    firings := session.firings ++ [{
      category := session.set.category
      ruleId := rule.id
      ruleName := rule.name
      effect := rule.effect
      factId := fact.id
      fact := fact.payload
      firedAt := session.now }] }

/-- Lets a rule fire on the fact at a position, if the pair has not fired and the condition
holds. -/
def visit (session : Session) (factIndex : Nat) (ruleIndex : Nat) (rule : CompiledRule) :
    Except Interrupted Session :=
  match session.facts[factIndex]? with
  | none => .ok session
  | some fact =>
    if rule.factType != fact.factType || session.fired.contains (ruleIndex, factIndex) then
      .ok session
    else
      match rule.condition.test session.context fact.payload with
      | .error error => .error ⟨session, rule.id, fact.id, error⟩
      | .ok false => .ok session
      | .ok true =>
        let silent := session.hasReported ruleIndex fact
        let session := { session with fired := (ruleIndex, factIndex) :: session.fired }
        .ok (if silent then session else session.fire rule ruleIndex fact factIndex)

/-- One pass: the facts in their order, and for every fact the active rules in theirs. -/
def scan (session : Session) : Except Interrupted Session :=
  let active := session.activeRules
  (List.range session.facts.length).foldlM (fun session factIndex =>
    active.foldlM (fun session (rule, ruleIndex) => session.visit factIndex ruleIndex rule)
      session) session

/-- Makes passes until one fires nothing, at most `bound` of them. -/
def passes : (bound : Nat) → Session → Except Interrupted Session
  | 0, session => .ok session
  | bound + 1, session => do
    let next ← session.scan
    if next.firings.length = session.firings.length then return next else passes bound next

/-- Lets rules fire until a pass fires nothing. Every other pass fires a pair that has not fired
before, so there are no more passes than pairs, and one. -/
def fireAll (session : Session) : Except Interrupted Session :=
  passes (session.set.rules.length * session.facts.length + 1) session

end Session

end FisheryRules
