import FisheryRules.Evaluation.Session

/-!
# Evaluation of batches

A batch of facts is evaluated in one session. A fact on which a condition fails is taken out with
a warning, and the others are evaluated again in a new session.

## Main definitions

* `Report` — the result of a batch.
* `RuleSet.evaluate` — the evaluation of a batch.
-/
namespace FisheryRules

/-- Result of the evaluation of a batch. -/
structure Report where
  /-- The facts that were evaluated, in the order of the batch. -/
  facts : List Fact := []
  firings : List Firing := []
  /-- The facts that were taken out because a condition failed on them. -/
  exceptions : List Fact := []
deriving DecidableEq

/-- The first fact with an id among the facts and exceptions of a report. -/
def Report.find? (report : Report) (id : Uuid) : Option Fact :=
  (report.facts ++ report.exceptions).find? (·.id == id)

/-- The level of the warning on a fact that is taken out. -/
def EvalFailure.level : String := "L099"

/-- The fact with a warning about the condition that failed on it. -/
def Fact.takeOut (fact : Fact) (failure : EvalFailure) : Fact :=
  { fact.addOutcome {
      severity := .warning
      message := failure.message
      ruleId := failure.ruleId
      level := EvalFailure.level } with ok := false }

/-- Separates the first fact with an id from the others. -/
def splitFirst? (id : Uuid) : List Fact → Option (Fact × List Fact)
  | [] => none
  | fact :: others =>
    if fact.id == id then some (fact, others)
    else (splitFirst? id others).map fun (found, rest) => (found, fact :: rest)

theorem length_of_splitFirst? {id : Uuid} {facts rest : List Fact} {fact : Fact}
    (h : splitFirst? id facts = some (fact, rest)) : facts.length = rest.length + 1 := by
  induction facts generalizing rest with
  | nil => simp [splitFirst?] at h
  | cons first others ih =>
    unfold splitFirst? at h
    split at h
    · cases h; rfl
    · obtain ⟨⟨found, left⟩, hf, e⟩ := Option.map_eq_some_iff.1 h
      cases e
      simp [ih hf]

namespace RuleSet

/-- Evaluates facts in new sessions until no condition fails. -/
def attempts (set : RuleSet) (now : Instant) (lookup : Option Lookup)
    (facts exceptions : List Fact) : Report :=
  match (Session.start set now lookup facts).fireAll with
  | .ok session => ⟨session.facts, session.firings, exceptions⟩
  | .error interrupted =>
    match h : splitFirst? interrupted.failure.fact facts with
    | none => ⟨facts, [], exceptions⟩
    | some (fact, others) =>
      have := length_of_splitFirst? h
      attempts set now lookup others (exceptions ++ [fact.takeOut interrupted.failure])
termination_by facts.length
decreasing_by omega

/-- Evaluates a batch of facts against a set. Without a set or without rules in it the facts stay
as they are. -/
def evaluate (set : Option RuleSet) (now : Instant) (lookup : Option Lookup) (facts : List Fact) :
    Report :=
  match set with
  | none => { facts }
  | some set =>
    if set.isEmpty || facts.isEmpty then { facts } else set.attempts now lookup facts []

end RuleSet

end FisheryRules
