import FisheryRules.Evaluation.Batch
import FisheryRules.Proofs.Evaluation.Exhaustion

/-!
# Isolation of failures

A batch is evaluated without the facts on which a condition fails. `RuleSet.evaluate_isolates` says
which facts these are, what becomes of them, and that they leave no trace on the others: these come
out as if they had been the whole batch.

## Main definitions

* `RuleSet.failureOn` — the first failure of a condition on a fact.
* `Fact.excepted` — the fact as it is taken out for a failure.
-/
namespace FisheryRules

/-- The rule may fire on the fact at the instant, but its condition fails. -/
structure CompiledRule.FailsOn (rule : CompiledRule) (now : Instant) (lookup : Option Lookup)
    (fact : Fact) (error : EvalError) : Prop where
  active : rule.isActiveAt now = true
  factType : rule.factType = fact.factType
  test : rule.condition.test ⟨now, lookup⟩ fact.payload = .error error

/-- The failure of the condition of a rule on a fact, if the rule may fire at the instant and is one
for facts of this type. -/
def CompiledRule.failureOn (rule : CompiledRule) (now : Instant) (lookup : Option Lookup)
    (fact : Fact) : Option EvalFailure :=
  if rule.isActiveAt now && rule.factType == fact.factType then
    match rule.condition.test ⟨now, lookup⟩ fact.payload with
    | .error error => some ⟨rule.id, fact.id, error⟩
    | .ok _ => none
  else none

/-- The first failure on a fact, in the order of the rules. -/
def RuleSet.failureOn (set : RuleSet) (now : Instant) (lookup : Option Lookup) (fact : Fact) :
    Option EvalFailure :=
  set.rules.findSome? (·.failureOn now lookup fact)

/-- The fact is not ok any more and has a warning about the failure, once. -/
def Fact.excepted (fact : Fact) (failure : EvalFailure) : Fact :=
  let warning : Outcome := {
    severity := .warning
    message := failure.message
    ruleId := failure.ruleId
    level := "L099" }
  { fact with
    ok := false
    outcomes := if warning ∈ fact.outcomes then fact.outcomes else fact.outcomes ++ [warning] }

theorem CompiledRule.failureOn_eq_some_iff {rule : CompiledRule} {now : Instant}
    {lookup : Option Lookup} {fact : Fact} {failure : EvalFailure} :
    rule.failureOn now lookup fact = some failure ↔
      ∃ error, rule.FailsOn now lookup fact error ∧ failure = ⟨rule.id, fact.id, error⟩ := by
  unfold failureOn
  constructor
  · intro h
    split at h
    · next hfires =>
      simp only [Bool.and_eq_true, beq_iff_eq] at hfires
      split at h
      · next error htest =>
        cases h
        exact ⟨error, ⟨hfires.1, hfires.2, htest⟩, rfl⟩
      · cases h
    · cases h
  · rintro ⟨error, hfails, rfl⟩
    simp [hfails.active, hfails.factType, hfails.test]

theorem CompiledRule.failureOn_eq_none_iff {rule : CompiledRule} {now : Instant}
    {lookup : Option Lookup} {fact : Fact} :
    rule.failureOn now lookup fact = none ↔ ∀ error, ¬ rule.FailsOn now lookup fact error := by
  rw [Option.eq_none_iff_forall_ne_some]
  constructor
  · exact fun h error hfails => h _ (failureOn_eq_some_iff.2 ⟨error, hfails, rfl⟩)
  · intro h failure hfailure
    obtain ⟨error, hfails, -⟩ := failureOn_eq_some_iff.1 hfailure
    exact h error hfails

theorem Fact.takeOut_eq (fact : Fact) (failure : EvalFailure) :
    fact.takeOut failure = fact.excepted failure := by
  simp only [takeOut, addOutcome, excepted, EvalFailure.level, List.contains_iff_mem]

/-! ## The first failure of a scan -/

section FindSome

variable {α β γ : Type}

theorem findSome?_flatMap (xs : List α) (f : α → List β) (g : β → Option γ) :
    (xs.flatMap f).findSome? g = xs.findSome? fun x => (f x).findSome? g := by
  induction xs with
  | nil => rfl
  | cons x xs ih =>
    rw [List.flatMap_cons, List.findSome?_append, ih, List.findSome?_cons]
    cases (f x).findSome? g <;> rfl

theorem findSome?_filter (xs : List α) (p : α → Bool) (g : α → Option β) :
    (xs.filter p).findSome? g = xs.findSome? fun x => if p x then g x else none := by
  induction xs with
  | nil => rfl
  | cons x xs ih =>
    rw [List.filter_cons, List.findSome?_cons]
    split
    · rw [List.findSome?_cons, ih]
    · rw [ih]

theorem findSome?_zipIdx (xs : List α) (g : α → Option β) :
    (xs.zipIdx.findSome? fun (x, _) => g x) = xs.findSome? g := by
  have hfst : xs.zipIdx.map Prod.fst = xs := List.zipIdx_map_fst 0 xs
  rw [← hfst, List.findSome?_map, hfst]
  rfl

end FindSome

namespace Activation

/-- The failure of the condition on the fact. -/
def failure (context : EvalContext) (a : Activation) : Option EvalFailure :=
  match a.test context with
  | .error failure => some failure
  | .ok _ => none

theorem failureOn_eq (a : Activation) (now : Instant) (lookup : Option Lookup) :
    a.rule.failureOn now lookup a.fact =
      if a.rule.isActiveAt now then if a.isTyped then a.failure ⟨now, lookup⟩ else none
      else none := by
  rw [CompiledRule.failureOn, isTyped, failure, test]
  cases a.rule.isActiveAt now with
  | false => rfl
  | true =>
    cases a.rule.factType == a.fact.factType with
    | false => rfl
    | true => cases a.rule.condition.test ⟨now, lookup⟩ a.fact.payload <;> rfl

end Activation

/-- A scan fails with the first failure there is. -/
theorem plainScan_eq_error_iff {context : EvalContext} {fired others : List Activation}
    {failure : EvalFailure} :
    plainScan context fired others = .error failure ↔
      others.findSome? (·.failure context) = some failure := by
  induction others generalizing fired with
  | nil => simp [plainScan]
  | cons a others ih =>
    rw [plainScan, List.findSome?_cons, Activation.failure]
    cases a.test context with
    | error first => simp
    | ok holds =>
      simp only [ok_bind]
      split
      · exact ih
      · exact ih

namespace RuleSet

variable {set : RuleSet} {now : Instant} {lookup : Option Lookup} {facts : List Fact}

theorem failureOn_eq_none_iff {fact : Fact} :
    set.failureOn now lookup fact = none ↔
      ∀ rule ∈ set.rules, ∀ error, ¬ rule.FailsOn now lookup fact error := by
  simp only [failureOn, List.findSome?_eq_none_iff, CompiledRule.failureOn_eq_none_iff]

/-- The failure on a fact is that of the first rule whose condition fails. -/
theorem failureOn_eq_some_iff {fact : Fact} {failure : EvalFailure} :
    set.failureOn now lookup fact = some failure ↔
      ∃ before rule after error, set.rules = before ++ rule :: after ∧
        rule.FailsOn now lookup fact error ∧ failure = ⟨rule.id, fact.id, error⟩ ∧
        ∀ other ∈ before, ∀ error, ¬ other.FailsOn now lookup fact error := by
  simp only [failureOn, List.findSome?_eq_some_iff, CompiledRule.failureOn_eq_some_iff,
    CompiledRule.failureOn_eq_none_iff]
  constructor
  · rintro ⟨before, rule, after, hrules, ⟨error, hfails, heq⟩, hbefore⟩
    exact ⟨before, rule, after, error, hrules, hfails, heq, hbefore⟩
  · rintro ⟨before, rule, after, error, hrules, hfails, heq, hbefore⟩
    exact ⟨before, rule, after, hrules, ⟨error, hfails, heq⟩, hbefore⟩

/-- The first failure of the agenda is that of the first fact that has any. -/
theorem findSome?_agenda (set : RuleSet) (now : Instant) (lookup : Option Lookup)
    (facts : List Fact) :
    (set.agenda now facts).findSome? (·.failure ⟨now, lookup⟩) =
      facts.findSome? (set.failureOn now lookup) := by
  rw [agenda, findSome?_filter, pairs, findSome?_flatMap, ← findSome?_zipIdx facts]
  congr 1
  ext1 located
  obtain ⟨fact, factIndex⟩ := located
  simp only [failureOn]
  rw [← findSome?_zipIdx set.rules, List.findSome?_map, activeRules, findSome?_filter]
  congr 1
  ext1 numbered
  obtain ⟨rule, ruleIndex⟩ := numbered
  exact (Activation.failureOn_eq ⟨rule, ruleIndex, fact, factIndex⟩ now lookup).symm

/-- What a session does with facts on which no condition fails, and with others. -/
theorem fireAll_of_failureOn (set : RuleSet) (now : Instant) (lookup : Option Lookup)
    (facts : List Fact) :
    match facts.findSome? (set.failureOn now lookup) with
    | none => ∃ final, (Session.start set now lookup facts).fireAll = .ok final
    | some failure => ∃ state,
      (Session.start set now lookup facts).fireAll = .error ⟨state, failure⟩ := by
  have hagrees := Session.fireAll_start_agrees set now lookup facts
  rw [← findSome?_agenda]
  generalize (Session.start set now lookup facts).fireAll = result at hagrees ⊢
  generalize hscanned : plainScan ⟨now, lookup⟩ [] (set.agenda now facts) = scanned at hagrees
  cases hagrees with
  | error state failure =>
    rw [plainScan_eq_error_iff.1 hscanned]
    exact ⟨state, rfl⟩
  | @ok final fired _ =>
    cases hfirst : (set.agenda now facts).findSome? (·.failure ⟨now, lookup⟩) with
    | none => exact ⟨final, rfl⟩
    | some failure =>
      have hfails : plainScan ⟨now, lookup⟩ [] (set.agenda now facts) = .error failure :=
        plainScan_eq_error_iff.2 hfirst
      rw [hscanned] at hfails
      cases hfails

/-! ## Attempts -/

/-- An attempt at some facts succeeds when there is no failure on any of them, and otherwise ends
with that on the first fact that has one. -/
theorem attempt_cases (set : RuleSet) (now : Instant) (lookup : Option Lookup)
    (facts : List Fact) :
    (∃ final, (Session.start set now lookup facts).fireAll = .ok final ∧
      ∀ fact ∈ facts, set.failureOn now lookup fact = none) ∨
    ∃ before failing after state failure, facts = before ++ failing :: after ∧
      (Session.start set now lookup facts).fireAll = .error ⟨state, failure⟩ ∧
      set.failureOn now lookup failing = some failure ∧ failure.fact = failing.id ∧
      ∀ other ∈ before, set.failureOn now lookup other = none := by
  have hsession := fireAll_of_failureOn set now lookup facts
  cases hfirst : facts.findSome? (set.failureOn now lookup) with
  | none =>
    rw [hfirst] at hsession
    obtain ⟨final, hfinal⟩ := hsession
    exact .inl ⟨final, hfinal, List.findSome?_eq_none_iff.1 hfirst⟩
  | some failure =>
    rw [hfirst] at hsession
    obtain ⟨state, hfails⟩ := hsession
    obtain ⟨before, failing, after, hfacts, hfailing, hbefore⟩ :=
      List.findSome?_eq_some_iff.1 hfirst
    obtain ⟨_, _, _, _, -, -, hfailure, -⟩ := failureOn_eq_some_iff.1 hfailing
    exact .inr ⟨before, failing, after, state, failure, hfacts, hfails, hfailing,
      congrArg EvalFailure.fact hfailure, hbefore⟩

theorem failureOn_of_fireAll {final : Session}
    (h : (Session.start set now lookup facts).fireAll = .ok final) :
    ∀ fact ∈ facts, set.failureOn now lookup fact = none := by
  obtain ⟨_, -, hnone⟩ | ⟨_, _, _, _, _, -, hfails, -⟩ := attempt_cases set now lookup facts
  · exact hnone
  · cases h.symm.trans hfails

/-- The failure of an attempt is that on the first fact that has any. -/
theorem exists_failing {state : Session} {failure : EvalFailure}
    (h : (Session.start set now lookup facts).fireAll = .error ⟨state, failure⟩) :
    ∃ before failing after, facts = before ++ failing :: after ∧
      set.failureOn now lookup failing = some failure ∧ failure.fact = failing.id ∧
      ∀ other ∈ before, set.failureOn now lookup other = none := by
  obtain ⟨_, hfinal, -⟩ | ⟨before, failing, after, _, _, hfacts, hfails, hfailing⟩ :=
    attempt_cases set now lookup facts
  · cases h.symm.trans hfinal
  · cases h.symm.trans hfails
    exact ⟨before, failing, after, hfacts, hfailing⟩

theorem splitFirst?_append {fact : Fact} {before : List Fact} (after : List Fact)
    (h : ∀ other ∈ before, other.id ≠ fact.id) :
    splitFirst? fact.id (before ++ fact :: after) = some (fact, before ++ after) := by
  induction before with
  | nil => simp [splitFirst?]
  | cons first before ih =>
    obtain ⟨hfirst, hbefore⟩ := List.forall_mem_cons.1 h
    simp [splitFirst?, hfirst, ih hbefore]

/-- A fact on which a condition fails is taken out. -/
theorem attempts_of_failure {state : Session} {failure : EvalFailure} {fact : Fact}
    {others exceptions : List Fact}
    (hfails : (Session.start set now lookup facts).fireAll = .error ⟨state, failure⟩)
    (hsplit : splitFirst? failure.fact facts = some (fact, others)) :
    set.attempts now lookup facts exceptions =
      set.attempts now lookup others (exceptions ++ [fact.excepted failure]) := by
  rw [attempts, hfails]
  split
  · next hok => cases hok
  · next herror =>
    cases herror
    split
    · next hnone => cases hnone.symm.trans hsplit
    · next hsome =>
      cases hsome.symm.trans hsplit
      rw [Fact.takeOut_eq]

/-- Attempts take out the facts with a failure, one after the other, and end with the session of
the others. -/
theorem attempts_eq (set : RuleSet) (now : Instant) (lookup : Option Lookup) {facts : List Fact}
    (exceptions : List Fact) (hids : (facts.map (·.id)).Nodup) :
    ∃ final,
      (Session.start set now lookup
        (facts.filter fun fact => (set.failureOn now lookup fact).isNone)).fireAll = .ok final ∧
      set.attempts now lookup facts exceptions =
        ⟨final.facts, final.firings, exceptions ++
          facts.filterMap fun fact => (set.failureOn now lookup fact).map fact.excepted⟩ := by
  induction hlength : facts.length using Nat.strong_induction_on generalizing facts exceptions with
  | h n ih =>
    obtain ⟨final, hfinal, hnone⟩ |
      ⟨before, fact, after, state, failure, rfl, hfails, hfact, hid, hbefore⟩ :=
      attempt_cases set now lookup facts
    · have hunexcepted :
          facts.filterMap (fun fact => (set.failureOn now lookup fact).map fact.excepted) = [] :=
        List.filterMap_eq_nil_iff.2 fun fact hfact => by rw [hnone fact hfact]; rfl
      refine ⟨final, ?_, ?_⟩
      · rwa [List.filter_eq_self.2 fun fact hfact => by rw [hnone fact hfact]; rfl]
      · rw [attempts, hfinal, hunexcepted, List.append_nil]
    · have hothers : ∀ other ∈ before, other.id ≠ fact.id := by
        intro other hother heq
        rw [List.map_append, List.map_cons, List.nodup_append] at hids
        exact hids.2.2 _ (List.mem_map_of_mem hother) _ List.mem_cons_self heq
      have hsplit := splitFirst?_append after hothers
      have hrest : ((before ++ after).map (·.id)).Nodup :=
        hids.sublist ((List.Sublist.append_left (List.sublist_cons_self fact after) before).map _)
      obtain ⟨final, hfinal, hattempts⟩ := ih _ (by simp at hlength ⊢; omega)
        (exceptions ++ [fact.excepted failure]) hrest rfl
      have hexcepted : (before.filterMap fun other =>
          (set.failureOn now lookup other).map other.excepted) = [] :=
        List.filterMap_eq_nil_iff.2 fun other hother => by rw [hbefore other hother]; rfl
      refine ⟨final, ?_, ?_⟩
      · rw [← hfinal]
        simp [hfact]
      · rw [attempts_of_failure hfails (hid ▸ hsplit), hattempts]
        simp [hfact, hexcepted]

/-! ## Batches -/

/-- Without pairs a session leaves the facts as they are. -/
theorem fireAll_of_agenda_eq_nil (lookup : Option Lookup) (h : set.agenda now facts = []) :
    ∃ final, (Session.start set now lookup facts).fireAll = .ok final ∧ final.facts = facts ∧
      final.firings = [] := by
  have hagrees := Session.fireAll_start_agrees set now lookup facts
  rw [h, plainScan] at hagrees
  generalize (Session.start set now lookup facts).fireAll = result at hagrees ⊢
  cases hagrees with
  | ok hfollows =>
    exact ⟨_, rfl, hfollows.facts_eq.trans (markedFacts_nil facts), hfollows.firings_eq⟩

/-- Evaluating a batch comes to attempts, also when there is nothing to evaluate. -/
theorem evaluate_eq_attempts (set : RuleSet) (now : Instant) (lookup : Option Lookup)
    (facts : List Fact) :
    evaluate (some set) now lookup facts = set.attempts now lookup facts [] := by
  rw [evaluate]
  split
  · next hempty =>
    have hagenda : set.agenda now facts = [] := by
      simp only [isEmpty, Bool.or_eq_true, List.isEmpty_iff] at hempty
      obtain hrules | hfacts := hempty
      · simp [agenda, pairs, activeRules, hrules]
      · simp [agenda, pairs, hfacts]
    obtain ⟨final, hfinal, hfacts, hfirings⟩ := fireAll_of_agenda_eq_nil lookup hagenda
    have hreport : set.attempts now lookup facts [] = ⟨final.facts, final.firings, []⟩ := by
      rw [attempts, hfinal]
    rw [hreport, hfacts, hfirings]
  · rfl

/-- What comes out of a session are the facts that went in, but for their outcomes. -/
theorem facts_of_fireAll {final : Session}
    (h : (Session.start set now lookup facts).fireAll = .ok final) :
    List.Forall₂ (fun input output => ∃ outcomes ok, output = { input with outcomes, ok }) facts
      final.facts := by
  have hagrees := Session.fireAll_start_agrees set now lookup facts
  rw [h] at hagrees
  generalize plainScan ⟨now, lookup⟩ [] (set.agenda now facts) = scanned at hagrees
  cases hagrees with
  | ok hfollows => exact hfollows.facts_eq ▸ markedFacts_forall₂ facts _

/-- In a batch of facts with different ids, those that are taken out are those on which the
condition of an active rule for their type fails. Each has a warning of the first such rule besides
its own outcomes and is not ok, whatever has fired on it before it was taken out. The others are
evaluated, and fire, as if they had been the whole batch. -/
theorem evaluate_isolates (set : RuleSet) (now : Instant) (lookup : Option Lookup)
    (facts : List Fact) (hids : (facts.map (·.id)).Nodup) :
    let report := evaluate (some set) now lookup facts
    let remaining := facts.filter fun fact => (set.failureOn now lookup fact).isNone
    (∀ fact, set.failureOn now lookup fact = none ↔
      ∀ rule ∈ set.rules, ∀ error, ¬ rule.FailsOn now lookup fact error) ∧
    (∀ fact failure, set.failureOn now lookup fact = some failure ↔
      ∃ before rule after error, set.rules = before ++ rule :: after ∧
        rule.FailsOn now lookup fact error ∧ failure = ⟨rule.id, fact.id, error⟩ ∧
        ∀ other ∈ before, ∀ error, ¬ other.FailsOn now lookup fact error) ∧
    report.exceptions =
      (facts.filterMap fun fact => (set.failureOn now lookup fact).map fact.excepted) ∧
    List.Forall₂ (fun input output => ∃ outcomes ok, output = { input with outcomes, ok })
      remaining report.facts ∧
    ∃ final, (Session.start set now lookup remaining).fireAll = .ok final ∧
      report.facts = final.facts ∧ report.firings = final.firings := by
  intro report remaining
  obtain ⟨final, hfinal, hattempts⟩ := attempts_eq set now lookup [] hids
  have hreport : report = ⟨final.facts, final.firings,
      facts.filterMap fun fact => (set.failureOn now lookup fact).map fact.excepted⟩ :=
    (evaluate_eq_attempts set now lookup facts).trans hattempts
  refine ⟨fun _ => failureOn_eq_none_iff, fun _ _ => failureOn_eq_some_iff, ?_, ?_, final, hfinal,
    ?_, ?_⟩
  · rw [hreport]
  · rw [hreport]
    exact facts_of_fireAll hfinal
  · rw [hreport]
  · rw [hreport]

/-- Two vessels share a unique id, and the look-up of the flag of the first one fails without a
service. The rule that has fired on it by then fires on the second one all the same. -/
theorem evaluate_isolates_flagged :
    let position : CompiledRule := {
      id := "Position"
      name := "Position"
      factType := .movement
      condition := .literal (.bool true)
      effect := .custom "Position" "" }
    let flag : CompiledRule := {
      id := "Flag"
      name := "Flag"
      factType := .movement
      condition := .inList "FLAG_STATE" (.field ⟨6, "flagState", .text, some .flagState⟩)
      effect := .custom "Flag" "" }
    let set : RuleSet := ⟨1, "", "", [position, flag], [], .custom []⟩
    let ids : KeySet := KeySet.empty.insert "CFR"
    let flagged : Fact :=
      { id := .ofNat 1, payload := .movement { flagState := some "SWE" }, uniqueIds := ids }
    let unflagged : Fact := { id := .ofNat 2, payload := .movement {}, uniqueIds := ids }
    let report := evaluate (some set) .epoch none [flagged, unflagged]
    ([flagged, unflagged].map (·.id)).Nodup ∧
      report.exceptions = [flagged.excepted ⟨"Flag", flagged.id, .noLookup⟩] ∧
      ∃ final, (Session.start set .epoch none [unflagged]).fireAll = .ok final ∧
        report.firings = final.firings ∧
        final.firings.map (·.ruleId) = ["Position"] := by
  intro position flag set ids flagged unflagged report
  have hids : ([flagged, unflagged].map (·.id)).Nodup := by decide
  have hflagged : set.failureOn .epoch none flagged =
      some ⟨"Flag", flagged.id, .noLookup⟩ := by rfl
  have hunflagged : set.failureOn .epoch none unflagged = none := by cbv
  obtain ⟨-, -, hexceptions, -, final, hfinal, -, hfirings⟩ :=
    evaluate_isolates set .epoch none [flagged, unflagged] hids
  have hremaining : [flagged, unflagged].filter
      (fun fact => (set.failureOn .epoch none fact).isNone) = [unflagged] := by
    simp [hflagged, hunflagged]
  rw [hremaining] at hfinal
  refine ⟨hids, ?_, final, hfinal, hfirings, ?_⟩
  · simpa [hflagged, hunflagged] using hexceptions
  · have hfires : (Session.start set .epoch none [unflagged]).fireAll.toOption.map
        (·.firings.map (·.ruleId)) = some ["Position"] := by rfl
    simpa [hfinal, Except.toOption] using hfires

end RuleSet

end FisheryRules
