import FisheryRules.Proofs.Evaluation.Attempts
import FisheryRules.Proofs.Evaluation.FiredRules

/-!
# Where firings come from

Whatever a batch consists of, and however many attempts it takes, a firing that is reported is that
of a rule of the set on a fact of the batch, and the rule is one for facts of that type:
`RuleSet.exists_rule_of_firing`.
-/
namespace FisheryRules

/-- The firing is that of a rule of the set on one of the facts, which is of the type that the rule
is for. -/
def RuleSet.Fires (set : RuleSet) (now : Instant) (facts : List Fact) (firing : Firing) : Prop :=
  ∃ rule ∈ set.rules, ∃ fact ∈ facts, rule.factType = fact.factType ∧
    firing = rule.firing set.category now fact

namespace RuleSet

variable {set : RuleSet} {now : Instant} {lookup : Option Lookup} {facts others : List Fact}
  {firing : Firing}

theorem Fires.mono (h : set.Fires now others firing) (hsub : others ⊆ facts) :
    set.Fires now facts firing := by
  obtain ⟨rule, hrule, fact, hfact, htype, hfiring⟩ := h
  exact ⟨rule, hrule, fact, hsub hfact, htype, hfiring⟩

/-- Pairs on the agenda fire for rules of the set on facts of the batch. -/
theorem fires_of_mem_agenda {a : Activation} (h : a ∈ set.agenda now facts) :
    set.Fires now facts (a.firing set.category now) := by
  obtain ⟨hpair, htyped⟩ := List.mem_filter.1 h
  obtain ⟨⟨fact, factIndex⟩, hfact, ha⟩ := List.mem_flatMap.1 hpair
  obtain ⟨⟨rule, ruleIndex⟩, hactive, rfl⟩ := List.mem_map.1 ha
  have hrule : rule ∈ set.rules := List.fst_mem_of_mem_zipIdx (List.mem_filter.1 hactive).1
  exact ⟨rule, hrule, fact, List.fst_mem_of_mem_zipIdx hfact, beq_iff_eq.1 htyped, rfl⟩

theorem fires_of_fireAll {final : Session}
    (h : (Session.start set now lookup facts).fireAll = .ok final) :
    ∀ firing ∈ final.firings, set.Fires now facts firing := by
  have hagrees := Session.fireAll_start_agrees set now lookup facts
  rw [h] at hagrees
  generalize plainScan ⟨now, lookup⟩ [] (set.agenda now facts) = scanned at hagrees
  cases hagrees with
  | ok hfollows =>
    intro firing hfiring
    rw [hfollows.firings_eq] at hfiring
    obtain ⟨a, ha, rfl⟩ := List.mem_map.1 hfiring
    exact fires_of_mem_agenda (hfollows.fired_visited a ha)

/-- Facts that are taken out leave fewer facts to fire on. -/
theorem Attempts.fires {count : Nat} {taken : List (Fact × EvalFailure)} {ending : Ending}
    (h : set.Attempts now lookup facts count taken ending) :
    ∀ firing ∈ ending.firings, set.Fires now facts firing := by
  induction h with
  | completed hok => exact fires_of_fireAll hok
  | takenOut _ hsplit _ ih =>
    exact fun firing hfiring => (ih firing hfiring).mono (splitFirst?_sublist hsplit).subset
  | astray => exact List.forall_mem_nil _

/-- A firing in a report is that of a rule of the set in service on a fact of the batch. -/
theorem exists_rule_of_firing {batchSet : Option RuleSet}
    (h : firing ∈ (evaluate batchSet now lookup facts).firings) :
    ∃ set, batchSet = some set ∧ set.Fires now facts firing := by
  obtain ⟨count, taken, ending, hevaluation⟩ := exists_evaluation batchSet now lookup facts
  rw [hevaluation.evaluate_eq] at h
  cases hevaluation with
  | withoutSet | idle => cases h
  | attempted _ hattempts => exact ⟨_, rfl, hattempts.fires firing h⟩

end RuleSet

end FisheryRules
