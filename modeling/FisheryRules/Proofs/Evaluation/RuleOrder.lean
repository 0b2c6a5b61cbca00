import FisheryRules.Proofs.Evaluation.FactOutcomes

/-!
# The order of rules

The rules of a set are tried one after the other, and each attaches its outcomes to the facts that
the next ones see. `RuleSet.evaluate_perm` says that their order shows in nothing but the order of
the firings and of the outcomes.
-/
namespace FisheryRules

namespace Outcome

variable {known known' : List Outcome}

theorem addTo_perm (h : known.Perm known') (outcome : Outcome) :
    (addTo known outcome).Perm (addTo known' outcome) := by
  rw [addTo, addTo]
  by_cases hmem : outcome ∈ known
  · rwa [if_pos hmem, if_pos (h.mem_iff.1 hmem)]
  · rw [if_neg hmem, if_neg (mt h.mem_iff.2 hmem)]
    exact h.append_right _

theorem foldl_addTo_congr (h : known.Perm known') (outcomes : List Outcome) :
    (outcomes.foldl addTo known).Perm (outcomes.foldl addTo known') := by
  induction outcomes generalizing known known' with
  | nil => exact h
  | cons outcome outcomes ih => exact ih (addTo_perm h outcome)

theorem addTo_comm (known : List Outcome) (first second : Outcome) :
    (addTo (addTo known first) second).Perm (addTo (addTo known second) first) := by
  by_cases hsame : first = second
  · rw [hsame]
  · by_cases hfirst : first ∈ known <;> by_cases hsecond : second ∈ known <;>
      simp [addTo, hfirst, hsecond, hsame, Ne.symm hsame, List.perm_append_left_iff,
        List.Perm.swap]

/-- Outcomes that are attached in another order are the same up to order. -/
theorem foldl_addTo_perm {outcomes outcomes' : List Outcome} (h : outcomes.Perm outcomes') :
    (outcomes.foldl addTo known).Perm (outcomes'.foldl addTo known) := by
  induction h generalizing known with
  | nil => exact .refl _
  | cons outcome _ ih => exact ih
  | swap first second rest => exact foldl_addTo_congr (addTo_comm known second first) rest
  | trans _ _ ih ih' => exact ih.trans ih'

end Outcome

/-- Rules that mark a fact in another order leave the same outcomes on it, up to order. -/
theorem Fact.markedBy_perm (fact : Fact) {rules rules' : List CompiledRule}
    (h : rules'.Perm rules) :
    ∃ outcomes, outcomes.Perm (fact.markedBy rules).outcomes ∧
      fact.markedBy rules' = { fact.markedBy rules with outcomes } := by
  have hok : rules'.all (!·.effect.isError) = rules.all (!·.effect.isError) := by
    rw [Bool.eq_iff_iff, List.all_eq_true, List.all_eq_true]
    exact ⟨fun hall rule hrule => hall rule (h.mem_iff.2 hrule),
      fun hall rule hrule => hall rule (h.mem_iff.1 hrule)⟩
  refine ⟨(fact.markedBy rules').outcomes, ?_, ?_⟩
  · rw [markedBy_eq, markedBy_eq]
    exact Outcome.foldl_addTo_perm (h.filterMap _)
  · rw [markedBy_eq, markedBy_eq, hok]

namespace RuleSet

variable {set : RuleSet} {now : Instant} {lookup : Option Lookup} {rules : List CompiledRule}

/-- Whether some condition fails on a fact does not depend on the order of the rules. -/
theorem isNone_failureOn_perm (hrules : rules.Perm set.rules) (fact : Fact) :
    (({ set with rules } : RuleSet).failureOn now lookup fact).isNone =
      (set.failureOn now lookup fact).isNone := by
  rw [Bool.eq_iff_iff, Option.isNone_iff_eq_none, Option.isNone_iff_eq_none,
    failureOn_eq_none_iff, failureOn_eq_none_iff]
  exact ⟨fun hnone rule hrule => hnone rule (hrules.mem_iff.2 hrule),
    fun hnone rule hrule => hnone rule (hrules.mem_iff.1 hrule)⟩

/-- On every fact the same rules fire. -/
theorem firedRules_perm (now : Instant) (lookup : Option Lookup) (hrules : rules.Perm set.rules)
    (earlier facts : List Fact) :
    List.Forall₂ (fun row row' => row'.1 = row.1 ∧ row'.2.Perm row.2)
      (set.firedRules now lookup earlier facts)
      (({ set with rules } : RuleSet).firedRules now lookup earlier facts) := by
  induction facts generalizing earlier with
  | nil => exact .nil
  | cons fact others ih => exact .cons ⟨rfl, hrules.filter _⟩ (ih _)

/-- The firings of the same rules are the same, up to order. -/
theorem firingsOf_perm {rows rows' : List (Fact × List CompiledRule)}
    (h : List.Forall₂ (fun row row' => row'.1 = row.1 ∧ row'.2.Perm row.2) rows rows') :
    (set.firingsOf now rows').Perm (set.firingsOf now rows) := by
  induction h with
  | nil => exact .refl _
  | cons hrow _ ih =>
    obtain ⟨hfact, hrules⟩ := hrow
    rw [firingsOf, firingsOf, List.flatMap_cons, List.flatMap_cons, hfact]
    exact (hrules.map _).append ih

theorem map_id_markedBy (rows : List (Fact × List CompiledRule)) :
    (rows.map fun row => row.1.markedBy row.2).map (·.id) = rows.map (·.1.id) := by
  rw [List.map_map]
  exact List.map_congr_left fun row _ => by rw [Function.comp_apply, Fact.markedBy_eq]

/-- The ids of the facts that are taken out. -/
theorem map_id_excepted (facts : List Fact) :
    (facts.filterMap fun fact => (set.failureOn now lookup fact).map fact.excepted).map (·.id) =
      (facts.filter fun fact => (set.failureOn now lookup fact).isSome).map (·.id) := by
  induction facts with
  | nil => rfl
  | cons fact others ih =>
    cases hfailure : set.failureOn now lookup fact with
    | none => simp [hfailure, ih]
    | some failure => simp [hfailure, ih, Fact.excepted]

/-- A set whose rules are in another order evaluates the same facts of a batch and takes out the
same ones. It fires the same, up to order, and leaves the same on every fact, but for the order of
the outcomes. -/
theorem evaluate_perm (set : RuleSet) (now : Instant) (lookup : Option Lookup)
    (hrules : rules.Perm set.rules) (facts : List Fact) (hids : (facts.map (·.id)).Nodup) :
    let report := evaluate (some set) now lookup facts
    let report' := evaluate (some { set with rules }) now lookup facts
    report'.facts.map (·.id) = report.facts.map (·.id) ∧
      report'.exceptions.map (·.id) = report.exceptions.map (·.id) ∧
      report'.firings.Perm report.firings ∧
      List.Forall₂ (fun fact fact' => ∃ outcomes, outcomes.Perm fact.outcomes ∧
        fact' = { fact with outcomes }) report.facts report'.facts := by
  intro report report'
  have hreport : report = _ := evaluate_eq_report set now lookup hids
  have hreport' : report' = _ := evaluate_eq_report { set with rules } now lookup hids
  have hevaluable : ({ set with rules } : RuleSet).evaluable now lookup facts =
      set.evaluable now lookup facts :=
    List.filter_congr fun fact _ => isNone_failureOn_perm hrules fact
  rw [hevaluable] at hreport'
  have hrows := firedRules_perm now lookup hrules [] (set.evaluable now lookup facts)
  have hfacts : List.Forall₂ (fun fact fact' => ∃ outcomes, outcomes.Perm fact.outcomes ∧
      fact' = { fact with outcomes }) report.facts report'.facts := by
    rw [hreport, hreport', List.forall₂_map_left_iff, List.forall₂_map_right_iff]
    refine hrows.imp fun row row' hrow => ?_
    obtain ⟨hfact, hfired⟩ := hrow
    obtain ⟨outcomes, hperm, heq⟩ := row.1.markedBy_perm hfired
    exact ⟨outcomes, hperm, by rw [hfact, heq]⟩
  refine ⟨?_, ?_, ?_, hfacts⟩
  · rw [hreport, hreport', map_id_markedBy, map_id_markedBy, map_id_firedRules, map_id_firedRules]
  · rw [hreport, hreport', map_id_excepted, map_id_excepted]
    refine congrArg _ (List.filter_congr fun fact _ => ?_)
    rw [← Bool.not_inj_iff, Option.not_isSome, Option.not_isSome, isNone_failureOn_perm hrules]
  · rw [hreport, hreport']
    exact firingsOf_perm hrows

/-- Of two rules that fire on the first of two facts with a common unique id, neither fires on the
second one, whichever rule comes first. -/
theorem evaluate_perm_reversed :
    let speed : CompiledRule := {
      id := "Speed"
      name := "Speed"
      factType := .movement
      condition := .literal (.bool true)
      effect := .outcome .warning "L01" "No speed" "" }
    let place : CompiledRule := {
      id := "Place"
      name := "Place"
      factType := .movement
      condition := .literal (.bool true)
      effect := .alarm }
    let set : RuleSet := ⟨1, "", "", [speed, place], [], .sanity []⟩
    let ids : KeySet := KeySet.empty.insert "CFR"
    let facts : List Fact := [{ id := .ofNat 1, payload := .movement {}, uniqueIds := ids },
      { id := .ofNat 2, payload := .movement {}, uniqueIds := ids }]
    let report := evaluate (some set) .epoch none facts
    let report' := evaluate (some { set with rules := [place, speed] }) .epoch none facts
    [place, speed].Perm set.rules ∧ (facts.map (·.id)).Nodup ∧
      report'.facts.map (·.id) = report.facts.map (·.id) ∧
      report'.firings.Perm report.firings ∧
      report.firings.map (fun firing => (firing.ruleId, firing.factId)) =
        [("Speed", .ofNat 1), ("Place", .ofNat 1)] := by
  intro speed place set ids facts report report'
  have hrules : [place, speed].Perm set.rules := .swap _ _ _
  have hids : (facts.map (·.id)).Nodup := by decide
  obtain ⟨hfacts, -, hfirings, -⟩ := evaluate_perm set .epoch none hrules facts hids
  refine ⟨hrules, hids, hfacts, hfirings, ?_⟩
  have hreport : report = _ := evaluate_eq_report set .epoch none hids
  rw [hreport]
  rfl

end RuleSet

end FisheryRules
