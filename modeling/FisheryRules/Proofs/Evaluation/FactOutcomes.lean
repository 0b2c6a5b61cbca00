import FisheryRules.Proofs.Evaluation.FiredRules
import FisheryRules.Proofs.Keys

/-!
# Outcomes of firings

A report tells the same thing twice: in the firings, and in the facts with their outcomes.
`RuleSet.evaluate_outcomes` says how the facts follow from the firings.

## Main definitions

* `Firing.outcome?` — the outcome that a firing tells of.
* `RuleEffect.isError` — whether a firing with this effect is an error.
* `Outcome.addTo` — outcomes with another one, unless it is among them.
-/
namespace FisheryRules

/-- The outcome that a firing of a rule with this description tells of. -/
def Firing.outcome? (firing : Firing) (description : Option String) : Option Outcome :=
  match firing.effect with
  | .alarm => some {
      severity := .error
      message := description.getD firing.ruleName
      ruleId := firing.ruleId
      level := "L00"
      fieldPath := "" }
  | .outcome severity level message fieldPath =>
    some { severity, message, ruleId := firing.ruleId, level, fieldPath }
  | .custom .. => none

/-- Whether a firing is an error. An alarm is one. -/
def RuleEffect.isError : RuleEffect → Bool
  | .alarm => true
  | .outcome severity .. => severity == .error
  | .custom .. => false

/-- Outcomes with another one, unless it is among them. -/
def Outcome.addTo (outcomes : List Outcome) (outcome : Outcome) : List Outcome :=
  if outcome ∈ outcomes then outcomes else outcomes ++ [outcome]

namespace Fact

theorem addOutcome_eq (fact : Fact) (outcome : Outcome) :
    fact.addOutcome outcome = { fact with
      outcomes := Outcome.addTo fact.outcomes outcome
      ok := fact.ok && outcome.severity != .error } := by
  simp only [addOutcome, Outcome.addTo, List.contains_iff_mem]

/-- What some rules leave on a fact: their outcomes, each once, and whether there is an error. -/
theorem markedBy_eq (fact : Fact) (rules : List CompiledRule) :
    fact.markedBy rules = { fact with
      outcomes := (rules.filterMap (·.outcome?)).foldl Outcome.addTo fact.outcomes
      ok := fact.ok && rules.all (!·.effect.isError) } := by
  induction rules generalizing fact with
  | nil => simp [markedBy]
  | cons rule rules ih =>
    rw [markedBy, List.foldl_cons, ← markedBy, ih, List.all_cons, CompiledRule.mark,
      CompiledRule.outcome?]
    cases heffect : rule.effect <;>
      simp [CompiledRule.outcome?, heffect, RuleEffect.isError, addOutcome_eq, Bool.and_assoc, bne]

end Fact

/-- The outcome that the firing of a rule tells of is the one that the rule attaches. -/
theorem CompiledRule.outcome?_firing (rule : CompiledRule) (category : RuleCategory)
    (now : Instant) (fact : Fact) :
    (rule.firing category now fact).outcome? rule.description = rule.outcome? := by
  rw [Firing.outcome?, CompiledRule.firing, CompiledRule.outcome?]
  cases rule.effect <;> rfl

/-- Of items grouped by keys, those of one key are the group of that key. -/
theorem filter_flatMap_of_nodup {α β κ : Type} [BEq κ] [LawfulBEq κ] {groups : List α}
    {keyOf : α → κ} {items : α → List β} {key : β → κ} (hkeys : (groups.map keyOf).Nodup)
    (hitems : ∀ group ∈ groups, ∀ item ∈ items group, key item = keyOf group) {group : α}
    (hgroup : group ∈ groups) :
    (groups.flatMap items).filter (key · == keyOf group) = items group := by
  induction groups with
  | nil => cases hgroup
  | cons first others ih =>
    obtain ⟨hfirst, hothers⟩ := List.forall_mem_cons.1 hitems
    obtain ⟨hnew, hkeys⟩ := List.nodup_cons.1 hkeys
    rw [List.flatMap_cons, List.filter_append]
    rcases List.mem_cons.1 hgroup with rfl | hgroup
    · have hrest : (others.flatMap items).filter (key · == keyOf group) = [] := by
        refine List.filter_eq_nil_iff.2 fun item hitem => ?_
        obtain ⟨other, hother, hitem⟩ := List.mem_flatMap.1 hitem
        rw [hothers other hother item hitem, beq_iff_eq]
        exact fun heq => hnew (heq ▸ List.mem_map_of_mem hother)
      rw [hrest, List.append_nil]
      exact List.filter_eq_self.2 fun item hitem => beq_iff_eq.2 (hfirst item hitem)
    · have hnone : (items first).filter (key · == keyOf group) = [] := by
        refine List.filter_eq_nil_iff.2 fun item hitem => ?_
        rw [hfirst item hitem, beq_iff_eq]
        exact fun heq => hnew (heq ▸ List.mem_map_of_mem hgroup)
      rw [hnone, List.nil_append]
      exact ih hkeys hothers hgroup

namespace RuleSet

variable {set : RuleSet} {now : Instant} {lookup : Option Lookup} {facts : List Fact}

/-- The only rule of an id is the one that is found for it. -/
theorem find?_of_nodup (hrules : (set.rules.map (·.id)).Nodup) {rule : CompiledRule}
    (h : rule ∈ set.rules) : set.find? rule.id = some rule :=
  find?_key_eq_some hrules h

/-- The firings of some rules, each of them on the fact it stands with, and each with its rule. -/
def ruleFirings (set : RuleSet) (now : Instant) (rows : List (Fact × List CompiledRule)) :
    List (CompiledRule × Firing) :=
  rows.flatMap fun row => row.2.map fun rule => (rule, rule.firing set.category now row.1)

theorem map_snd_ruleFirings (rows : List (Fact × List CompiledRule)) :
    (set.ruleFirings now rows).map Prod.snd = set.firingsOf now rows := by
  simp only [ruleFirings, firingsOf, List.map_flatMap, List.map_map, Function.comp_def]

theorem mem_ruleFirings {rows : List (Fact × List CompiledRule)} {rule : CompiledRule}
    {firing : Firing} (h : (rule, firing) ∈ set.ruleFirings now rows) :
    ∃ row ∈ rows, rule ∈ row.2 ∧ firing = rule.firing set.category now row.1 := by
  obtain ⟨row, hrow, hmem⟩ := List.mem_flatMap.1 h
  obtain ⟨_, hrule, heq⟩ := List.mem_map.1 hmem
  cases heq
  exact ⟨row, hrow, hrule, rfl⟩

/-- The firings on a fact are those of the rules it stands with. -/
theorem filter_ruleFirings {rows : List (Fact × List CompiledRule)}
    (hids : (rows.map (·.1.id)).Nodup) {row : Fact × List CompiledRule} (hrow : row ∈ rows) :
    (set.ruleFirings now rows).filter (fun pair => pair.2.factId == row.1.id) =
      row.2.map fun rule => (rule, rule.firing set.category now row.1) := by
  refine filter_flatMap_of_nodup (κ := Uuid) hids (fun other _ pair hpair => ?_) hrow
  obtain ⟨_, -, rfl⟩ := List.mem_map.1 hpair
  rfl

/-- The facts of a report are the facts of the batch on which no condition fails. Each has its own
outcomes and then, each once, those that its firings tell of, in the order of the firings; it is ok
if it was and no firing on it is an error. Nothing else of it has changed, and there are no firings
but on such facts. The rules are given with the firings, since a firing does not hold the
description of its rule; in a set without repeated ids they are the rules that the firings name. -/
theorem evaluate_outcomes (set : RuleSet) (now : Instant) (lookup : Option Lookup)
    (facts : List Fact) (hids : (facts.map (·.id)).Nodup) :
    let report := evaluate (some set) now lookup facts
    ∃ fired : List (CompiledRule × Firing),
      fired.map Prod.snd = report.firings ∧
      (∀ rule firing, (rule, firing) ∈ fired → rule ∈ set.rules ∧
        firing.ruleId = rule.id ∧ firing.ruleName = rule.name ∧ firing.effect = rule.effect) ∧
      ((set.rules.map (·.id)).Nodup →
        fired.map (some ·.1) = report.firings.map (set.find? ·.ruleId)) ∧
      List.Forall₂ (fun input fact =>
        let own := fired.filter fun (_, firing) => firing.factId == input.id
        fact = { input with
          outcomes := (own.filterMap fun (rule, firing) =>
            firing.outcome? rule.description).foldl Outcome.addTo input.outcomes
          ok := input.ok && own.all fun (_, firing) => !firing.effect.isError })
        (set.evaluable now lookup facts) report.facts ∧
      ∀ firing ∈ report.firings,
        ∃ fact ∈ report.facts, firing.factId = fact.id ∧ firing.fact = fact.payload := by
  intro report
  have hreport : report = _ := evaluate_eq_report set now lookup hids
  have hnodup : ((set.firedRules now lookup [] (set.evaluable now lookup facts)).map
      (·.1.id)).Nodup := by
    rw [map_id_firedRules]
    exact hids.sublist (List.filter_sublist.map _)
  have hinputs := set.map_fst_firedRules now lookup [] (set.evaluable now lookup facts)
  have hsubset : ∀ row ∈ set.firedRules now lookup [] (set.evaluable now lookup facts),
      row.2 ⊆ set.rules := fun row hrow => subset_of_mem_firedRules set now lookup hrow
  generalize set.firedRules now lookup [] (set.evaluable now lookup facts) = rows at *
  have hfirings : (set.ruleFirings now rows).map Prod.snd = report.firings := by
    rw [hreport, map_snd_ruleFirings]
  have hrule : ∀ rule firing, (rule, firing) ∈ set.ruleFirings now rows → rule ∈ set.rules ∧
      firing.ruleId = rule.id ∧ firing.ruleName = rule.name ∧ firing.effect = rule.effect := by
    intro rule firing hmem
    obtain ⟨row, hrow, hrule, rfl⟩ := mem_ruleFirings hmem
    exact ⟨hsubset row hrow hrule, rfl, rfl, rfl⟩
  refine ⟨set.ruleFirings now rows, hfirings, hrule, fun hrules => ?_, ?_, fun firing hfiring => ?_⟩
  · rw [← hfirings, List.map_map]
    refine List.map_congr_left fun (rule, firing) hmem => ?_
    obtain ⟨hmem, hid, -⟩ := hrule rule firing hmem
    rw [Function.comp_apply, hid, find?_of_nodup hrules hmem]
  · rw [hreport, ← hinputs, List.forall₂_map_left_iff, List.forall₂_map_right_iff]
    refine List.forall₂_same.2 fun row hrow => ?_
    rw [filter_ruleFirings hnodup hrow]
    refine (row.1.markedBy_eq row.2).trans ?_
    simp only [List.filterMap_map, List.all_map, Function.comp_def, CompiledRule.outcome?_firing]
    rfl
  · rw [← hfirings] at hfiring
    obtain ⟨⟨rule, _⟩, hmem, rfl⟩ := List.mem_map.1 hfiring
    obtain ⟨row, hrow, -, rfl⟩ := mem_ruleFirings hmem
    refine ⟨row.1.markedBy row.2, ?_, ?_⟩
    · rw [hreport]
      exact List.mem_map_of_mem hrow
    · rw [Fact.markedBy_eq]
      exact ⟨rfl, rfl⟩

/-- A warning that the fact has already is not attached again; the alarm after it is attached, with
the description of its rule. -/
theorem evaluate_outcomes_known :
    let known : Outcome :=
      { severity := .warning, message := "No speed", ruleId := "Speed", level := "L01" }
    let speed : CompiledRule := {
      id := "Speed"
      name := "Speed"
      factType := .movement
      condition := .literal (.bool true)
      effect := .outcome .warning "L01" "No speed" "" }
    let place : CompiledRule := {
      id := "Place"
      name := "Place"
      description := some "No place"
      factType := .movement
      condition := .literal (.bool true)
      effect := .alarm }
    let set : RuleSet := ⟨1, "", "", [speed, place], [], .sanity []⟩
    let fact : Fact := { id := .ofNat 1, payload := .movement {}, outcomes := [known] }
    let report := evaluate (some set) .epoch none [fact]
    ([fact].map (·.id)).Nodup ∧ report.firings.map (·.ruleId) = ["Speed", "Place"] ∧
      report.facts = [{ fact with
        outcomes := [known,
          { severity := .error, message := "No place", ruleId := "Place", level := "L00" }]
        ok := false }] := by
  intro known speed place set fact report
  have hids : ([fact].map (·.id)).Nodup := by decide
  obtain ⟨fired, hfirings, -, hrules, hfacts, -⟩ := evaluate_outcomes set .epoch none [fact] hids
  have hreport : report.firings =
      [speed.firing .sanity .epoch fact, place.firing .sanity .epoch fact] := by
    have hequal := evaluate_eq_report set .epoch none hids
    exact (congrArg Report.firings hequal).trans rfl
  have hevaluable : set.evaluable .epoch none [fact] = [fact] := by cbv
  have hfired : fired = [(speed, speed.firing .sanity .epoch fact),
      (place, place.firing .sanity .epoch fact)] := by
    have hrulesFound : fired.map (some ∘ Prod.fst) = [speed, place].map some := by
      refine (hrules (by decide)).trans ?_
      change report.firings.map (set.find? ·.ruleId) = _
      rw [hreport]
      rfl
    have hrulesFired : fired.map Prod.fst = [speed, place] := by
      rw [← List.map_map] at hrulesFound
      exact List.map_injective_iff.2 (Option.some_injective _) hrulesFound
    exact List.zip_of_prod hrulesFired (hfirings.trans hreport)
  refine ⟨hids, by rw [hreport]; rfl, ?_⟩
  rw [hevaluable, hfired] at hfacts
  obtain ⟨found, others, hfound, hothers, hall⟩ := List.forall₂_cons_left_iff.1 hfacts
  obtain rfl := List.forall₂_nil_left_iff.1 hothers
  exact hall.trans (by rw [hfound]; rfl)

end RuleSet

end FisheryRules
