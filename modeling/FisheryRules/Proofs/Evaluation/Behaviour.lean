import FisheryRules.Proofs.Evaluation.Isolation

/-!
# What a rule set fires on

Whether a set fires on a fact depends on what its rules do, and neither on their order nor on what
they are called: `RuleSet.firesOn_congr`.

## Main definitions

* `CompiledRule.behaviour` — what a rule does.
* `RuleSet.FiresOn` — a set fires on a fact.
-/
namespace FisheryRules

/-- On facts of which type, under which condition and when a rule fires, and what follows. -/
structure Behaviour where
  factType : FactType
  condition : Condition
  intervals : List TimeInterval
  effect : RuleEffect

namespace CompiledRule

def behaviour (rule : CompiledRule) : Behaviour :=
  ⟨rule.factType, rule.condition, rule.intervals, rule.effect⟩

/-- The rule may fire on the fact at the instant, and its condition holds. -/
structure HoldsOn (rule : CompiledRule) (now : Instant) (lookup : Option Lookup)
    (fact : Fact) : Prop where
  active : rule.isActiveAt now = true
  factType : rule.factType = fact.factType
  test : rule.condition.test ⟨now, lookup⟩ fact.payload = .ok true

variable {rule other : CompiledRule} {now : Instant} {lookup : Option Lookup} {fact : Fact}

theorem isActiveAt_congr (h : rule.behaviour = other.behaviour) :
    rule.isActiveAt now = other.isActiveAt now := by
  rw [isActiveAt, isActiveAt, (Behaviour.mk.inj h).2.2.1]

theorem HoldsOn.congr (h : rule.behaviour = other.behaviour)
    (hholds : rule.HoldsOn now lookup fact) : other.HoldsOn now lookup fact := by
  obtain ⟨hfactType, hcondition, -, -⟩ := Behaviour.mk.inj h
  exact ⟨isActiveAt_congr h ▸ hholds.active, hfactType ▸ hholds.factType, hcondition ▸ hholds.test⟩

theorem FailsOn.congr {error : EvalError} (h : rule.behaviour = other.behaviour)
    (hfails : rule.FailsOn now lookup fact error) : other.FailsOn now lookup fact error := by
  obtain ⟨hfactType, hcondition, -, -⟩ := Behaviour.mk.inj h
  exact ⟨isActiveAt_congr h ▸ hfails.active, hfactType ▸ hfails.factType, hcondition ▸ hfails.test⟩

end CompiledRule

/-- A scan fires something when some condition holds: the first pair of which it does repeats no
other one. -/
theorem plainScan_ne_nil_iff {context : EvalContext} {others result : List Activation}
    (h : plainScan context [] others = .ok result) :
    result ≠ [] ↔ ∃ a ∈ others, a.test context = .ok true := by
  induction others with
  | nil =>
    cases h
    simp
  | cons a others ih =>
    obtain ⟨holds, htest, h⟩ := bind_eq_ok.1 h
    cases holds with
    | false => simpa [htest] using ih h
    | true =>
      obtain ⟨more, rfl, -⟩ := plainScan_sublist h
      simp [htest]

namespace RuleSet

variable {set : RuleSet} {now : Instant} {lookup : Option Lookup} {fact : Fact}

/-- The set fires on the fact when it is evaluated. -/
def FiresOn (set : RuleSet) (now : Instant) (lookup : Option Lookup) (fact : Fact) : Prop :=
  (evaluate (some set) now lookup [fact]).firings ≠ []

/-- The pairs of one fact whose conditions hold are its pairs with the rules that hold. -/
theorem exists_mem_agenda_iff :
    (∃ a ∈ set.agenda now [fact], a.test ⟨now, lookup⟩ = .ok true) ↔
      ∃ rule ∈ set.rules, rule.HoldsOn now lookup fact := by
  have hpairs : set.pairs now [fact] =
      (set.activeRules now).map fun numbered => ⟨numbered.1, numbered.2, fact, 0⟩ := by
    simp [pairs]
  constructor
  · rintro ⟨a, ha, htest⟩
    obtain ⟨hpair, htyped⟩ := List.mem_filter.1 ha
    rw [hpairs] at hpair
    obtain ⟨⟨rule, ruleIndex⟩, hrule, rfl⟩ := List.mem_map.1 hpair
    obtain ⟨hindex, hactive⟩ := List.mem_filter.1 hrule
    exact ⟨rule, List.mem_of_getElem? (List.mem_zipIdx_iff_getElem?.1 hindex), hactive,
      beq_iff_eq.1 htyped, mapError_eq_ok.1 htest⟩
  · rintro ⟨rule, hrule, hactive, hfactType, htest⟩
    obtain ⟨ruleIndex, hindex⟩ := List.mem_iff_getElem?.1 hrule
    have hmem : (rule, ruleIndex) ∈ set.activeRules now :=
      List.mem_filter.2 ⟨List.mem_zipIdx_iff_getElem?.2 hindex, hactive⟩
    refine ⟨⟨rule, ruleIndex, fact, 0⟩, List.mem_filter.2 ⟨?_, beq_iff_eq.2 hfactType⟩,
      mapError_eq_ok.2 htest⟩
    rw [hpairs]
    exact List.mem_map_of_mem hmem

/-- A session fires something when some condition holds. -/
theorem firings_ne_nil_iff {facts : List Fact} {final : Session}
    (h : (Session.start set now lookup facts).fireAll = .ok final) :
    final.firings ≠ [] ↔ ∃ a ∈ set.agenda now facts, a.test ⟨now, lookup⟩ = .ok true := by
  have hagrees := Session.fireAll_start_agrees set now lookup facts
  rw [h] at hagrees
  generalize hscanned : plainScan ⟨now, lookup⟩ [] (set.agenda now facts) = scanned at hagrees
  cases hagrees with
  | @ok _ fired hfollows =>
    rw [hfollows.firings_eq, ne_eq, List.map_eq_nil_iff]
    exact plainScan_ne_nil_iff hscanned

/-- A set fires on a fact on which no condition fails and some condition holds. -/
theorem firesOn_iff :
    set.FiresOn now lookup fact ↔
      (∀ rule ∈ set.rules, ∀ error, ¬ rule.FailsOn now lookup fact error) ∧
        ∃ rule ∈ set.rules, rule.HoldsOn now lookup fact := by
  have hids : ([fact].map (·.id)).Nodup := List.nodup_singleton _
  obtain ⟨final, hfinal, hattempts⟩ := attempts_eq set now lookup [] hids
  have hfirings : (evaluate (some set) now lookup [fact]).firings = final.firings := by
    rw [evaluate_eq_attempts, hattempts]
  rw [FiresOn, hfirings, ← failureOn_eq_none_iff, firings_ne_nil_iff hfinal]
  cases hfailure : set.failureOn now lookup fact with
  | none => simpa [hfailure] using exists_mem_agenda_iff
  | some failure => simp [hfailure, agenda, pairs]

/-- What a set fires on depends on what its rules do, in any order. -/
theorem firesOn_congr {a b : RuleSet}
    (h : (a.rules.map CompiledRule.behaviour).Perm (b.rules.map CompiledRule.behaviour)) :
    a.FiresOn now lookup fact ↔ b.FiresOn now lookup fact := by
  have hsame {a b : RuleSet}
      (h : (a.rules.map CompiledRule.behaviour).Perm (b.rules.map CompiledRule.behaviour)) :
      ∀ rule ∈ a.rules, ∃ other ∈ b.rules, other.behaviour = rule.behaviour := fun rule hrule =>
    List.mem_map.1 (h.mem_iff.1 (List.mem_map_of_mem hrule))
  have hone {a b : RuleSet}
      (h : (a.rules.map CompiledRule.behaviour).Perm (b.rules.map CompiledRule.behaviour))
      (hfires : a.FiresOn now lookup fact) : b.FiresOn now lookup fact := by
    obtain ⟨hnone, rule, hrule, hholds⟩ := firesOn_iff.1 hfires
    refine firesOn_iff.2 ⟨fun other hother error hfails => ?_, ?_⟩
    · obtain ⟨rule, hrule, heq⟩ := hsame h.symm other hother
      exact hnone rule hrule error (hfails.congr heq.symm)
    · obtain ⟨other, hother, heq⟩ := hsame h rule hrule
      exact ⟨other, hother, hholds.congr heq.symm⟩
  exact ⟨hone h, hone h.symm⟩

/-- A set of one rule that may fire at any instant fires on a fact of which the condition holds. -/
theorem firesOn_of_behaviour {condition : Condition} {effect : RuleEffect}
    (h : (set.rules.map CompiledRule.behaviour).Perm [⟨fact.factType, condition, [], effect⟩])
    (htest : condition.test ⟨now, lookup⟩ fact.payload = .ok true) :
    set.FiresOn now lookup fact := by
  have hrules : set.rules.map CompiledRule.behaviour = [⟨fact.factType, condition, [], effect⟩] :=
    List.perm_singleton.1 h
  obtain ⟨rule, hrule, hbehaviour⟩ := List.map_eq_singleton_iff.1 hrules
  obtain ⟨hfactType, hcondition, hintervals, -⟩ := Behaviour.mk.inj hbehaviour
  have hactive : rule.isActiveAt now = true := by rw [CompiledRule.isActiveAt, hintervals]; rfl
  rw [firesOn_iff, hrule, List.forall_mem_singleton]
  refine ⟨fun error hfails => ?_, rule, List.mem_cons_self, hactive, hfactType, hcondition ▸ htest⟩
  cases htest.symm.trans (hcondition ▸ hfails.test)

/-- Something that a set does has a condition that holds of a fact on which it fires. -/
theorem FiresOn.exists_behaviour (h : set.FiresOn now lookup fact) :
    ∃ behaviour ∈ set.rules.map CompiledRule.behaviour,
      behaviour.condition.test ⟨now, lookup⟩ fact.payload = .ok true := by
  obtain ⟨-, rule, hrule, hholds⟩ := firesOn_iff.1 h
  exact ⟨rule.behaviour, List.mem_map_of_mem hrule, hholds.test⟩

end RuleSet

end FisheryRules
