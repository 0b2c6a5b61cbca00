import FisheryRules.Proofs.Evaluation.Isolation

/-!
# The rules that fire on each fact

Whether a rule fires on a fact of a batch depends on the rule, on the fact and on the facts before
it, and not on the other rules. So a report can be written down fact by fact:
`RuleSet.evaluate_eq_report`.

## Main definitions

* `CompiledRule.firesOn`, `CompiledRule.firesAfter` — the facts on which one rule fires, and
  whether it fires on the next one.
* `RuleSet.firedRules` — the facts of a batch, each with the rules that fire on it.
* `Fact.markedBy` — a fact after some rules have fired on it.
-/
namespace FisheryRules

namespace CompiledRule

/-- Whether the rule may fire on the fact at the instant and its condition holds. -/
def holds (rule : CompiledRule) (now : Instant) (lookup : Option Lookup) (fact : Fact) : Bool :=
  rule.isActiveAt now && rule.factType == fact.factType &&
    (rule.condition.test ⟨now, lookup⟩ fact.payload).toOption == some true

/-- The facts on which the rule fires: those of which its condition holds, but for those that share
a unique id with an earlier one on which it fires. -/
def firesOn (rule : CompiledRule) (now : Instant) (lookup : Option Lookup) (facts : List Fact) :
    List Fact :=
  facts.foldl (fun fired fact =>
    if rule.holds now lookup fact && !fired.any fact.shares then fired ++ [fact] else fired) []

/-- Whether the rule keeps silent on a fact because it fires on one of some earlier facts that
shares a unique id with it. -/
def isSilentAfter (rule : CompiledRule) (now : Instant) (lookup : Option Lookup)
    (earlier : List Fact) (fact : Fact) : Bool :=
  (rule.firesOn now lookup earlier).any fact.shares

/-- Whether the rule fires on a fact that comes after some others. -/
def firesAfter (rule : CompiledRule) (now : Instant) (lookup : Option Lookup)
    (earlier : List Fact) (fact : Fact) : Bool :=
  rule.holds now lookup fact && !rule.isSilentAfter now lookup earlier fact

variable (rule : CompiledRule) (now : Instant) (lookup : Option Lookup)

@[simp] theorem firesOn_nil : rule.firesOn now lookup [] = [] := rfl

theorem firesOn_append_singleton (facts : List Fact) (fact : Fact) :
    rule.firesOn now lookup (facts ++ [fact]) =
      rule.firesOn now lookup facts ++
        if rule.firesAfter now lookup facts fact then [fact] else [] := by
  rw [firesOn, List.foldl_append, ← firesOn, List.foldl_cons, List.foldl_nil, firesAfter,
    isSilentAfter]
  split <;> simp

/-- A rule that fires on a fact is active, and one for facts of its type. -/
theorem applies_of_firesAfter {rule : CompiledRule} {now : Instant} {lookup : Option Lookup}
    {earlier : List Fact} {fact : Fact} (h : rule.firesAfter now lookup earlier fact = true) :
    rule.isActiveAt now = true ∧ rule.factType = fact.factType := by
  simp only [firesAfter, holds, Bool.and_eq_true, beq_iff_eq] at h
  exact h.1.1

end CompiledRule

/-- The fact after some rules have fired on it, one after the other. -/
def Fact.markedBy (fact : Fact) (rules : List CompiledRule) : Fact :=
  rules.foldl (fun fact rule => rule.mark fact) fact

namespace RuleSet

variable (set : RuleSet) (now : Instant) (lookup : Option Lookup)

/-- Facts that come after some others, each with the rules that fire on it. -/
def firedRules (earlier : List Fact) : List Fact → List (Fact × List CompiledRule)
  | [] => []
  | fact :: others =>
    (fact, set.rules.filter (·.firesAfter now lookup earlier fact)) ::
      firedRules (earlier ++ [fact]) others

theorem firedRules_append (earlier xs ys : List Fact) :
    set.firedRules now lookup earlier (xs ++ ys) =
      set.firedRules now lookup earlier xs ++ set.firedRules now lookup (earlier ++ xs) ys := by
  induction xs generalizing earlier with
  | nil => simp [firedRules]
  | cons fact xs ih => simp [firedRules, ih]

@[simp] theorem map_fst_firedRules (earlier facts : List Fact) :
    (set.firedRules now lookup earlier facts).map Prod.fst = facts := by
  induction facts generalizing earlier with
  | nil => rfl
  | cons fact others ih => rw [firedRules, List.map_cons, ih]

theorem map_id_firedRules (earlier facts : List Fact) :
    (set.firedRules now lookup earlier facts).map (·.1.id) = facts.map (·.id) := by
  conv_rhs => rw [← set.map_fst_firedRules now lookup earlier facts, List.map_map]
  rfl

theorem subset_of_mem_firedRules {earlier facts : List Fact} {fact : Fact}
    {rules : List CompiledRule} (h : (fact, rules) ∈ set.firedRules now lookup earlier facts) :
    rules ⊆ set.rules := by
  induction facts generalizing earlier with
  | nil => cases h
  | cons first others ih =>
    rcases List.mem_cons.1 h with heq | h
    · cases heq
      exact List.filter_sublist.subset
    · exact ih h

/-- The firings of some rules, each of them on the fact it stands with. -/
def firingsOf (fired : List (Fact × List CompiledRule)) : List Firing :=
  fired.flatMap fun row => row.2.map (·.firing set.category now row.1)

end RuleSet

/-! ## The scan, fact by fact -/

/-- When no pair repeats another one of the same list, which of them fire depends on those before
the list only. -/
theorem plainScan_eq_filter {context : EvalContext} {fired others result : List Activation}
    (h : plainScan context fired others = .ok result)
    (hapart : ∀ a ∈ others, ∀ b ∈ others, a.repeats b = false) :
    result = fired ++ others.filter fun a =>
      (a.test context).toOption == some true && !fired.any a.repeats := by
  induction others generalizing fired with
  | nil =>
    cases h
    simp
  | cons a others ih =>
    obtain ⟨holds, htest, h⟩ := bind_eq_ok.1 h
    have hothers : ∀ b ∈ others, ∀ c ∈ others, b.repeats c = false := fun b hb c hc =>
      hapart b (List.mem_cons_of_mem a hb) c (List.mem_cons_of_mem a hc)
    split at h
    · next hfires =>
      obtain ⟨rfl, hfirst⟩ := Bool.and_eq_true_iff.1 hfires
      have hsame : ∀ b ∈ others, (fired ++ [a]).any b.repeats = fired.any b.repeats := by
        intro b hb
        simp [hapart b (List.mem_cons_of_mem a hb) a List.mem_cons_self]
      rw [ih h hothers, List.filter_cons_of_pos (by simpa [htest, Except.toOption] using hfirst),
        List.filter_congr fun b hb => by rw [hsame b hb]]
      simp
    · next hsilent =>
      have hfirst : ((a.test context).toOption == some true && !fired.any a.repeats) = false := by
        rw [htest]
        simpa [Except.toOption] using hsilent
      rw [ih h hothers, List.filter_cons_of_neg (by simp [hfirst])]

namespace RuleSet

variable {set : RuleSet} {now : Instant} {lookup : Option Lookup} {facts : List Fact}

/-- The pairs of one fact with the active rules for facts of its type. -/
def agendaAt (set : RuleSet) (now : Instant) (fact : Fact) (factIndex : Nat) : List Activation :=
  ((set.activeRules now).map fun (rule, ruleIndex) =>
    (⟨rule, ruleIndex, fact, factIndex⟩ : Activation)).filter (·.isTyped)

theorem agenda_append_singleton (facts : List Fact) (fact : Fact) :
    set.agenda now (facts ++ [fact]) =
      set.agenda now facts ++ set.agendaAt now fact facts.length := by
  simp [agenda, pairs, agendaAt, List.zipIdx_append]

theorem mem_agendaAt {fact : Fact} {factIndex : Nat} {a : Activation} :
    a ∈ set.agendaAt now fact factIndex ↔
      set.rules[a.ruleIndex]? = some a.rule ∧ a.fact = fact ∧ a.factIndex = factIndex ∧
        a.rule.isActiveAt now = true ∧ a.rule.factType = fact.factType := by
  simp only [agendaAt, activeRules, List.mem_filter, List.mem_map, List.mem_zipIdx_iff_getElem?,
    Activation.isTyped, beq_iff_eq]
  constructor
  · rintro ⟨⟨⟨rule, ruleIndex⟩, ⟨hrule, hactive⟩, rfl⟩, htyped⟩
    exact ⟨hrule, rfl, rfl, hactive, htyped⟩
  · rintro ⟨hrule, rfl, rfl, hactive, htyped⟩
    exact ⟨⟨(a.rule, a.ruleIndex), ⟨hrule, hactive⟩, rfl⟩, htyped⟩

/-- The pairs of the next fact that fire. -/
def nextPairs (set : RuleSet) (now : Instant) (lookup : Option Lookup) (facts : List Fact)
    (fact : Fact) : List Activation :=
  (set.agendaAt now fact facts.length).filter (·.rule.firesAfter now lookup facts fact)

theorem mem_nextPairs {fact : Fact} {a : Activation} :
    a ∈ set.nextPairs now lookup facts fact ↔
      set.rules[a.ruleIndex]? = some a.rule ∧ a.fact = fact ∧ a.factIndex = facts.length ∧
        a.rule.firesAfter now lookup facts fact = true := by
  rw [nextPairs, List.mem_filter, mem_agendaAt]
  constructor
  · rintro ⟨⟨hrule, hfact, hindex, -, -⟩, hfires⟩
    exact ⟨hrule, hfact, hindex, hfires⟩
  · rintro ⟨hrule, hfact, hindex, hfires⟩
    obtain ⟨hactive, htyped⟩ := CompiledRule.applies_of_firesAfter hfires
    exact ⟨⟨hrule, hfact, hindex, hactive, htyped⟩, hfires⟩

/-- The rules of these pairs are those that fire on the fact, in their order. -/
theorem map_rule_nextPairs (fact : Fact) :
    (set.nextPairs now lookup facts fact).map (·.rule) =
      set.rules.filter (·.firesAfter now lookup facts fact) := by
  have happlies (rule : CompiledRule) : (rule.firesAfter now lookup facts fact &&
      (rule.factType == fact.factType && rule.isActiveAt now)) =
        rule.firesAfter now lookup facts fact := by
    rw [Bool.and_eq_left_iff_imp]
    intro hfires
    obtain ⟨hactive, htyped⟩ := CompiledRule.applies_of_firesAfter hfires
    simp [hactive, htyped]
  have hrules : set.rules.zipIdx.map Prod.fst = set.rules := List.zipIdx_map_fst 0 _
  calc (set.nextPairs now lookup facts fact).map (·.rule)
      = (set.rules.zipIdx.filter
          ((·.firesAfter now lookup facts fact) ∘ Prod.fst)).map Prod.fst := by
        simp only [nextPairs, agendaAt, activeRules, Activation.isTyped, List.filter_map,
          List.filter_filter, List.map_map, Function.comp_def, happlies]
    _ = (set.rules.zipIdx.map Prod.fst).filter (·.firesAfter now lookup facts fact) :=
        List.filter_map.symm
    _ = set.rules.filter (·.firesAfter now lookup facts fact) := by rw [hrules]

/-- Firings on one more fact mark this fact and leave the others as they are. -/
theorem markedFacts_append_singleton_append {fired block : List Activation} (fact : Fact)
    (hfired : ∀ a ∈ fired, a.factIndex < facts.length)
    (hblock : ∀ a ∈ block, a.factIndex = facts.length) :
    markedFacts (facts ++ [fact]) (fired ++ block) =
      markedFacts facts fired ++ [fact.marked block] := by
  have hlast : (fired ++ block).filter (·.factIndex == facts.length) = block := by
    have hfiredNil : fired.filter (·.factIndex == facts.length) = [] :=
      List.filter_eq_nil_iff.2 fun a ha => by simpa using (hfired a ha).ne
    rw [List.filter_append, hfiredNil, List.nil_append]
    exact List.filter_eq_self.2 fun a ha => beq_iff_eq.2 (hblock a ha)
  have hothers : markedFacts facts (fired ++ block) = markedFacts facts fired := by
    refine List.mapIdx_eq_mapIdx_iff.2 fun i hi => ?_
    have hblockNil : block.filter (·.factIndex == i) = [] :=
      List.filter_eq_nil_iff.2 fun a ha => by simpa [hblock a ha] using hi.ne'
    rw [List.filter_append, hblockNil, List.append_nil]
  rw [← hothers, markedFacts, List.mapIdx_concat, hlast]
  rfl

/-- What is known of the pairs that have fired when some facts have been scanned: whom every rule
has fired on, which firings that makes, and what has become of the facts. -/
structure Tallies (set : RuleSet) (now : Instant) (lookup : Option Lookup) (facts : List Fact)
    (fired : List Activation) : Prop where
  factIndex_lt : ∀ a ∈ fired, a.factIndex < facts.length
  firesOn : ∀ rule ruleIndex, set.rules[ruleIndex]? = some rule → ∀ fact,
    (∃ a ∈ fired, a.ruleIndex = ruleIndex ∧ a.fact = fact) ↔ fact ∈ rule.firesOn now lookup facts
  firings_eq : fired.map (·.firing set.category now) =
    set.firingsOf now (set.firedRules now lookup [] facts)
  markedFacts_eq : markedFacts facts fired =
    (set.firedRules now lookup [] facts).map fun row => row.1.markedBy row.2

namespace Tallies

variable {fired : List Activation} {fact : Fact}

/-- A pair of the next fact repeats one that has fired just when its rule has fired on a fact that
shares a unique id with it. -/
theorem any_repeats (h : set.Tallies now lookup facts fired) {a : Activation}
    (ha : a ∈ set.agendaAt now fact facts.length) :
    fired.any a.repeats = a.rule.isSilentAfter now lookup facts fact := by
  obtain ⟨hrule, rfl, hindex, -, -⟩ := mem_agendaAt.1 ha
  rw [CompiledRule.isSilentAfter, Bool.eq_iff_iff, List.any_eq_true, List.any_eq_true]
  constructor
  · rintro ⟨b, hb, hrepeats⟩
    simp only [Activation.repeats, Bool.and_eq_true, beq_iff_eq] at hrepeats
    exact ⟨b.fact, (h.firesOn _ _ hrule b.fact).1 ⟨b, hb, hrepeats.1.1, rfl⟩, hrepeats.2⟩
  · rintro ⟨other, hother, hshares⟩
    obtain ⟨b, hb, hsame, rfl⟩ := (h.firesOn _ _ hrule other).2 hother
    refine ⟨b, hb, ?_⟩
    simp only [Activation.repeats, Bool.and_eq_true, beq_iff_eq, decide_eq_true_eq]
    exact ⟨⟨hsame, hindex ▸ h.factIndex_lt b hb⟩, hshares⟩

/-- A scan of the pairs of the next fact lets those fire whose rules fire on the fact. -/
theorem scan_eq (h : set.Tallies now lookup facts fired) {result : List Activation}
    (hscan : plainScan ⟨now, lookup⟩ fired (set.agendaAt now fact facts.length) = .ok result) :
    result = fired ++ set.nextPairs now lookup facts fact := by
  rw [plainScan_eq_filter hscan, nextPairs]
  · refine congrArg _ (List.filter_congr fun a ha => ?_)
    obtain ⟨-, rfl, -, hactive, htyped⟩ := mem_agendaAt.1 ha
    rw [h.any_repeats ha, CompiledRule.firesAfter, CompiledRule.holds, Activation.test,
      toOption_mapError, hactive, htyped]
    simp
  · intro a ha b hb
    simp [Activation.repeats, (mem_agendaAt.1 ha).2.2.1, (mem_agendaAt.1 hb).2.2.1]

/-- Whom every rule has fired on when one more fact has been scanned. -/
theorem firesOn_append (h : set.Tallies now lookup facts fired) {rule : CompiledRule}
    {ruleIndex : Nat} (hrule : set.rules[ruleIndex]? = some rule) (other : Fact) :
    (∃ a ∈ fired ++ set.nextPairs now lookup facts fact, a.ruleIndex = ruleIndex ∧
      a.fact = other) ↔ other ∈ rule.firesOn now lookup (facts ++ [fact]) := by
  rw [CompiledRule.firesOn_append_singleton, List.mem_append, ← h.firesOn rule ruleIndex hrule]
  constructor
  · rintro ⟨a, ha, rfl, rfl⟩
    rcases List.mem_append.1 ha with ha | ha
    · exact .inl ⟨a, ha, rfl, rfl⟩
    · obtain ⟨hindex, hfact, -, hfires⟩ := mem_nextPairs.1 ha
      obtain rfl : rule = a.rule := Option.some.inj (hrule.symm.trans hindex)
      right
      rw [if_pos hfires, hfact]
      exact List.mem_singleton_self fact
  · rintro (⟨a, ha, hindex, hfact⟩ | hother)
    · exact ⟨a, List.mem_append_left _ ha, hindex, hfact⟩
    · split at hother
      · next hfires =>
        obtain rfl := List.mem_singleton.1 hother
        exact ⟨⟨rule, ruleIndex, other, facts.length⟩, List.mem_append_right _
          (mem_nextPairs.2 ⟨hrule, rfl, rfl, hfires⟩), rfl, rfl⟩
      · cases hother

/-- One more fact is scanned. -/
theorem append_singleton (h : set.Tallies now lookup facts fired) :
    set.Tallies now lookup (facts ++ [fact]) (fired ++ set.nextPairs now lookup facts fact) := by
  have hnext : set.firedRules now lookup [] (facts ++ [fact]) =
      set.firedRules now lookup [] facts ++
        [(fact, (set.nextPairs now lookup facts fact).map (·.rule))] := by
    rw [firedRules_append, map_rule_nextPairs]
    rfl
  constructor
  case factIndex_lt =>
    intro a ha
    rw [List.length_append, List.length_singleton]
    rcases List.mem_append.1 ha with ha | ha
    · have := h.factIndex_lt a ha
      omega
    · have := (mem_nextPairs.1 ha).2.2.1
      omega
  case firesOn => exact fun rule ruleIndex hrule other => h.firesOn_append hrule other
  case firings_eq =>
    have hfirings : (set.nextPairs now lookup facts fact).map (·.firing set.category now) =
        ((set.nextPairs now lookup facts fact).map (·.rule)).map
          (·.firing set.category now fact) := by
      rw [List.map_map]
      refine List.map_congr_left fun a ha => ?_
      rw [Activation.firing, (mem_nextPairs.1 ha).2.1]
      rfl
    rw [hnext, List.map_append, h.firings_eq, hfirings]
    simp [firingsOf]
  case markedFacts_eq =>
    rw [hnext, List.map_append, ← h.markedFacts_eq, markedFacts_append_singleton_append fact
      h.factIndex_lt fun a ha => (mem_nextPairs.1 ha).2.2.1]
    simp [Fact.markedBy, Fact.marked, List.foldl_map]

end Tallies

/-- What a scan of the whole agenda comes to. -/
theorem tallies_of_plainScan {fired : List Activation}
    (h : plainScan ⟨now, lookup⟩ [] (set.agenda now facts) = .ok fired) :
    set.Tallies now lookup facts fired := by
  induction facts using List.reverseRecOn generalizing fired with
  | nil =>
    cases h
    constructor <;> simp [firingsOf, firedRules]
  | append_singleton facts fact ih =>
    rw [agenda_append_singleton, plainScan_append] at h
    obtain ⟨before, hbefore, h⟩ := bind_eq_ok.1 h
    rw [(ih hbefore).scan_eq h]
    exact (ih hbefore).append_singleton

/-! ## The report -/

/-- The facts of a batch on which no condition fails. -/
def evaluable (set : RuleSet) (now : Instant) (lookup : Option Lookup) (facts : List Fact) :
    List Fact :=
  facts.filter fun fact => (set.failureOn now lookup fact).isNone

/-- The report on a batch, fact by fact. -/
theorem evaluate_eq_report (set : RuleSet) (now : Instant) (lookup : Option Lookup)
    (hids : (facts.map (·.id)).Nodup) :
    let fired := set.firedRules now lookup [] (set.evaluable now lookup facts)
    evaluate (some set) now lookup facts =
      ⟨fired.map fun row => row.1.markedBy row.2, set.firingsOf now fired,
        facts.filterMap fun fact => (set.failureOn now lookup fact).map fact.excepted⟩ := by
  intro fired
  obtain ⟨final, hfinal, hattempts⟩ := attempts_eq set now lookup [] hids
  have hagrees := Session.fireAll_start_agrees set now lookup (set.evaluable now lookup facts)
  rw [evaluable, hfinal] at hagrees
  generalize hscan : plainScan ⟨now, lookup⟩ [] _ = scanned at hagrees
  cases hagrees with
  | ok hfollows =>
    have htallies := tallies_of_plainScan hscan
    rw [evaluate_eq_attempts, hattempts, hfollows.facts_eq, hfollows.firings_eq,
      htallies.firings_eq, htallies.markedFacts_eq]
    rfl

end RuleSet

end FisheryRules
