import FisheryRules.Evaluation.Session
import FisheryRules.Proofs.Results

/-!
# Agendas

What a session comes to when all pairs of a fact and an active rule are known beforehand: one scan
over the pairs, in which a pair of matching type fires if its condition holds, unless the rule has
fired on an earlier fact that shares a unique id with the fact.

## Main definitions

* `Fact.shares` — two facts share a unique id.
* `CompiledRule.firing` — the firing of a rule on a fact.
* `Activation`, `RuleSet.agenda` — the pairs of matching type, in order.
* `plainScan` — the scan: the pairs that fire, or the first condition that fails.
* `markedFacts` — the facts after some pairs have fired.
-/
namespace FisheryRules

/-- Whether the fact shares a unique id with another one. -/
def Fact.shares (fact other : Fact) : Bool :=
  fact.uniqueIds.toList.any other.uniqueIds.toList.contains

theorem Fact.shares_iff {fact other : Fact} :
    fact.shares other = true ↔ ∃ id, id ∈ fact.uniqueIds ∧ id ∈ other.uniqueIds := by
  simp only [shares, List.any_eq_true, List.contains_iff_mem]
  rfl

/-- The firing of the rule on the fact. -/
def CompiledRule.firing (rule : CompiledRule) (category : RuleCategory) (now : Instant)
    (fact : Fact) : Firing where
  category := category
  ruleId := rule.id
  ruleName := rule.name
  effect := rule.effect
  factId := fact.id
  fact := fact.payload
  firedAt := now

/-- Rule and fact, with their positions in the set and in the session. -/
structure Activation where
  rule : CompiledRule
  ruleIndex : Nat
  fact : Fact
  factIndex : Nat

namespace Activation

/-- Whether the condition holds of the fact, or the failure when that cannot be told. -/
def test (context : EvalContext) (a : Activation) : Except EvalFailure Bool :=
  (a.rule.condition.test context a.fact.payload).mapError fun error =>
    ⟨a.rule.id, a.fact.id, error⟩

/-- Whether the rule is one for facts of this type. -/
def isTyped (a : Activation) : Bool := a.rule.factType == a.fact.factType

/-- Whether the other pair is one of the same rule, with an earlier fact that shares a unique id
with the fact. -/
def repeats (a other : Activation) : Bool :=
  other.ruleIndex == a.ruleIndex && decide (other.factIndex < a.factIndex) &&
    a.fact.shares other.fact

/-- The firing of the rule on the fact. -/
def firing (category : RuleCategory) (now : Instant) (a : Activation) : Firing :=
  a.rule.firing category now a.fact

/-- The positions of the fact and the rule. -/
def position (a : Activation) : Nat × Nat := (a.factIndex, a.ruleIndex)

/-- Whether a pair is scanned before another one: the facts are scanned in their order, and for
every fact the rules in theirs. -/
def Before (a b : Activation) : Prop :=
  a.factIndex < b.factIndex ∨ a.factIndex = b.factIndex ∧ a.ruleIndex < b.ruleIndex

theorem Before.position_ne {a b : Activation} (h : a.Before b) : a.position ≠ b.position := by
  simp only [Before, position, ne_eq, Prod.mk.injEq] at h ⊢
  omega

end Activation

namespace RuleSet

/-- The rules that may fire at an instant, with their positions. -/
def activeRules (set : RuleSet) (now : Instant) : List (CompiledRule × Nat) :=
  set.rules.zipIdx.filter fun (rule, _) => rule.isActiveAt now

/-- The pairs of a fact and an active rule: the facts in their order, and for every fact the rules
in theirs. -/
def pairs (set : RuleSet) (now : Instant) (facts : List Fact) : List Activation :=
  facts.zipIdx.flatMap fun (fact, factIndex) =>
    (set.activeRules now).map fun (rule, ruleIndex) => ⟨rule, ruleIndex, fact, factIndex⟩

/-- The pairs of a fact and an active rule for facts of its type. -/
def agenda (set : RuleSet) (now : Instant) (facts : List Fact) : List Activation :=
  (set.pairs now facts).filter (·.isTyped)

variable {set : RuleSet} {now : Instant} {facts : List Fact}

theorem getElem?_of_mem_pairs {a : Activation} (h : a ∈ set.pairs now facts) :
    facts[a.factIndex]? = some a.fact := by
  obtain ⟨⟨fact, factIndex⟩, hfact, ha⟩ := List.mem_flatMap.1 h
  obtain ⟨⟨rule, ruleIndex⟩, -, rfl⟩ := List.mem_map.1 ha
  exact List.mem_zipIdx_iff_getElem?.1 hfact

theorem zipIdx_ascending {α : Type} (xs : List α) :
    xs.zipIdx.Pairwise fun x y => x.2 < y.2 := by
  have hrange : (xs.zipIdx.map Prod.snd).Pairwise (· < ·) := by
    rw [List.zipIdx_map_snd]
    exact List.pairwise_lt_range'
  exact List.pairwise_map.1 hrange

/-- The pairs stand in the order in which they are scanned. -/
theorem pairs_ordered : (set.pairs now facts).Pairwise Activation.Before := by
  refine List.pairwise_flatMap.2 ⟨fun (fact, factIndex) _ => ?_, ?_⟩
  · have hactive : (set.activeRules now).Pairwise fun x y => x.2 < y.2 :=
      (zipIdx_ascending set.rules).filter _
    exact List.pairwise_map.2 (hactive.imp fun h => .inr ⟨rfl, h⟩)
  · refine (zipIdx_ascending facts).imp fun hlt a ha b hb => ?_
    obtain ⟨_, -, rfl⟩ := List.mem_map.1 ha
    obtain ⟨_, -, rfl⟩ := List.mem_map.1 hb
    exact .inl hlt

theorem agenda_ordered : (set.agenda now facts).Pairwise Activation.Before :=
  pairs_ordered.filter _

end RuleSet

/-! ## The plain scan -/

/-- Scans pairs after some have fired. A condition that fails ends the scan; a pair whose condition
holds fires unless it repeats one that has fired. -/
def plainScan (context : EvalContext) :
    (fired : List Activation) → List Activation → Except EvalFailure (List Activation)
  | fired, [] => .ok fired
  | fired, a :: others => do
    if (← a.test context) && !fired.any a.repeats then plainScan context (fired ++ [a]) others
    else plainScan context fired others

/-- The fact after the rules of some pairs have fired on it. -/
def Fact.marked (fact : Fact) (fired : List Activation) : Fact :=
  fired.foldl (fun fact a => a.rule.mark fact) fact

/-- The facts after some pairs have fired. -/
def markedFacts (facts : List Fact) (fired : List Activation) : List Fact :=
  facts.mapIdx fun factIndex fact => fact.marked (fired.filter (·.factIndex == factIndex))

section Scan

variable {context : EvalContext} {fired : List Activation}

theorem plainScan_append (xs ys : List Activation) :
    plainScan context fired (xs ++ ys) =
      plainScan context fired xs >>= fun fired => plainScan context fired ys := by
  induction xs generalizing fired with
  | nil => rfl
  | cons a xs ih =>
    rw [List.cons_append, plainScan, plainScan]
    cases a.test context with
    | error failure => rfl
    | ok holds =>
      simp only [ok_bind]
      split
      · exact ih
      · exact ih

/-- What fires of the pairs comes after what has fired before, in the order of the scan. -/
theorem plainScan_sublist {others result : List Activation}
    (h : plainScan context fired others = .ok result) :
    ∃ more, result = fired ++ more ∧ more.Sublist others := by
  induction others generalizing fired with
  | nil =>
    cases h
    exact ⟨[], by simp, .slnil⟩
  | cons a others ih =>
    obtain ⟨holds, -, h⟩ := bind_eq_ok.1 h
    split at h
    · obtain ⟨more, rfl, hmore⟩ := ih h
      exact ⟨a :: more, by simp, hmore.cons_cons a⟩
    · obtain ⟨more, rfl, hmore⟩ := ih h
      exact ⟨more, rfl, hmore.cons a⟩

/-- A scan succeeds when every condition can be told. -/
theorem test_of_plainScan {others result : List Activation}
    (h : plainScan context fired others = .ok result) :
    ∀ a ∈ others, ∃ holds, a.test context = .ok holds := by
  induction others generalizing fired with
  | nil => simp
  | cons a others ih =>
    obtain ⟨holds, htest, h⟩ := bind_eq_ok.1 h
    refine List.forall_mem_cons.2 ⟨⟨holds, htest⟩, ?_⟩
    split at h
    · exact ih h
    · exact ih h

end Scan

/-! ## Marked facts -/

theorem CompiledRule.mark_eq (rule : CompiledRule) (fact : Fact) :
    ∃ outcomes ok, rule.mark fact = { fact with outcomes, ok } := by
  unfold mark
  cases rule.outcome? with
  | none => exact ⟨fact.outcomes, fact.ok, rfl⟩
  | some outcome => exact ⟨_, _, rfl⟩

/-- Firings change nothing of a fact but its outcomes and whether it is ok. -/
theorem Fact.marked_eq (fact : Fact) (fired : List Activation) :
    ∃ outcomes ok, fact.marked fired = { fact with outcomes, ok } := by
  induction fired generalizing fact with
  | nil => exact ⟨fact.outcomes, fact.ok, rfl⟩
  | cons a others ih =>
    obtain ⟨outcomes, ok, hmark⟩ := a.rule.mark_eq fact
    obtain ⟨outcomes', ok', hmarked⟩ := ih (a.rule.mark fact)
    refine ⟨outcomes', ok', ?_⟩
    rw [marked, List.foldl_cons]
    exact hmarked.trans (by rw [hmark])

theorem markedFacts_forall₂ (facts : List Fact) (fired : List Activation) :
    List.Forall₂ (fun input output => ∃ outcomes ok, output = { input with outcomes, ok }) facts
      (markedFacts facts fired) := by
  refine List.forall₂_iff_get.2 ⟨by simp [markedFacts], fun i hi hi' => ?_⟩
  simp only [List.get_eq_getElem, markedFacts, List.getElem_mapIdx]
  exact Fact.marked_eq _ _

@[simp] theorem markedFacts_nil (facts : List Fact) : markedFacts facts [] = facts := by
  refine List.mapIdx_eq_iff.2 fun i => ?_
  cases facts[i]? <;> rfl

/-- One more firing marks the fact at its position. -/
theorem markedFacts_append_singleton (facts : List Fact) (fired : List Activation)
    (a : Activation) :
    markedFacts facts (fired ++ [a]) =
      (markedFacts facts fired).modify a.factIndex a.rule.mark := by
  refine List.ext_getElem? fun i => ?_
  by_cases hi : a.factIndex = i
  · simp [markedFacts, hi, Fact.marked, Function.comp_def]
  · simp [markedFacts, hi, Fact.marked]

end FisheryRules
