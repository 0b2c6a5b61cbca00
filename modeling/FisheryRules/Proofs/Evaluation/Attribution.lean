import FisheryRules.Proofs.Evaluation.Attempts

/-!
# Failures and facts that share an id

A failure names the fact by its id, and the first fact with this id is taken out. This need not be
the fact on which the condition fails: `RuleSet.evaluate_attributes` says when it always is. With
different ids it is (`RuleSet.unmasked_of_nodup`).

## Main definitions

* `RuleSet.FailsAs` — a failure is one of a rule of the set on the fact.
* `RuleSet.Unmasked` — no fact without a failure stands before one with the same id that has any.
-/
namespace FisheryRules

namespace RuleSet

/-- The condition of a rule with the id that the failure names fails on the fact, with the error of
the failure. -/
def FailsAs (set : RuleSet) (now : Instant) (lookup : Option Lookup) (fact : Fact)
    (failure : EvalFailure) : Prop :=
  ∃ rule ∈ set.rules, rule.id = failure.ruleId ∧ rule.FailsOn now lookup fact failure.error

/-- Of two facts with the same id, the second one has no failure unless the first one has. -/
def Unmasked (set : RuleSet) (now : Instant) (lookup : Option Lookup) (facts : List Fact) : Prop :=
  facts.Pairwise fun earlier later => earlier.id = later.id →
    set.failureOn now lookup earlier = none → set.failureOn now lookup later = none

variable {set : RuleSet} {now : Instant} {lookup : Option Lookup} {facts before after : List Fact}
  {fact : Fact} {failure : EvalFailure} {count : Nat} {taken : List (Fact × EvalFailure)}
  {ending : Ending}

theorem failsAs_of_failureOn (h : set.failureOn now lookup fact = some failure) :
    set.FailsAs now lookup fact failure := by
  obtain ⟨before, rule, after, error, hrules, hfails, rfl, -⟩ := failureOn_eq_some_iff.1 h
  exact ⟨rule, by simp [hrules], rfl, hfails⟩

theorem FailsAs.failureOn_ne_none (h : set.FailsAs now lookup fact failure) :
    set.failureOn now lookup fact ≠ none := by
  obtain ⟨rule, hrule, -, hfails⟩ := h
  exact fun hnone => failureOn_eq_none_iff.1 hnone rule hrule _ hfails

/-! ## Batches without masked failures -/

/-- Nothing is masked among facts with different ids. -/
theorem unmasked_of_nodup (h : (facts.map (·.id)).Nodup) : set.Unmasked now lookup facts :=
  (List.pairwise_map.1 h).imp fun hne heq => absurd heq hne

theorem unmasked_of_none (h : ∀ fact ∈ facts, set.failureOn now lookup fact = none) :
    set.Unmasked now lookup facts :=
  List.pairwise_of_forall_mem_list fun _ _ later hlater _ _ => h later hlater

/-- The facts before a failing one with its id fail, too. -/
theorem Unmasked.of_append_cons (h : set.Unmasked now lookup (before ++ fact :: after)) :
    set.Unmasked now lookup (before ++ after) ∧
      ∀ other ∈ before, other.id = fact.id → set.failureOn now lookup other = none →
        set.failureOn now lookup fact = none :=
  ⟨h.sublist ((List.sublist_cons_self fact after).append_left before),
    fun other hother => (List.pairwise_append.1 h).2.2 other hother fact List.mem_cons_self⟩

/-- A failing fact may be put back before which no other fact has its id. -/
theorem Unmasked.append_cons (h : set.Unmasked now lookup (before ++ after))
    (hfact : set.failureOn now lookup fact ≠ none)
    (hbefore : ∀ other ∈ before, other.id ≠ fact.id) :
    set.Unmasked now lookup (before ++ fact :: after) := by
  obtain ⟨hbefores, hafters, hacross⟩ := List.pairwise_append.1 h
  refine List.pairwise_append.2 ⟨hbefores, List.pairwise_cons.2 ⟨?_, hafters⟩, ?_⟩
  · exact fun _ _ _ hnone => absurd hnone hfact
  · intro earlier hearlier later hlater
    obtain rfl | hlater := List.mem_cons.1 hlater
    · exact fun heq => absurd heq (hbefore earlier hearlier)
    · exact hacross earlier hearlier later hlater

/-- A fact with the id is looked for among the first facts at first. -/
theorem splitFirst?_append_of_eq_some {id : Uuid} {others : List Fact} (after : List Fact)
    (h : splitFirst? id before = some (fact, others)) :
    splitFirst? id (before ++ after) = some (fact, others ++ after) := by
  induction before generalizing others with
  | nil => cases h
  | cons first rest ih =>
    rw [splitFirst?] at h
    rw [List.cons_append, splitFirst?]
    split at h
    · next hfirst =>
      cases h
      rw [if_pos hfirst]
    · next hfirst =>
      obtain ⟨⟨found, left⟩, hfound, heq⟩ := Option.map_eq_some_iff.1 h
      cases heq
      rw [if_neg hfirst, ih hfound]
      rfl

/-! ## Attempts -/

namespace Attempts

/-- What is taken out is of the batch, for the failure of a fact of the batch with the same id. -/
theorem exists_culprit (h : set.Attempts now lookup facts count taken ending) :
    ∀ pair ∈ taken, pair.1 ∈ facts ∧
      ∃ culprit ∈ facts, culprit.id = pair.1.id ∧
        set.failureOn now lookup culprit = some pair.2 := by
  induction h with
  | completed | astray => exact List.forall_mem_nil _
  | @takenOut facts others state failure fact _ _ _ herror hsplit _ ih =>
    have hothers : ∀ other ∈ others, other ∈ facts := (splitFirst?_sublist hsplit).subset
    refine List.forall_mem_cons.2 ⟨⟨(splitFirst?_perm hsplit).subset List.mem_cons_self, ?_⟩, ?_⟩
    · obtain ⟨_, failing, _, rfl, hfailing, hid, -⟩ := exists_failing herror
      obtain ⟨_, _, -, -, hfact, -⟩ := splitFirst?_eq_some hsplit
      exact ⟨failing, by simp, hid.symm.trans hfact.symm, hfailing⟩
    · intro pair hpair
      obtain ⟨hmem, culprit, hculprit, hrest⟩ := ih pair hpair
      exact ⟨hothers _ hmem, culprit, hothers _ hculprit, hrest⟩

/-- When nothing is masked, it is the failing fact that is taken out each time. -/
theorem failsAs (h : set.Attempts now lookup facts count taken ending)
    (hunmasked : set.Unmasked now lookup facts) :
    ∀ pair ∈ taken, set.FailsAs now lookup pair.1 pair.2 := by
  induction h with
  | completed | astray => exact List.forall_mem_nil _
  | takenOut herror hsplit _ ih =>
    obtain ⟨before, failing, after, rfl, hfailing, hid, hbefore⟩ := exists_failing herror
    obtain ⟨hrest, hnamesakes⟩ := hunmasked.of_append_cons
    have hids : ∀ other ∈ before, other.id ≠ failing.id := fun other hother heq =>
      nomatch hfailing.symm.trans (hnamesakes other hother heq (hbefore other hother))
    rw [hid, splitFirst?_append after hids] at hsplit
    cases hsplit
    exact List.forall_mem_cons.2 ⟨failsAs_of_failureOn hfailing, ih hrest⟩

/-- When all that is taken out has a failure, nothing is masked. -/
theorem unmasked (h : set.Attempts now lookup facts count taken ending)
    (htaken : ∀ pair ∈ taken, set.failureOn now lookup pair.1 ≠ none) :
    set.Unmasked now lookup facts := by
  induction h with
  | completed hok => exact unmasked_of_none (failureOn_of_fireAll hok)
  | takenOut herror hsplit _ ih =>
    obtain ⟨hfact, hrest⟩ := List.forall_mem_cons.1 htaken
    obtain ⟨before, failing, after, rfl, -, hid, hbefore⟩ := exists_failing herror
    have hids : ∀ other ∈ before, other.id ≠ failing.id := by
      intro other hother heq
      -- The first fact with the id would be one without a failure.
      obtain ⟨found, left, hfound⟩ := exists_splitFirst? hother
      have hsplit' := splitFirst?_append_of_eq_some (failing :: after) hfound
      rw [heq, ← hid, hsplit] at hsplit'
      cases hsplit'
      exact hfact (hbefore _ ((splitFirst?_perm hfound).subset List.mem_cons_self))
    rw [hid, splitFirst?_append after hids] at hsplit
    cases hsplit
    exact (ih hrest).append_cons hfact hids
  | astray herror hnone =>
    obtain ⟨fact, others, hsplit⟩ := exists_splitFirst?_of_error herror
    cases hnone.symm.trans hsplit

end Attempts

/-! ## Batches -/

/-- Each fact that is taken out shares its id with one of the batch that has the failure of its
warning. The rule that the warning names fails on all these facts themselves exactly when no fact
without a failure stands before one with the same id that has any. Otherwise a fact is taken out on
which no rule fails. -/
theorem evaluate_attributes (set : RuleSet) (now : Instant) (lookup : Option Lookup)
    (facts : List Fact) :
    let report := evaluate (some set) now lookup facts
    ∃ count taken,
      set.Attempts now lookup facts count taken (.completed report.facts report.firings) ∧
      report.exceptions = taken.map (fun (fact, failure) => fact.excepted failure) ∧
      (∀ pair ∈ taken, pair.1 ∈ facts ∧ ∃ culprit ∈ facts, culprit.id = pair.1.id ∧
        set.failureOn now lookup culprit = some pair.2) ∧
      ((∀ pair ∈ taken, set.FailsAs now lookup pair.1 pair.2) ↔ set.Unmasked now lookup facts) ∧
      ((∃ pair ∈ taken, set.failureOn now lookup pair.1 = none) ↔
        ¬ set.Unmasked now lookup facts) := by
  intro report
  obtain ⟨count, taken, ending, hattempts⟩ := exists_attempts set now lookup facts
  obtain ⟨left, firings, rfl⟩ := hattempts.exists_completed
  have hreport : report = ⟨left, firings, exceptionsOf taken⟩ :=
    (evaluate_eq_attempts set now lookup facts).trans (hattempts.attempts_eq_report [])
  rw [hreport]
  refine ⟨count, taken, hattempts, ?_, hattempts.exists_culprit,
    ⟨fun htaken => hattempts.unmasked fun pair hpair => (htaken pair hpair).failureOn_ne_none,
      hattempts.failsAs⟩, ?_, ?_⟩
  · simp only [exceptionsOf, Fact.takeOut_eq]
  · rintro ⟨pair, hpair, hnone⟩ hunmasked
    exact (hattempts.failsAs hunmasked pair hpair).failureOn_ne_none hnone
  · intro hmasked
    by_contra hsome
    push Not at hsome
    exact hmasked (hattempts.unmasked hsome)

/-- Two facts share an id, and the look-up of the flag of the second one fails without a service.
The first one has no flag to look up. It is taken out all the same, with a warning about a rule that
does not fail on it. -/
theorem evaluate_takes_namesake :
    let flag : CompiledRule := {
      id := "Flag"
      name := "Flag"
      factType := .rawMovement
      condition := .inList "FLAG_STATE" (.field ⟨7, "flagState", .text, some .flagState⟩)
      effect := .alarm }
    let set : RuleSet := ⟨1, "", "", [flag], [], .sanity []⟩
    let unflagged : Fact := { id := .ofNat 1, payload := .rawMovement {} }
    let flagged : Fact :=
      { id := .ofNat 1, payload := .rawMovement { flagState := some "SWE" } }
    let report := evaluate (some set) .epoch none [unflagged, flagged]
    ¬ ∀ exception ∈ report.exceptions, ∀ warning ∈ exception.outcomes, warning.level = "L099" →
      ∃ rule ∈ set.rules, rule.id = warning.ruleId ∧
        ∃ error, rule.FailsOn .epoch none exception error := by
  intro flag set unflagged flagged report hclaim
  let failure : EvalFailure := ⟨"Flag", .ofNat 1, .noLookup⟩
  have hfails : ∀ facts, facts.findSome? (set.failureOn .epoch none) = some failure →
      ∃ state, (Session.start set .epoch none facts).fireAll = .error ⟨state, failure⟩ := by
    intro facts hfirst
    have hsession := fireAll_of_failureOn set .epoch none facts
    rwa [hfirst] at hsession
  obtain ⟨_, hfirst⟩ := hfails [unflagged, flagged] rfl
  obtain ⟨_, hsecond⟩ := hfails [flagged] rfl
  have hsplit (fact : Fact) (after : List Fact) :
      splitFirst? fact.id (fact :: after) = some (fact, after) :=
    splitFirst?_append after (List.forall_mem_nil _)
  have hagenda : set.agenda .epoch [] = [] := rfl
  have hexceptions : report.exceptions =
      [unflagged.excepted failure, flagged.excepted failure] := by
    obtain ⟨final, hfinal, -⟩ := fireAll_of_agenda_eq_nil none hagenda
    have hreport : report = set.attempts .epoch none [unflagged, flagged] [] :=
      evaluate_eq_attempts set .epoch none [unflagged, flagged]
    rw [hreport, attempts_of_failure hfirst (hsplit unflagged _),
      attempts_of_failure hsecond (hsplit flagged _), attempts, hfinal]
    rfl
  let warning : Outcome := {
    severity := .warning
    message := failure.message
    ruleId := "Flag"
    level := "L099" }
  have hwarning : warning ∈ (unflagged.excepted failure).outcomes := by
    simp [Fact.excepted, unflagged, failure, warning]
  obtain ⟨rule, hrule, -, error, hfailsOn⟩ :=
    hclaim (unflagged.excepted failure) (by simp [hexceptions]) warning hwarning rfl
  obtain rfl := List.mem_singleton.1 hrule
  cases hfailsOn.test

end RuleSet

end FisheryRules
