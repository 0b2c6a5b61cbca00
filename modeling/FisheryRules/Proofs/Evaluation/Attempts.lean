import FisheryRules.Proofs.Evaluation.Isolation

/-!
# Attempts at a batch

A batch is attempted until no condition fails, each time without the fact that was taken out after
the attempt before. `RuleSet.evaluate_conserves` says that the attempts end, that the fact to take
out is always found, and that no fact is lost on the way, also when facts share an id.

## Main definitions

* `RuleSet.Attempts`, `RuleSet.Evaluation` — the attempts, with what they take out, and how they
  end.
* `Fact.given` — what an evaluation leaves of a fact as it is.
-/
namespace FisheryRules

/-- The parts of a fact that an evaluation does not touch: its id, its contents, its unique ids and
where it comes from. -/
def Fact.given (fact : Fact) : Uuid × Payload × KeySet × Option SourceRef :=
  (fact.id, fact.payload, fact.uniqueIds, fact.source)

/-- How the attempts at a batch end. -/
inductive Ending
  | completed (facts : List Fact) (firings : List Firing)
  /-- The last attempt failed on a fact that is none of those attempted. -/
  | astray (facts : List Fact)

/-- The facts as they were taken out, each for a failure. -/
def exceptionsOf (taken : List (Fact × EvalFailure)) : List Fact :=
  taken.map fun (fact, failure) => fact.takeOut failure

namespace Ending

def facts : Ending → List Fact
  | completed facts _ => facts
  | astray facts => facts

def firings : Ending → List Firing
  | completed _ firings => firings
  | astray _ => []

/-- What is reported when some facts were taken out before the attempts ended. -/
def report (ending : Ending) (taken : List (Fact × EvalFailure)) : Report :=
  ⟨ending.facts, ending.firings, exceptionsOf taken⟩

end Ending

namespace RuleSet

/-- A number of attempts at some facts take out facts, each for a failure, and end. -/
inductive Attempts (set : RuleSet) (now : Instant) (lookup : Option Lookup) :
    List Fact → Nat → List (Fact × EvalFailure) → Ending → Prop
  | completed {facts : List Fact} {final : Session} :
      (Session.start set now lookup facts).fireAll = .ok final →
      Attempts set now lookup facts 1 [] (.completed final.facts final.firings)
  | takenOut {facts others : List Fact} {state : Session} {failure : EvalFailure} {fact : Fact}
      {count : Nat} {taken : List (Fact × EvalFailure)} {ending : Ending} :
      (Session.start set now lookup facts).fireAll = .error ⟨state, failure⟩ →
      splitFirst? failure.fact facts = some (fact, others) →
      Attempts set now lookup others count taken ending →
      Attempts set now lookup facts (count + 1) ((fact, failure) :: taken) ending
  | astray {facts : List Fact} {state : Session} {failure : EvalFailure} :
      (Session.start set now lookup facts).fireAll = .error ⟨state, failure⟩ →
      splitFirst? failure.fact facts = none →
      Attempts set now lookup facts 1 [] (.astray facts)

/-- The evaluation of a batch makes a number of attempts, which take out facts and end. Without a
set, without rules in it or without facts there is nothing to attempt. -/
inductive Evaluation (now : Instant) (lookup : Option Lookup) (facts : List Fact) :
    Option RuleSet → Nat → List (Fact × EvalFailure) → Ending → Prop
  | withoutSet : Evaluation now lookup facts none 0 [] (.completed facts [])
  | idle {set : RuleSet} : (set.isEmpty || facts.isEmpty) = true →
      Evaluation now lookup facts (some set) 0 [] (.completed facts [])
  | attempted {set : RuleSet} {count : Nat} {taken : List (Fact × EvalFailure)} {ending : Ending} :
      (set.isEmpty || facts.isEmpty) = false →
      set.Attempts now lookup facts count taken ending →
      Evaluation now lookup facts (some set) count taken ending

variable {set : RuleSet} {now : Instant} {lookup : Option Lookup} {facts others : List Fact}
  {count count' : Nat} {taken taken' : List (Fact × EvalFailure)} {ending ending' : Ending}
  {fact : Fact} {id : Uuid}

/-! ## The fact that is taken out -/

/-- The fact that is taken out is the first one with its id. -/
theorem splitFirst?_eq_some (h : splitFirst? id facts = some (fact, others)) :
    ∃ before after, facts = before ++ fact :: after ∧ others = before ++ after ∧ fact.id = id ∧
      ∀ other ∈ before, other.id ≠ id := by
  induction facts generalizing others with
  | nil => cases h
  | cons first rest ih =>
    rw [splitFirst?] at h
    split at h
    · next hfirst =>
      cases h
      exact ⟨[], rest, rfl, rfl, beq_iff_eq.1 hfirst, List.forall_mem_nil _⟩
    · next hfirst =>
      obtain ⟨⟨found, left⟩, hfound, heq⟩ := Option.map_eq_some_iff.1 h
      cases heq
      obtain ⟨before, after, rfl, rfl, hid, hbefore⟩ := ih hfound
      refine ⟨first :: before, after, rfl, rfl, hid, ?_⟩
      exact List.forall_mem_cons.2 ⟨by simpa using hfirst, hbefore⟩

/-- A fact with the id is found if there is one. -/
theorem exists_splitFirst? (h : fact ∈ facts) :
    ∃ found others, splitFirst? fact.id facts = some (found, others) := by
  induction facts with
  | nil => cases h
  | cons first rest ih =>
    rw [splitFirst?]
    split
    · exact ⟨_, _, rfl⟩
    · next hfirst =>
      have hrest : fact ∈ rest := by
        obtain rfl | hrest := List.mem_cons.1 h
        · simp at hfirst
        · exact hrest
      obtain ⟨found, others, hfound⟩ := ih hrest
      exact ⟨_, _, by rw [hfound]; rfl⟩

theorem splitFirst?_perm (h : splitFirst? id facts = some (fact, others)) :
    (fact :: others).Perm facts := by
  obtain ⟨before, after, rfl, rfl, -⟩ := splitFirst?_eq_some h
  exact List.perm_middle.symm

theorem splitFirst?_sublist (h : splitFirst? id facts = some (fact, others)) :
    others.Sublist facts := by
  obtain ⟨before, after, rfl, rfl, -⟩ := splitFirst?_eq_some h
  exact (List.sublist_cons_self fact after).append_left before

/-! ## What stays as it is -/

/-- A session leaves all but the outcomes of its facts as it is. -/
theorem map_given_of_fireAll {final : Session}
    (h : (Session.start set now lookup facts).fireAll = .ok final) :
    final.facts.map Fact.given = facts.map Fact.given := by
  have hsame : List.Forall₂ (fun input output => Fact.given output = Fact.given input) facts
      final.facts := by
    refine (facts_of_fireAll h).imp ?_
    rintro input _ ⟨outcomes, ok, rfl⟩
    rfl
  rw [← List.forall₂_eq_eq_eq, List.forall₂_map_left_iff, List.forall₂_map_right_iff]
  exact hsame.flip

/-- Facts that are taken out are given as they were. -/
theorem map_given_excepted (facts : List Fact) :
    (facts.filterMap fun fact => (set.failureOn now lookup fact).map fact.excepted).map Fact.given =
      (facts.filter fun fact => (set.failureOn now lookup fact).isSome).map Fact.given := by
  induction facts with
  | nil => rfl
  | cons fact others ih =>
    rw [List.filterMap_cons, List.filter_cons]
    cases set.failureOn now lookup fact with
    | none => exact ih
    | some failure => exact congrArg (fact.given :: ·) ih

/-! ## The attempts end -/

/-- The failing fact is one of those attempted. -/
theorem exists_splitFirst?_of_error {state : Session} {failure : EvalFailure}
    (h : (Session.start set now lookup facts).fireAll = .error ⟨state, failure⟩) :
    ∃ fact others, splitFirst? failure.fact facts = some (fact, others) := by
  obtain ⟨before, failing, after, rfl, -, hid, -⟩ := exists_failing h
  rw [hid]
  exact exists_splitFirst? (by simp)

theorem exists_attempts (set : RuleSet) (now : Instant) (lookup : Option Lookup)
    (facts : List Fact) :
    ∃ count taken ending, set.Attempts now lookup facts count taken ending := by
  induction hlength : facts.length using Nat.strong_induction_on generalizing facts with
  | h n ih =>
    cases hfire : (Session.start set now lookup facts).fireAll with
    | ok final => exact ⟨_, _, _, .completed hfire⟩
    | error interrupted =>
      obtain ⟨fact, others, hsplit⟩ := exists_splitFirst?_of_error hfire
      have hshorter : others.length < n := by
        have := length_of_splitFirst? hsplit
        omega
      obtain ⟨count, taken, ending, hattempts⟩ := ih _ hshorter others rfl
      exact ⟨_, _, _, .takenOut hfire hsplit hattempts⟩

namespace Attempts

theorem unique (h : set.Attempts now lookup facts count taken ending)
    (h' : set.Attempts now lookup facts count' taken' ending') :
    count' = count ∧ taken' = taken ∧ ending' = ending := by
  induction h generalizing count' taken' with
  | completed hok =>
    cases h' with
    | completed hok' =>
      cases hok.symm.trans hok'
      exact ⟨rfl, rfl, rfl⟩
    | takenOut herror' => cases hok.symm.trans herror'
    | astray herror' => cases hok.symm.trans herror'
  | takenOut herror hsplit _ ih =>
    cases h' with
    | completed hok' => cases herror.symm.trans hok'
    | takenOut herror' hsplit' hrest' =>
      cases herror.symm.trans herror'
      cases hsplit.symm.trans hsplit'
      obtain ⟨rfl, rfl, rfl⟩ := ih hrest'
      exact ⟨rfl, rfl, rfl⟩
    | astray herror' hnone' =>
      cases herror.symm.trans herror'
      cases hsplit.symm.trans hnone'
  | astray herror hnone =>
    cases h' with
    | completed hok' => cases herror.symm.trans hok'
    | takenOut herror' hsplit' =>
      cases herror.symm.trans herror'
      cases hnone.symm.trans hsplit'
    | astray herror' =>
      cases herror.symm.trans herror'
      exact ⟨rfl, rfl, rfl⟩

/-- The attempts never fail on a fact that is none of those attempted. -/
theorem exists_completed (h : set.Attempts now lookup facts count taken ending) :
    ∃ facts firings, ending = .completed facts firings := by
  induction h with
  | completed => exact ⟨_, _, rfl⟩
  | takenOut _ _ _ ih => exact ih
  | astray herror hnone =>
    obtain ⟨fact, others, hsplit⟩ := exists_splitFirst?_of_error herror
    cases hnone.symm.trans hsplit

/-- Every attempt but the last one takes out a fact. -/
theorem count_eq (h : set.Attempts now lookup facts count taken ending) :
    count = taken.length + 1 := by
  induction h with
  | completed => rfl
  | takenOut _ _ _ ih => rw [ih, List.length_cons]
  | astray => rfl

/-- The report on a batch is that on its attempts, after what was taken out before. -/
theorem attempts_eq_report (h : set.Attempts now lookup facts count taken ending)
    (exceptions : List Fact) :
    set.attempts now lookup facts exceptions =
      ⟨ending.facts, ending.firings, exceptions ++ exceptionsOf taken⟩ := by
  induction h generalizing exceptions with
  | completed hok =>
    rw [attempts, hok, exceptionsOf, List.map_nil, List.append_nil]
    rfl
  | takenOut herror hsplit _ ih =>
    rw [attempts_of_failure herror hsplit, ih, ← Fact.takeOut_eq, List.append_assoc]
    rfl
  | astray herror hnone =>
    obtain ⟨fact, others, hsplit⟩ := exists_splitFirst?_of_error herror
    cases hnone.symm.trans hsplit

/-- What the attempts leave and what they take out are the facts of the batch. -/
theorem perm (h : set.Attempts now lookup facts count taken ending) :
    ((ending.facts ++ exceptionsOf taken).map Fact.given).Perm (facts.map Fact.given) := by
  induction h with
  | completed hok =>
    rw [exceptionsOf, List.map_nil, List.append_nil]
    exact .of_eq (map_given_of_fireAll hok)
  | @takenOut facts others _ failure fact _ taken ending _ hsplit _ ih =>
    calc ((ending.facts ++ exceptionsOf ((fact, failure) :: taken)).map Fact.given)
      _ |>.Perm ((fact.takeOut failure :: (ending.facts ++ exceptionsOf taken)).map Fact.given) :=
          List.perm_middle.map _
      _ |>.Perm ((fact :: others).map Fact.given) := ih.cons fact.given
      _ |>.Perm (facts.map Fact.given) := (splitFirst?_perm hsplit).map _
  | astray => rw [exceptionsOf, List.map_nil, List.append_nil]; rfl

/-- What the attempts leave stands in the order of the batch. -/
theorem facts_sublist (h : set.Attempts now lookup facts count taken ending) :
    (ending.facts.map Fact.given).Sublist (facts.map Fact.given) := by
  induction h with
  | completed hok => exact (map_given_of_fireAll hok).subst (List.Sublist.refl _)
  | takenOut _ hsplit _ ih => exact ih.trans ((splitFirst?_sublist hsplit).map _)
  | astray => exact List.Sublist.refl _

/-- When the facts have different ids, what is taken out stands in the order of the batch, too. -/
theorem exceptions_sublist (h : set.Attempts now lookup facts count taken ending)
    (hids : (facts.map (·.id)).Nodup) :
    ((exceptionsOf taken).map Fact.given).Sublist (facts.map Fact.given) := by
  obtain ⟨final, -, hattempts⟩ := RuleSet.attempts_eq set now lookup [] hids
  have hexceptions : exceptionsOf taken =
      facts.filterMap fun fact => (set.failureOn now lookup fact).map fact.excepted :=
    congrArg Report.exceptions ((h.attempts_eq_report []).symm.trans hattempts)
  rw [hexceptions, map_given_excepted]
  exact List.filter_sublist.map _

end Attempts

/-! ## Batches -/

theorem exists_evaluation (set : Option RuleSet) (now : Instant) (lookup : Option Lookup)
    (facts : List Fact) :
    ∃ count taken ending, Evaluation now lookup facts set count taken ending := by
  cases set with
  | none => exact ⟨_, _, _, .withoutSet⟩
  | some set =>
    cases hidle : set.isEmpty || facts.isEmpty with
    | true => exact ⟨_, _, _, .idle hidle⟩
    | false =>
      obtain ⟨count, taken, ending, hattempts⟩ := exists_attempts set now lookup facts
      exact ⟨_, _, _, .attempted hidle hattempts⟩

namespace Evaluation

variable {batchSet : Option RuleSet}

theorem unique (h : Evaluation now lookup facts batchSet count taken ending)
    (h' : Evaluation now lookup facts batchSet count' taken' ending') :
    count' = count ∧ taken' = taken ∧ ending' = ending := by
  cases h with
  | withoutSet =>
    cases h'
    exact ⟨rfl, rfl, rfl⟩
  | idle hidle =>
    cases h' with
    | idle => exact ⟨rfl, rfl, rfl⟩
    | attempted hbusy => cases hidle.symm.trans hbusy
  | attempted hbusy hattempts =>
    cases h' with
    | idle hidle => cases hidle.symm.trans hbusy
    | attempted _ hattempts' => exact hattempts.unique hattempts'

theorem evaluate_eq (h : Evaluation now lookup facts batchSet count taken ending) :
    evaluate batchSet now lookup facts = ending.report taken := by
  cases h with
  | withoutSet => rfl
  | idle hidle => rw [evaluate, if_pos hidle]; rfl
  | attempted hbusy hattempts =>
    rw [evaluate, if_neg (by simp [hbusy]), hattempts.attempts_eq_report]
    rfl

theorem exists_completed (h : Evaluation now lookup facts batchSet count taken ending) :
    ∃ facts firings, ending = .completed facts firings := by
  cases h with
  | withoutSet | idle => exact ⟨_, _, rfl⟩
  | attempted _ hattempts => exact hattempts.exists_completed

theorem perm (h : Evaluation now lookup facts batchSet count taken ending) :
    ((ending.facts ++ exceptionsOf taken).map Fact.given).Perm (facts.map Fact.given) := by
  cases h with
  | withoutSet | idle =>
    rw [exceptionsOf, List.map_nil, List.append_nil]
    exact .refl _
  | attempted _ hattempts => exact hattempts.perm

theorem count_le (h : Evaluation now lookup facts batchSet count taken ending) :
    count ≤ facts.length + 1 := by
  have hlength := h.perm.length_eq
  simp only [List.length_map, List.length_append, exceptionsOf] at hlength
  cases h with
  | withoutSet | idle => omega
  | attempted _ hattempts =>
    have := hattempts.count_eq
    omega

theorem facts_sublist (h : Evaluation now lookup facts batchSet count taken ending) :
    (ending.facts.map Fact.given).Sublist (facts.map Fact.given) := by
  cases h with
  | withoutSet | idle => exact List.Sublist.refl _
  | attempted _ hattempts => exact hattempts.facts_sublist

theorem exceptions_sublist (h : Evaluation now lookup facts batchSet count taken ending)
    (hids : (facts.map (·.id)).Nodup) :
    ((exceptionsOf taken).map Fact.given).Sublist (facts.map Fact.given) := by
  cases h with
  | withoutSet | idle => exact List.nil_sublist _
  | attempted _ hattempts => exact hattempts.exceptions_sublist hids

end Evaluation

/-- Every fact of a batch is reported on once, evaluated or taken out, with the same id, contents,
unique ids and source, also when facts share an id or a condition fails on each of them. There is at
most one attempt more than there are facts, and no attempt fails on a fact that is not in the batch.
Both lists of the report keep the order of the batch when the ids are different. -/
theorem evaluate_conserves (set : Option RuleSet) (now : Instant) (lookup : Option Lookup)
    (facts : List Fact) :
    let report := evaluate set now lookup facts
    (∃ count taken,
      (∀ count' taken' ending, Evaluation now lookup facts set count' taken' ending ↔
        count' = count ∧ taken' = taken ∧ ending = .completed report.facts report.firings) ∧
      count ≤ facts.length + 1 ∧ report.exceptions = exceptionsOf taken) ∧
    ((report.facts ++ report.exceptions).map Fact.given).Perm (facts.map Fact.given) ∧
    ((facts.map (·.id)).Nodup →
      (report.facts.map Fact.given).Sublist (facts.map Fact.given) ∧
      (report.exceptions.map Fact.given).Sublist (facts.map Fact.given)) := by
  intro report
  obtain ⟨count, taken, ending, hevaluation⟩ := exists_evaluation set now lookup facts
  obtain ⟨left, firings, rfl⟩ := hevaluation.exists_completed
  have hreport : report = ⟨left, firings, exceptionsOf taken⟩ := hevaluation.evaluate_eq
  rw [hreport]
  refine ⟨⟨count, taken, fun count' taken' ending => ⟨hevaluation.unique, ?_⟩,
    hevaluation.count_le, rfl⟩, hevaluation.perm, fun hids => ?_⟩
  · rintro ⟨rfl, rfl, rfl⟩
    exact hevaluation
  · exact ⟨hevaluation.facts_sublist, hevaluation.exceptions_sublist hids⟩

end RuleSet

end FisheryRules
