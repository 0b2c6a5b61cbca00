import FisheryRules.Proofs.Evaluation.SettledPairs

/-!
# Firing to exhaustion

A session lets rules fire in passes until a pass fires nothing. `Session.fireAll_agrees` says that
this comes to one plain scan of the agenda: the passes end, what fires is what the scan says, and
so is the condition that fails first.

## Main definitions

* `Session.Runs` — the passes of a session, however many there are.
* `Session.Follows` — what a session knows after some pairs of its agenda.
-/
namespace FisheryRules

namespace Session

/-- Lets passes follow each other until one fires nothing or is interrupted. -/
inductive Runs : Session → Except Interrupted Session → Prop
  | interrupted {session : Session} {failed : Interrupted} :
    session.scan = .error failed → Runs session (.error failed)
  | quiet {session next : Session} :
    session.scan = .ok next → next.firings.length = session.firings.length →
      Runs session (.ok next)
  | again {session next : Session} {result : Except Interrupted Session} :
    session.scan = .ok next → next.firings.length ≠ session.firings.length →
      Runs next result → Runs session result

/-! ## One pass -/

/-- A session that started with some facts has visited some pairs, of which some fired. -/
structure Follows (set : RuleSet) (now : Instant) (lookup : Option Lookup) (facts : List Fact)
    (visited fired : List Activation) (session : Session) : Prop where
  set_eq : session.set = set
  now_eq : session.now = now
  lookup_eq : session.lookup = lookup
  facts_eq : session.facts = markedFacts facts fired
  mem_fired : ∀ {ruleIndex factIndex}, (ruleIndex, factIndex) ∈ session.fired ↔
    ∃ a ∈ visited, a.position = (factIndex, ruleIndex) ∧ a.test ⟨now, lookup⟩ = .ok true
  mem_reported : ∀ {ruleIndex id}, (ruleIndex, id) ∈ session.reported ↔
    ∃ a ∈ fired, a.ruleIndex = ruleIndex ∧ id ∈ a.fact.uniqueIds.toList
  firings_eq : session.firings = fired.map (·.firing set.category now)
  fired_visited : ∀ a ∈ fired, a ∈ visited

/-- A session and a plain scan end with the same failure, or with the same pairs fired. -/
inductive Agrees (set : RuleSet) (now : Instant) (lookup : Option Lookup) (facts : List Fact)
    (visited : List Activation) :
    Except Interrupted Session → Except EvalFailure (List Activation) → Prop
  | ok {session : Session} {fired : List Activation} :
    Follows set now lookup facts visited fired session →
      Agrees set now lookup facts visited (.ok session) (.ok fired)
  | error (session : Session) (failure : EvalFailure) :
    Agrees set now lookup facts visited (.error ⟨session, failure⟩) (.error failure)

variable {set : RuleSet} {now : Instant} {lookup : Option Lookup} {facts : List Fact}
  {visited fired : List Activation} {session : Session} {a : Activation}

theorem follows_start : (start set now lookup facts).Follows set now lookup facts [] [] := by
  constructor <;> simp [start]

namespace Follows

/-- The facts of the session are those it started with, but for their outcomes. -/
theorem getElem?_facts (h : session.Follows set now lookup facts visited fired)
    (hfact : facts[a.factIndex]? = some a.fact) :
    ∃ outcomes ok, session.facts[a.factIndex]? = some { a.fact with outcomes, ok } := by
  obtain ⟨outcomes, ok, hmarked⟩ :=
    a.fact.marked_eq (fired.filter (·.factIndex == a.factIndex))
  refine ⟨outcomes, ok, ?_⟩
  rw [h.facts_eq, markedFacts, List.getElem?_mapIdx, hfact, Option.map_some, hmarked]

/-- The session keeps quiet about a pair just when the plain scan does. -/
theorem hasReported_eq (h : session.Follows set now lookup facts visited fired)
    (hbefore : ∀ b ∈ visited, b.Before a) (outcomes : List Outcome) (ok : Bool) :
    session.hasReported a.ruleIndex { a.fact with outcomes, ok } = fired.any a.repeats := by
  rw [Bool.eq_iff_iff]
  simp only [hasReported, List.any_eq_true, List.contains_iff_mem, h.mem_reported,
    Activation.repeats, Fact.shares_iff, Bool.and_eq_true, beq_iff_eq, decide_eq_true_eq]
  constructor
  · rintro ⟨id, hid, b, hb, hrule, hother⟩
    have hlt : b.factIndex < a.factIndex := by
      have hb := hbefore b (h.fired_visited b hb)
      simp only [Activation.Before] at hb
      omega
    exact ⟨b, hb, ⟨hrule, hlt⟩, id, hid, hother⟩
  · rintro ⟨b, hb, ⟨hrule, -⟩, id, hid, hother⟩
    exact ⟨id, hid, b, hb, hrule, hother⟩

/-- A pair that comes after those visited has not fired yet. -/
theorem notMem_fired (h : session.Follows set now lookup facts visited fired)
    (hbefore : ∀ b ∈ visited, b.Before a) : (a.ruleIndex, a.factIndex) ∉ session.fired := by
  rw [h.mem_fired]
  rintro ⟨b, hb, hposition, -⟩
  exact (hbefore b hb).position_ne hposition

/-- A visited pair whose condition does not hold leaves the session as it is. -/
theorem skip (h : session.Follows set now lookup facts visited fired)
    (htest : a.test ⟨now, lookup⟩ = .ok false) :
    session.Follows set now lookup facts (visited ++ [a]) fired where
  __ := h
  mem_fired {ruleIndex factIndex} := by
    rw [h.mem_fired]
    constructor
    · rintro ⟨b, hb, hrest⟩
      exact ⟨b, List.mem_append_left _ hb, hrest⟩
    · rintro ⟨b, hb, hposition, hholds⟩
      obtain hb | hb := List.mem_append.1 hb
      · exact ⟨b, hb, hposition, hholds⟩
      · obtain rfl := List.mem_singleton.1 hb
        rw [htest] at hholds
        cases hholds
  fired_visited b hb := List.mem_append_left _ (h.fired_visited b hb)

/-- A visited pair whose condition holds counts as fired. -/
theorem note (h : session.Follows set now lookup facts visited fired)
    (htest : a.test ⟨now, lookup⟩ = .ok true) :
    { session with fired := (a.ruleIndex, a.factIndex) :: session.fired }.Follows
      set now lookup facts (visited ++ [a]) fired where
  __ := h
  mem_fired {ruleIndex factIndex} := by
    rw [List.mem_cons, h.mem_fired, Prod.mk.injEq]
    constructor
    · rintro (⟨rfl, rfl⟩ | ⟨b, hb, hrest⟩)
      · exact ⟨a, by simp, rfl, htest⟩
      · exact ⟨b, List.mem_append_left _ hb, hrest⟩
    · rintro ⟨b, hb, hposition, hholds⟩
      obtain hb | hb := List.mem_append.1 hb
      · exact .inr ⟨b, hb, hposition, hholds⟩
      · obtain rfl := List.mem_singleton.1 hb
        cases hposition
        exact .inl ⟨rfl, rfl⟩
  fired_visited b hb := List.mem_append_left _ (h.fired_visited b hb)

/-- A pair that fires marks its fact and reports the unique ids of the fact. -/
theorem fire (h : session.Follows set now lookup facts visited fired) (ha : a ∈ visited)
    {outcomes : List Outcome} {ok : Bool}
    (hfact : session.facts[a.factIndex]? = some { a.fact with outcomes, ok }) :
    (session.fire a.rule a.ruleIndex { a.fact with outcomes, ok } a.factIndex).Follows
      set now lookup facts visited (fired ++ [a]) where
  __ := h
  facts_eq := by
    rw [markedFacts_append_singleton, ← h.facts_eq, List.modify_eq_set_getElem?, hfact]
    rfl
  mem_reported {ruleIndex id} := by
    simp only [Session.fire, List.mem_append, List.mem_map, Prod.mk.injEq, h.mem_reported]
    constructor
    · rintro (⟨id, hid, rfl, rfl⟩ | ⟨b, hb, hrest⟩)
      · exact ⟨a, .inr (by simp), rfl, hid⟩
      · exact ⟨b, .inl hb, hrest⟩
    · rintro ⟨b, hb | hb, hrule, hid⟩
      · exact .inr ⟨b, hb, hrule, hid⟩
      · obtain rfl := List.mem_singleton.1 hb
        exact .inl ⟨id, hid, hrule, rfl⟩
  firings_eq := by
    rw [List.map_append, ← h.firings_eq, List.map_singleton, Activation.firing, ← h.set_eq,
      ← h.now_eq]
    rfl
  fired_visited b hb := by
    obtain hb | hb := List.mem_append.1 hb
    · exact h.fired_visited b hb
    · obtain rfl := List.mem_singleton.1 hb
      exact ha

/-- What a visit does, in terms of the pair. -/
theorem visitPair_eq (h : session.Follows set now lookup facts visited fired)
    {outcomes : List Outcome} {ok : Bool}
    (hget : session.facts[a.factIndex]? = some { a.fact with outcomes, ok }) :
    session.visitPair a =
      if (!a.isTyped || session.fired.contains (a.ruleIndex, a.factIndex)) = true then .ok session
      else
        match a.rule.condition.test ⟨now, lookup⟩ a.fact.payload with
        | .error error => .error ⟨session, a.rule.id, a.fact.id, error⟩
        | .ok false => .ok session
        | .ok true =>
          let noted := { session with fired := (a.ruleIndex, a.factIndex) :: session.fired }
          .ok (if session.hasReported a.ruleIndex { a.fact with outcomes, ok } then noted
            else noted.fire a.rule a.ruleIndex { a.fact with outcomes, ok } a.factIndex) := by
  have hcontext : session.context = ⟨now, lookup⟩ := by rw [context, h.now_eq, h.lookup_eq]
  rw [visitPair, Session.visit, hget, hcontext]
  rfl

/-- A rule for facts of another type is skipped. -/
theorem visitPair_of_not_isTyped (h : session.Follows set now lookup facts visited fired)
    (hfact : facts[a.factIndex]? = some a.fact) (htyped : ¬ a.isTyped = true) :
    session.visitPair a = .ok session := by
  obtain ⟨outcomes, ok, hget⟩ := h.getElem?_facts hfact
  rw [h.visitPair_eq hget, if_pos (by simp [htyped])]

/-- Visiting the next pair does what the plain scan does with it. -/
theorem visit (h : session.Follows set now lookup facts visited fired)
    (hfact : facts[a.factIndex]? = some a.fact) (htyped : a.isTyped = true)
    (hbefore : ∀ b ∈ visited, b.Before a) :
    Agrees set now lookup facts (visited ++ [a]) (session.visitPair a)
      (plainScan ⟨now, lookup⟩ fired [a]) := by
  obtain ⟨outcomes, ok, hget⟩ := h.getElem?_facts hfact
  rw [h.visitPair_eq hget, if_neg (by simp [htyped, h.notMem_fired hbefore]),
    h.hasReported_eq hbefore, plainScan]
  cases htest : a.rule.condition.test ⟨now, lookup⟩ a.fact.payload with
  | error error =>
    have htest : a.test ⟨now, lookup⟩ = .error ⟨a.rule.id, a.fact.id, error⟩ := by
      rw [Activation.test, htest, Except.mapError]
    rw [htest]
    exact .error _ _
  | ok holds =>
    have htest : a.test ⟨now, lookup⟩ = .ok holds := by rw [Activation.test, htest, Except.mapError]
    rw [htest]
    cases holds with
    | false => exact .ok (h.skip htest)
    | true =>
      have hnoted := h.note htest
      cases hrepeats : fired.any a.repeats with
      | true => exact .ok hnoted
      | false => exact .ok (hnoted.fire (by simp) hget)

/-- Visiting the pairs that are left does what the plain scan does with those of matching type. -/
theorem foldlM_visitPair (h : session.Follows set now lookup facts visited fired)
    {rest : List Activation} (hfacts : ∀ a ∈ rest, facts[a.factIndex]? = some a.fact)
    (hbefore : ∀ b ∈ visited, ∀ a ∈ rest, b.Before a) (hordered : rest.Pairwise Activation.Before) :
    Agrees set now lookup facts (visited ++ rest.filter (·.isTyped))
      (rest.foldlM visitPair session)
      (plainScan ⟨now, lookup⟩ fired (rest.filter (·.isTyped))) := by
  induction rest generalizing session visited fired with
  | nil => simpa [plainScan] using Agrees.ok h
  | cons a rest ih =>
    obtain ⟨hfact, hfacts⟩ := List.forall_mem_cons.1 hfacts
    obtain ⟨hfirst, hordered⟩ := List.pairwise_cons.1 hordered
    rw [List.foldlM_cons, List.filter_cons]
    split
    · next htyped =>
      have hvisit := h.visit hfact htyped fun b hb => hbefore b hb a List.mem_cons_self
      rw [← List.singleton_append, plainScan_append]
      generalize session.visitPair a = result, plainScan ⟨now, lookup⟩ fired [a] = scanned
        at hvisit ⊢
      cases hvisit with
      | error interrupted failure => exact .error interrupted failure
      | ok hnext =>
        rw [← List.append_assoc]
        refine ih hnext hfacts (fun b hb c hc => ?_) hordered
        obtain hb | hb := List.mem_append.1 hb
        · exact hbefore b hb c (List.mem_cons_of_mem _ hc)
        · obtain rfl := List.mem_singleton.1 hb
          exact hfirst c hc
    · next htyped =>
      rw [h.visitPair_of_not_isTyped hfact htyped]
      exact ih h hfacts (fun b hb c hc => hbefore b hb c (List.mem_cons_of_mem _ hc)) hordered

end Follows

/-- The first pass is the plain scan of the agenda. -/
theorem scan_agrees (set : RuleSet) (now : Instant) (lookup : Option Lookup) (facts : List Fact) :
    Agrees set now lookup facts (set.agenda now facts) (start set now lookup facts).scan
      (plainScan ⟨now, lookup⟩ [] (set.agenda now facts)) := by
  rw [scan_eq_foldlM (start set now lookup facts) facts rfl]
  exact follows_start.foldlM_visitPair (fun a ha => RuleSet.getElem?_of_mem_pairs ha)
    (fun b hb => absurd hb List.not_mem_nil) RuleSet.pairs_ordered

/-! ## Further passes -/

/-- A session that has visited its agenda has settled all its pairs. -/
theorem Follows.settled (h : session.Follows set now lookup facts (set.agenda now facts) fired)
    (htold : ∀ a ∈ set.agenda now facts, ∃ holds, a.test ⟨now, lookup⟩ = .ok holds)
    (ha : a ∈ set.pairs now facts) : session.Settled a := by
  obtain ⟨outcomes, ok, hget⟩ := h.getElem?_facts (RuleSet.getElem?_of_mem_pairs ha)
  refine ⟨_, hget, ?_⟩
  by_cases htyped : a.isTyped = true
  · have hagenda : a ∈ set.agenda now facts := List.mem_filter.2 ⟨ha, htyped⟩
    obtain ⟨holds, htest⟩ := htold a hagenda
    cases holds with
    | true => exact .inr (.inl (h.mem_fired.2 ⟨a, hagenda, rfl, htest⟩))
    | false =>
      rw [Activation.test, mapError_eq_ok] at htest
      rw [context, h.now_eq, h.lookup_eq]
      exact .inr (.inr htest)
  · have hother : a.rule.factType ≠ a.fact.factType := by simpa [Activation.isTyped] using htyped
    exact .inl hother

/-- A session that has visited its agenda stays as it is in a further pass. -/
theorem Follows.scan_again (h : session.Follows set now lookup facts (set.agenda now facts) fired)
    (htold : ∀ a ∈ set.agenda now facts, ∃ holds, a.test ⟨now, lookup⟩ = .ok holds) :
    session.scan = .ok session := by
  have hlength : session.facts.length = facts.length := by simp [h.facts_eq, markedFacts]
  rw [scan_eq_foldlM session facts hlength, h.set_eq, h.now_eq]
  exact foldlM_visitPair_of_settled fun a ha => h.settled htold ha

/-- Firing to exhaustion comes to the plain scan of the agenda. -/
theorem fireAll_start_agrees (set : RuleSet) (now : Instant) (lookup : Option Lookup)
    (facts : List Fact) :
    Agrees set now lookup facts (set.agenda now facts) (start set now lookup facts).fireAll
      (plainScan ⟨now, lookup⟩ [] (set.agenda now facts)) := by
  rw [fireAll_eq_scan]
  exact scan_agrees set now lookup facts

/-! ## The passes end -/

/-- The passes of a session have one result. -/
theorem Runs.unique {first second : Except Interrupted Session} (hfirst : session.Runs first)
    (hsecond : session.Runs second) : first = second := by
  induction hfirst with
  | interrupted hscan =>
    cases hsecond with
    | interrupted hscan' => exact hscan.symm.trans hscan'
    | quiet hscan' => cases hscan.symm.trans hscan'
    | again hscan' => cases hscan.symm.trans hscan'
  | quiet hscan hquiet =>
    cases hsecond with
    | interrupted hscan' => cases hscan.symm.trans hscan'
    | quiet hscan' => exact hscan.symm.trans hscan'
    | again hscan' hmore =>
      cases hscan.symm.trans hscan'
      exact absurd hquiet hmore
  | again hscan hmore _ ih =>
    cases hsecond with
    | interrupted hscan' => cases hscan.symm.trans hscan'
    | quiet hscan' hquiet =>
      cases hscan.symm.trans hscan'
      exact absurd hquiet hmore
    | again hscan' _ hrest =>
      cases hscan.symm.trans hscan'
      exact ih hrest

theorem runs_fireAll_start (set : RuleSet) (now : Instant) (lookup : Option Lookup)
    (facts : List Fact) :
    (start set now lookup facts).Runs (start set now lookup facts).fireAll := by
  rw [fireAll_eq_scan]
  cases hscan : (start set now lookup facts).scan with
  | error interrupted => exact .interrupted hscan
  | ok final =>
    have hrest : final.scan = .ok final := scan_of_scan hscan
    by_cases hquiet : final.firings.length = (start set now lookup facts).firings.length
    · exact .quiet hscan hquiet
    · exact .again hscan hquiet (.quiet hrest rfl)

/-- However many passes it takes, a session with some facts ends, and as one plain scan of its
agenda does: with the failure that ends the scan, or with the firings of the pairs that the scan
lets fire. These stand in the order of the scan, none twice, and their number is what the session
reports. After a success there is nothing left to fire. -/
theorem fireAll_agrees (set : RuleSet) (now : Instant) (lookup : Option Lookup)
    (facts : List Fact) :
    let session := facts.foldl insert (start set now lookup [])
    (∀ result, session.Runs result ↔ result = session.fireAll) ∧
      match plainScan ⟨now, lookup⟩ [] (set.agenda now facts) with
      | .error failure => ∃ state, session.fireAll = .error ⟨state, failure⟩
      | .ok fired =>
        fired.Sublist (set.agenda now facts) ∧ (fired.map (·.position)).Nodup ∧
          ∃ final, session.fireAll = .ok final ∧
            final.facts = markedFacts facts fired ∧
            final.firings = fired.map (·.firing set.category now) ∧
            final.firings.length - session.firings.length = fired.length ∧
            final.fireAll = .ok final := by
  have hstart : facts.foldl insert (start set now lookup []) = start set now lookup facts :=
    foldl_insert _ facts
  intro session
  simp only [session, hstart]
  refine ⟨fun result => ⟨fun h => h.unique (runs_fireAll_start set now lookup facts), ?_⟩, ?_⟩
  · rintro rfl
    exact runs_fireAll_start set now lookup facts
  have hagrees := fireAll_start_agrees set now lookup facts
  generalize hresult : (start set now lookup facts).fireAll = result at hagrees ⊢
  generalize hscanned : plainScan ⟨now, lookup⟩ [] (set.agenda now facts) = scanned at hagrees ⊢
  cases hagrees with
  | error state failure => exact ⟨state, rfl⟩
  | @ok final fired hfollows =>
    obtain ⟨_, rfl, hsublist⟩ := plainScan_sublist hscanned
    have hnodup : (fired.map (·.position)).Nodup :=
      List.pairwise_map.2
        ((RuleSet.agenda_ordered.sublist hsublist).imp fun h => h.position_ne)
    refine ⟨hsublist, hnodup, final, rfl, hfollows.facts_eq, hfollows.firings_eq, ?_, ?_⟩
    · simp [hfollows.firings_eq, start]
    · exact fireAll_of_scan_eq (hfollows.scan_again (test_of_plainScan hscanned))

end Session

end FisheryRules
