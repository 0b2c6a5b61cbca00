import FisheryRules.Proofs.Evaluation.Agenda

/-!
# Settled pairs

A pass of a session visits the pairs of a fact and a rule one after the other. A pair, once visited,
is settled: later visits leave the session as it is, whatever has fired since. So a session fires
all that it can in its first pass.

## Main definitions

* `Session.visitPair` — the visit of one pair.
* `Session.Grows`, `Session.Settled` — what later sessions keep, and the pairs that are done.

## Main results

* `Session.visitPair_settles` — a visit settles its pair.
* `Session.fireAll_eq_scan` — firing to exhaustion is one pass.
-/
namespace FisheryRules

namespace Session

/-- Visits the fact and the rule of a pair. -/
def visitPair (session : Session) (a : Activation) : Except Interrupted Session :=
  session.visit a.factIndex a.ruleIndex a.rule

theorem foldlM_flatMap {σ α β ε : Type} (xs : List α) (f : α → List β)
    (g : σ → β → Except ε σ) (s : σ) :
    (xs.flatMap f).foldlM g s = xs.foldlM (fun s x => (f x).foldlM g s) s := by
  induction xs generalizing s with
  | nil => rfl
  | cons x xs ih => simp only [List.flatMap_cons, List.foldlM_append, List.foldlM_cons, ih]

/-- A pass visits the pairs in order. -/
theorem scan_eq_foldlM (session : Session) (facts : List Fact)
    (h : session.facts.length = facts.length) :
    session.scan = (session.set.pairs session.now facts).foldlM visitPair session := by
  have hrange : List.range session.facts.length = facts.zipIdx.map Prod.snd := by
    rw [List.zipIdx_map_snd, h, List.range_eq_range']
  rw [scan, hrange, RuleSet.pairs, foldlM_flatMap, List.foldlM_map]
  simp only [List.foldlM_map]
  rfl

/-! ## What a visit settles -/

/-- The second session has come out of the first one: facts may have been added and outcomes
attached, and rules may have fired. -/
structure Grows (before after : Session) : Prop where
  set_eq : after.set = before.set
  now_eq : after.now = before.now
  lookup_eq : after.lookup = before.lookup
  facts : ∀ {i : Nat} {fact : Fact}, before.facts[i]? = some fact →
    ∃ outcomes ok, after.facts[i]? = some { fact with outcomes, ok }
  fired : before.fired ⊆ after.fired
  firings : before.firings <+: after.firings

/-- Nothing comes of the pair: the rule is one for other facts, the pair has fired, or the condition
does not hold. -/
def Settled (session : Session) (a : Activation) : Prop :=
  ∃ fact, session.facts[a.factIndex]? = some fact ∧
    (a.rule.factType ≠ fact.factType ∨ (a.ruleIndex, a.factIndex) ∈ session.fired ∨
      a.rule.condition.test session.context fact.payload = .ok false)

variable {session next later : Session} {a : Activation}

namespace Grows

theorem refl (session : Session) : session.Grows session where
  set_eq := rfl
  now_eq := rfl
  lookup_eq := rfl
  facts {_ fact} h := ⟨fact.outcomes, fact.ok, h⟩
  fired := List.Subset.refl _
  firings := List.prefix_refl _

theorem trans (h : session.Grows next) (h' : next.Grows later) : session.Grows later where
  set_eq := h'.set_eq.trans h.set_eq
  now_eq := h'.now_eq.trans h.now_eq
  lookup_eq := h'.lookup_eq.trans h.lookup_eq
  facts hfact := by
    obtain ⟨outcomes, ok, hnext⟩ := h.facts hfact
    obtain ⟨outcomes', ok', hlater⟩ := h'.facts hnext
    exact ⟨outcomes', ok', hlater⟩
  fired := List.Subset.trans h.fired h'.fired
  firings := h.firings.trans h'.firings

theorem context_eq (h : session.Grows next) : next.context = session.context := by
  rw [context, context, h.now_eq, h.lookup_eq]

/-- What is settled stays settled. -/
theorem settled (h : session.Grows next) (hsettled : session.Settled a) : next.Settled a := by
  obtain ⟨fact, hfact, hcause⟩ := hsettled
  obtain ⟨outcomes, ok, hnext⟩ := h.facts hfact
  exact ⟨_, hnext, hcause.imp_right (.imp (fun hmem => h.fired hmem) fun htest =>
    h.context_eq ▸ htest)⟩

end Grows

/-- The pair has not fired, and whether it does depends on what its condition says. -/
structure Due (session : Session) (a : Activation) (fact : Fact) : Prop where
  fact_eq : session.facts[a.factIndex]? = some fact
  factType : a.rule.factType = fact.factType
  notMem_fired : (a.ruleIndex, a.factIndex) ∉ session.fired
  test_ne : a.rule.condition.test session.context fact.payload ≠ .ok false

/-- The session after the condition of a pair has held: the rule fires unless it has reported the
fact. -/
def hold (session : Session) (a : Activation) (fact : Fact) : Session :=
  let noted := { session with fired := (a.ruleIndex, a.factIndex) :: session.fired }
  if session.hasReported a.ruleIndex fact then noted
  else noted.fire a.rule a.ruleIndex fact a.factIndex

/-- A pair is settled or due. -/
theorem settled_or_due (h : a.factIndex < session.facts.length) :
    session.Settled a ∨ ∃ fact, session.Due a fact := by
  have hfact : session.facts[a.factIndex]? = some session.facts[a.factIndex] :=
    List.getElem?_eq_getElem h
  by_cases hsettled : session.Settled a
  · exact .inl hsettled
  · refine .inr ⟨_, hfact, ?_, fun hfired => ?_, fun htest => ?_⟩
    · by_contra htype
      exact hsettled ⟨_, hfact, .inl htype⟩
    · exact hsettled ⟨_, hfact, .inr (.inl hfired)⟩
    · exact hsettled ⟨_, hfact, .inr (.inr htest)⟩

theorem Settled.visitPair (h : session.Settled a) : session.visitPair a = .ok session := by
  obtain ⟨fact, hfact, hcause⟩ := h
  rw [Session.visitPair, visit, hfact]
  simp only [Bool.or_eq_true, bne_iff_ne, List.contains_iff_mem]
  by_cases hskip : a.rule.factType ≠ fact.factType ∨ (a.ruleIndex, a.factIndex) ∈ session.fired
  · rw [if_pos hskip]
  · rw [if_neg hskip, (or_assoc.2 hcause).resolve_left hskip]

theorem Due.visitPair {fact : Fact} (h : session.Due a fact) :
    session.visitPair a =
      match a.rule.condition.test session.context fact.payload with
      | .error error => .error ⟨session, a.rule.id, fact.id, error⟩
      | .ok _ => .ok (session.hold a fact) := by
  have hopen : ¬ (a.rule.factType ≠ fact.factType ∨
      (a.ruleIndex, a.factIndex) ∈ session.fired) := by simp [h.factType, h.notMem_fired]
  have htest := h.test_ne
  rw [Session.visitPair, visit, h.fact_eq]
  simp only [Bool.or_eq_true, bne_iff_ne, List.contains_iff_mem, if_neg hopen]
  cases hholds : a.rule.condition.test session.context fact.payload with
  | error error => rfl
  | ok holds =>
    cases holds with
    | false => exact absurd hholds htest
    | true => rfl

theorem grows_fire {fact : Fact} (rule : CompiledRule) (ruleIndex : Nat) {factIndex : Nat}
    (hfact : session.facts[factIndex]? = some fact) :
    session.Grows (session.fire rule ruleIndex fact factIndex) where
  __ := Grows.refl session
  facts {i other} hother := by
    by_cases hi : factIndex = i
    · subst hi
      obtain rfl : other = fact := Option.some.inj (hother.symm.trans hfact)
      obtain ⟨outcomes, ok, hmark⟩ := rule.mark_eq other
      refine ⟨outcomes, ok, ?_⟩
      rw [fire, List.getElem?_set_self (List.getElem?_eq_some_iff.1 hfact).1, hmark]
    · refine ⟨other.outcomes, other.ok, ?_⟩
      rw [fire, List.getElem?_set_ne hi]
      exact hother
  firings := List.prefix_append _ _

/-- A pair whose condition has held is settled. -/
theorem Due.hold_settles {fact : Fact} (h : session.Due a fact) :
    session.Grows (session.hold a fact) ∧ (session.hold a fact).Settled a ∧
      (session.hold a fact).facts.length = session.facts.length := by
  let noted := { session with fired := (a.ruleIndex, a.factIndex) :: session.fired }
  have hnoted : session.Grows noted := {
    __ := Grows.refl session
    fired := List.subset_cons_self _ _ }
  have hsettled : noted.Settled a := ⟨fact, h.fact_eq, .inr (.inl List.mem_cons_self)⟩
  rw [hold]
  split
  · exact ⟨hnoted, hsettled, rfl⟩
  · have hfired : noted.Grows (noted.fire a.rule a.ruleIndex fact a.factIndex) :=
      grows_fire a.rule a.ruleIndex h.fact_eq
    exact ⟨hnoted.trans hfired, hfired.settled hsettled, List.length_set⟩

/-- A visit settles the pair. -/
theorem visitPair_settles (hfact : a.factIndex < session.facts.length)
    (h : session.visitPair a = .ok next) :
    session.Grows next ∧ next.Settled a ∧ next.facts.length = session.facts.length := by
  obtain hsettled | ⟨fact, hdue⟩ := settled_or_due hfact
  · cases hsettled.visitPair.symm.trans h
    exact ⟨.refl session, hsettled, rfl⟩
  · rw [hdue.visitPair] at h
    split at h
    · cases h
    · cases h
      exact hdue.hold_settles

/-- A visit is interrupted before it changes anything. -/
theorem visitPair_error (hfact : a.factIndex < session.facts.length) {interrupted : Interrupted}
    (h : session.visitPair a = .error interrupted) : interrupted.session = session := by
  obtain hsettled | ⟨fact, hdue⟩ := settled_or_due hfact
  · cases hsettled.visitPair.symm.trans h
  · rw [hdue.visitPair] at h
    split at h
    · cases h
      rfl
    · cases h

/-! ## Passes over settled pairs -/

/-- The pairs are ones of facts that the session has. -/
def Holds (session : Session) (pairs : List Activation) : Prop :=
  ∀ a ∈ pairs, a.factIndex < session.facts.length

variable {pairs : List Activation}

/-- Visits settle the pairs. -/
theorem foldlM_visitPair_settles (hpairs : session.Holds pairs)
    (h : pairs.foldlM visitPair session = .ok next) :
    session.Grows next ∧ (∀ a ∈ pairs, next.Settled a) ∧
      next.facts.length = session.facts.length := by
  induction pairs generalizing session with
  | nil =>
    cases h
    exact ⟨.refl _, by simp, rfl⟩
  | cons a pairs ih =>
    rw [List.foldlM_cons] at h
    obtain ⟨middle, hmiddle, h⟩ := bind_eq_ok.1 h
    obtain ⟨hfact, hfacts⟩ := List.forall_mem_cons.1 hpairs
    obtain ⟨hgrows, hsettled, hlength⟩ := visitPair_settles hfact hmiddle
    obtain ⟨hgrows', hsettled', hlength'⟩ := ih (fun b hb => hlength ▸ hfacts b hb) h
    exact ⟨hgrows.trans hgrows', List.forall_mem_cons.2 ⟨hgrows'.settled hsettled, hsettled'⟩,
      hlength'.trans hlength⟩

/-- Visits to settled pairs change nothing. -/
theorem foldlM_visitPair_of_settled (h : ∀ a ∈ pairs, session.Settled a) :
    pairs.foldlM visitPair session = .ok session := by
  induction pairs with
  | nil => rfl
  | cons a pairs ih =>
    obtain ⟨hfirst, hothers⟩ := List.forall_mem_cons.1 h
    rw [List.foldlM_cons, hfirst.visitPair, ok_bind]
    exact ih hothers

/-- Visits that are interrupted stop before one of the pairs. -/
theorem foldlM_visitPair_error (hpairs : session.Holds pairs) {interrupted : Interrupted}
    (h : pairs.foldlM visitPair session = .error interrupted) :
    ∃ before rest, pairs = before ++ rest ∧
      before.foldlM visitPair session = .ok interrupted.session := by
  induction pairs generalizing session with
  | nil => cases h
  | cons a pairs ih =>
    rw [List.foldlM_cons] at h
    obtain ⟨hfact, hfacts⟩ := List.forall_mem_cons.1 hpairs
    cases hvisit : session.visitPair a with
    | ok next =>
      rw [hvisit, ok_bind] at h
      obtain ⟨-, -, hlength⟩ := visitPair_settles hfact hvisit
      obtain ⟨before, rest, rfl, hbefore⟩ := ih (fun b hb => hlength ▸ hfacts b hb) h
      exact ⟨a :: before, rest, rfl, by rw [List.foldlM_cons, hvisit, ok_bind, hbefore]⟩
    | error failed =>
      rw [hvisit] at h
      cases h
      exact ⟨[], a :: pairs, rfl, congrArg Except.ok (visitPair_error hfact hvisit).symm⟩

theorem holds_pairs (set : RuleSet) (now : Instant) {facts : List Fact}
    (h : session.facts.length = facts.length) : session.Holds (set.pairs now facts) := by
  intro a ha
  rw [h]
  exact (List.getElem?_eq_some_iff.1 (RuleSet.getElem?_of_mem_pairs ha)).1

/-- A pass after a pass changes nothing. -/
theorem scan_of_scan (h : session.scan = .ok next) : next.scan = .ok next := by
  rw [scan_eq_foldlM session session.facts rfl] at h
  obtain ⟨hgrows, hsettled, hlength⟩ := foldlM_visitPair_settles (holds_pairs _ _ rfl) h
  rw [scan_eq_foldlM next session.facts hlength, hgrows.set_eq, hgrows.now_eq]
  exact foldlM_visitPair_of_settled hsettled

/-- A session at rest needs no further pass. -/
theorem passes_of_scan_eq (h : session.scan = .ok session) (bound : Nat) :
    passes bound session = .ok session := by
  cases bound with
  | zero => rfl
  | succ bound => rw [passes, h, ok_bind, if_pos rfl]; rfl

theorem fireAll_of_scan_eq (h : session.scan = .ok session) : session.fireAll = .ok session :=
  passes_of_scan_eq h _

/-- Whatever a session has been through, it fires all that it can in one pass. -/
theorem fireAll_eq_scan (session : Session) : session.fireAll = session.scan := by
  rw [fireAll, passes]
  cases hscan : session.scan with
  | error interrupted => rfl
  | ok next =>
    rw [ok_bind]
    split
    · rfl
    · exact passes_of_scan_eq (scan_of_scan hscan) _

/-- Firing visits the pairs in order, once. The facts matter by their number only. -/
theorem fireAll_eq_foldlM {set : RuleSet} {now : Instant} {facts : List Fact}
    (hset : session.set = set) (hnow : session.now = now)
    (hlength : session.facts.length = facts.length) :
    session.fireAll = (set.pairs now facts).foldlM visitPair session := by
  rw [fireAll_eq_scan, scan_eq_foldlM session facts hlength, hset, hnow]

/-- Facts that are inserted one after the other stand in that order. -/
theorem foldl_insert (session : Session) (facts : List Fact) :
    facts.foldl insert session = { session with facts := session.facts ++ facts } := by
  induction facts generalizing session with
  | nil => simp
  | cons fact facts ih => simp [ih, insert]

section Start

variable (set : RuleSet) (now : Instant) (lookup : Option Lookup) (facts : List Fact)

theorem holds_start : (start set now lookup facts).Holds (set.pairs now facts) :=
  holds_pairs set now rfl

theorem fireAll_start :
    (start set now lookup facts).fireAll =
      (set.pairs now facts).foldlM visitPair (start set now lookup facts) :=
  fireAll_eq_foldlM rfl rfl rfl

end Start

end Session

end FisheryRules
