import FisheryRules.Proofs.Condition.Connective
import FisheryRules.Proofs.Evaluation.SettledPairs

/-!
# Resumed sessions

A session may get its facts in portions and fire after each of them, and it may go on with another
service after a failure. It comes to what one session comes to that has all facts and the last
service from the start: `Session.feedAll_resumes`.

What carries this is that visited pairs stay settled when facts are added, and when the service is
changed for one that answers more.

## Main definitions

* `Lookup.Covers` — a service answers whatever another one answers.
* `Session.feed`, `Session.feedAll` — facts in portions.
-/
namespace FisheryRules

/-! ## Services that answer more -/

/-- The service gives every answer that the first one gives. Without a first one there is none. -/
def Lookup.Covers (lookup : Lookup) (first : Option Lookup) : Prop :=
  ∀ earlier, first = some earlier → ∀ list value present,
    earlier list value = .ok present → lookup list value = .ok present

section Covers

variable {lookup : Lookup} {first : Option Lookup} {now : Instant} {fact : Payload}

mutual

/-- A value that can be told with a service is told by one that answers more. -/
theorem Condition.evaluate_of_covers (h : lookup.Covers first) (condition : Condition)
    {value : Value} (hvalue : condition.evaluate ⟨now, first⟩ fact = .ok value) :
    condition.evaluate ⟨now, some lookup⟩ fact = .ok value := by
  cases condition with
  | literal _ | now => exact hvalue
  | field ref => exact hvalue
  | inList list argument =>
    simp only [evaluate, bind_eq_ok] at hvalue ⊢
    obtain ⟨found, hfound, hvalue⟩ := hvalue
    refine ⟨found, evaluate_of_covers h argument hfound, ?_⟩
    split at hvalue
    · next hnull =>
      rw [if_pos hnull]
      exact hvalue
    · next hnull =>
      rw [if_neg hnull]
      cases first with
      | none => cases hvalue
      | some earlier =>
        simp only at hvalue ⊢
        cases hanswer : earlier list found.toText with
        | error reason =>
          rw [hanswer] at hvalue
          cases hvalue
        | ok present =>
          rw [hanswer] at hvalue
          rw [h earlier rfl list found.toText present hanswer]
          exact hvalue
  | not inner =>
    simp only [evaluate, bind_eq_ok] at hvalue ⊢
    obtain ⟨found, hfound, hvalue⟩ := hvalue
    exact ⟨found, evaluate_of_covers h inner hfound, hvalue⟩
  | and operands =>
    simp only [evaluate, bind_eq_ok] at hvalue ⊢
    obtain ⟨holds, hholds, hvalue⟩ := hvalue
    exact ⟨holds, holds_of_covers h .and operands hholds, hvalue⟩
  | or operands =>
    simp only [evaluate, bind_eq_ok] at hvalue ⊢
    obtain ⟨holds, hholds, hvalue⟩ := hvalue
    exact ⟨holds, holds_of_covers h .or operands hholds, hvalue⟩
  | compare op left right =>
    simp only [evaluate, bind_eq_ok] at hvalue ⊢
    obtain ⟨leftValue, hleft, rightValue, hright, hvalue⟩ := hvalue
    exact ⟨leftValue, evaluate_of_covers h left hleft, rightValue,
      evaluate_of_covers h right hright, hvalue⟩

theorem Condition.holds_of_covers (h : lookup.Covers first) (connective : Connective)
    (operands : List Condition) {holds : Bool}
    (hholds : connective.holds ⟨now, first⟩ fact operands = .ok holds) :
    connective.holds ⟨now, some lookup⟩ fact operands = .ok holds := by
  cases operands with
  | nil => rwa [Connective.holds_nil] at hholds ⊢
  | cons operand others =>
    rw [Connective.holds_cons_eq] at hholds ⊢
    obtain ⟨value, hvalue, hholds⟩ := bind_eq_ok.1 hholds
    obtain ⟨decided, hdecided, hholds⟩ := bind_eq_ok.1 hholds
    refine bind_eq_ok.2 ⟨value, evaluate_of_covers h operand hvalue, ?_⟩
    refine bind_eq_ok.2 ⟨decided, hdecided, ?_⟩
    split at hholds
    · next hdecisive => rwa [if_pos hdecisive]
    · next hdecisive =>
      rw [if_neg hdecisive]
      exact holds_of_covers h connective others hholds

end

theorem Condition.test_of_covers (h : lookup.Covers first) {condition : Condition} {holds : Bool}
    (htest : condition.test ⟨now, first⟩ fact = .ok holds) :
    condition.test ⟨now, some lookup⟩ fact = .ok holds := by
  obtain ⟨value, hvalue, hholds⟩ := bind_eq_ok.1 htest
  exact bind_eq_ok.2 ⟨value, condition.evaluate_of_covers h hvalue, hholds⟩

end Covers

namespace Session

/-! ## Facts in portions -/

variable {session next : Session} {a : Activation} {pairs : List Activation}

/-- The session with more facts. -/
def addFacts (session : Session) (more : List Fact) : Session :=
  { session with facts := session.facts ++ more }

/-- What comes of a session, carried over to another one. -/
def carry (change : Session → Session) : Except Interrupted Session → Except Interrupted Session
  | .ok session => .ok (change session)
  | .error interrupted => .error ⟨change interrupted.session, interrupted.failure⟩

theorem getElem?_addFacts {i : Nat} (hi : i < session.facts.length) (more : List Fact) :
    (session.addFacts more).facts[i]? = session.facts[i]? :=
  List.getElem?_append_left hi

theorem grows_addFacts (session : Session) (more : List Fact) :
    session.Grows (session.addFacts more) where
  __ := Grows.refl session
  facts {i fact} h := by
    rw [getElem?_addFacts (List.getElem?_eq_some_iff.1 h).1, h]
    exact ⟨fact.outcomes, fact.ok, rfl⟩

theorem hold_addFacts (hfact : a.factIndex < session.facts.length) (fact : Fact)
    (more : List Fact) :
    (session.addFacts more).hold a fact = (session.hold a fact).addFacts more := by
  have hreported : (session.addFacts more).hasReported a.ruleIndex fact =
      session.hasReported a.ruleIndex fact := rfl
  rw [hold, hold, hreported]
  split
  · rfl
  · simp only [addFacts, fire, List.set_append_left _ _ hfact]

/-- Facts that come later do not bear on a visit. -/
theorem visitPair_addFacts (hfact : a.factIndex < session.facts.length) (more : List Fact) :
    (session.addFacts more).visitPair a = carry (·.addFacts more) (session.visitPair a) := by
  obtain hsettled | ⟨fact, hdue⟩ := settled_or_due hfact
  · rw [hsettled.visitPair, ((session.grows_addFacts more).settled hsettled).visitPair]
    rfl
  · have hmore : (session.addFacts more).Due a fact := {
      __ := hdue
      fact_eq := (getElem?_addFacts hfact more).trans hdue.fact_eq }
    have hcontext : (session.addFacts more).context = session.context := rfl
    rw [hdue.visitPair, hmore.visitPair, hold_addFacts hfact, hcontext]
    cases a.rule.condition.test session.context fact.payload <;> rfl

theorem foldlM_visitPair_addFacts (hpairs : session.Holds pairs) (more : List Fact) :
    pairs.foldlM visitPair (session.addFacts more) =
      carry (·.addFacts more) (pairs.foldlM visitPair session) := by
  induction pairs generalizing session with
  | nil => rfl
  | cons a pairs ih =>
    obtain ⟨hfact, hfacts⟩ := List.forall_mem_cons.1 hpairs
    rw [List.foldlM_cons, List.foldlM_cons, visitPair_addFacts hfact]
    cases hvisit : session.visitPair a with
    | error interrupted => rfl
    | ok next =>
      obtain ⟨-, -, hlength⟩ := visitPair_settles hfact hvisit
      exact ih fun b hb => hlength ▸ hfacts b hb

/-- Adds facts and fires. -/
def feed (session : Session) (facts : List Fact) : Except Interrupted Session :=
  (facts.foldl insert session).fireAll

/-- Adds portions of facts and fires after each of them. -/
def feedAll (portions : List (List Fact)) (session : Session) : Except Interrupted Session :=
  portions.foldlM feed session

theorem feedAll_append_singleton (portions : List (List Fact)) (last : List Fact)
    (session : Session) :
    feedAll (portions ++ [last]) session = feedAll portions session >>= fun next =>
      next.feed last := by
  rw [feedAll, List.foldlM_append]
  simp only [List.foldlM_cons, List.foldlM_nil, bind_pure]
  rfl

variable {set : RuleSet} {now : Instant} {lookup : Option Lookup}

theorem pairs_append (facts more : List Fact) :
    ∃ rest, set.pairs now (facts ++ more) = set.pairs now facts ++ rest := by
  rw [RuleSet.pairs, List.zipIdx_append, List.flatMap_append]
  exact ⟨_, rfl⟩

/-- Firing on all facts is firing on the first ones, and then once more with the others. -/
theorem fireAll_append (facts more : List Fact) :
    (start set now lookup (facts ++ more)).fireAll =
      match (start set now lookup facts).fireAll with
      | .ok session => session.feed more
      | .error interrupted => .error ⟨interrupted.session.addFacts more, interrupted.failure⟩ := by
  obtain ⟨rest, hrest⟩ : ∃ rest, set.pairs now (facts ++ more) = set.pairs now facts ++ rest :=
    pairs_append facts more
  have hpairs := holds_start set now lookup facts
  have hwhole : (start set now lookup (facts ++ more)).fireAll =
      carry (·.addFacts more) (start set now lookup facts).fireAll >>= fun next =>
        rest.foldlM visitPair next := by
    rw [fireAll_start, fireAll_start, ← foldlM_visitPair_addFacts hpairs, ← List.foldlM_append,
      ← hrest]
    rfl
  rw [hwhole]
  cases hresult : (start set now lookup facts).fireAll with
  | error interrupted => rfl
  | ok session =>
    obtain ⟨hgrows, hsettled, hlength⟩ := foldlM_visitPair_settles hpairs
      ((fireAll_start ..).symm.trans hresult)
    have hfed : more.foldl insert session = session.addFacts more := foldl_insert session more
    have hlength' : (session.addFacts more).facts.length = (facts ++ more).length := by
      simp [addFacts, hlength, start]
    -- The pairs of the first facts are settled, so the pass comes to those of the others.
    have hagain : session.feed more = (set.pairs now (facts ++ more)).foldlM visitPair
        (session.addFacts more) := by
      rw [feed, hfed]
      exact fireAll_eq_foldlM hgrows.set_eq hgrows.now_eq hlength'
    simp only [hagain]
    rw [hrest, List.foldlM_append, foldlM_visitPair_of_settled fun a ha =>
      (session.grows_addFacts more).settled (hsettled a ha)]
    rfl

/-- Facts that come in portions fire as they do when they come at once. -/
theorem feedAll_start (portions : List (List Fact)) :
    feedAll portions (start set now lookup []) = .ok session ↔
      (start set now lookup portions.flatten).fireAll = .ok session := by
  induction portions using List.reverseRecOn generalizing session with
  | nil =>
    have hrest : (start set now lookup []).fireAll = .ok (start set now lookup []) :=
      fireAll_of_scan_eq rfl
    rw [List.flatten_nil, hrest]
    rfl
  | append_singleton portions last ih =>
    rw [feedAll_append_singleton, bind_eq_ok, List.flatten_append, List.flatten_singleton,
      fireAll_append]
    cases hfirst : (start set now lookup portions.flatten).fireAll with
    | ok first => simp [ih, hfirst]
    | error interrupted => simp [ih, hfirst]

/-! ## Another service -/

theorem Settled.setLookup {lookup : Lookup} (hcovers : lookup.Covers session.lookup)
    (h : session.Settled a) : (session.setLookup lookup).Settled a := by
  obtain ⟨fact, hfact, hcause⟩ := h
  exact ⟨fact, hfact, hcause.imp_right (.imp_right (Condition.test_of_covers hcovers))⟩

theorem hold_setLookup (session : Session) (lookup : Lookup) (a : Activation) (fact : Fact) :
    (session.setLookup lookup).hold a fact = (session.hold a fact).setLookup lookup := by
  have hreported : (session.setLookup lookup).hasReported a.ruleIndex fact =
      session.hasReported a.ruleIndex fact := rfl
  rw [hold, hold, hreported]
  split <;> rfl

/-- A visit that succeeds comes to the same with a service that answers more. -/
theorem visitPair_setLookup {lookup : Lookup} (hcovers : lookup.Covers session.lookup)
    (hfact : a.factIndex < session.facts.length) (h : session.visitPair a = .ok next) :
    (session.setLookup lookup).visitPair a = .ok (next.setLookup lookup) := by
  obtain hsettled | ⟨fact, hdue⟩ := settled_or_due hfact
  · cases hsettled.visitPair.symm.trans h
    exact (hsettled.setLookup hcovers).visitPair
  · rw [hdue.visitPair] at h
    cases htest : a.rule.condition.test session.context fact.payload with
    | error error =>
      rw [htest] at h
      cases h
    | ok holds =>
      rw [htest] at h
      cases h
      have htest' : a.rule.condition.test (session.setLookup lookup).context fact.payload =
        .ok holds := Condition.test_of_covers hcovers htest
      have hdue' : (session.setLookup lookup).Due a fact := {
        __ := hdue
        test_ne := by
          rw [htest', ← htest]
          exact hdue.test_ne }
      rw [hdue'.visitPair, htest', hold_setLookup]

theorem foldlM_visitPair_setLookup {lookup : Lookup} (hcovers : lookup.Covers session.lookup)
    (hpairs : session.Holds pairs) (h : pairs.foldlM visitPair session = .ok next) :
    pairs.foldlM visitPair (session.setLookup lookup) = .ok (next.setLookup lookup) := by
  induction pairs generalizing session with
  | nil =>
    cases h
    rfl
  | cons a pairs ih =>
    rw [List.foldlM_cons] at h ⊢
    obtain ⟨middle, hmiddle, h⟩ := bind_eq_ok.1 h
    obtain ⟨hfact, hfacts⟩ := List.forall_mem_cons.1 hpairs
    obtain ⟨hgrows, -, hlength⟩ := visitPair_settles hfact hmiddle
    rw [visitPair_setLookup hcovers hfact hmiddle, ok_bind]
    exact ih (hgrows.lookup_eq ▸ hcovers) (fun b hb => hlength ▸ hfacts b hb) h

/-- The session in which firing ends. -/
def ended : Except Interrupted Session → Session
  | .ok session => session
  | .error interrupted => interrupted.session

/-- Whatever comes of visits, the session has grown. -/
theorem grows_foldlM_visitPair (hpairs : session.Holds pairs) :
    session.Grows (ended (pairs.foldlM visitPair session)) := by
  cases hresult : pairs.foldlM visitPair session with
  | ok next => exact (foldlM_visitPair_settles hpairs hresult).1
  | error interrupted =>
    obtain ⟨before, rest, rfl, hbefore⟩ := foldlM_visitPair_error hpairs hresult
    exact (foldlM_visitPair_settles (fun a ha => hpairs a (List.mem_append_left _ ha)) hbefore).1

/-- An interrupted session that goes on with a service that answers more comes to what a session
comes to that has this service from the start. -/
theorem fireAll_setLookup {facts : List Fact} {interrupted : Interrupted} {other : Lookup}
    (hcovers : other.Covers lookup)
    (h : (start set now lookup facts).fireAll = .error interrupted) :
    (interrupted.session.setLookup other).fireAll = (start set now (some other) facts).fireAll ∧
      interrupted.session.firings <+:
        (ended (interrupted.session.setLookup other).fireAll).firings := by
  rw [fireAll_start] at h
  obtain ⟨before, rest, hsplit, hbefore⟩ := foldlM_visitPair_error (holds_start _ _ _ _) h
  have hpairs (lookup : Option Lookup) : (start set now lookup facts).Holds (before ++ rest) :=
    hsplit ▸ holds_start _ _ _ _
  have hfirst (lookup : Option Lookup) : (start set now lookup facts).Holds before := fun a ha =>
    hpairs lookup a (List.mem_append_left _ ha)
  let resumed := interrupted.session.setLookup other
  have hafter : before.foldlM visitPair (start set now (some other) facts) = .ok resumed :=
    foldlM_visitPair_setLookup hcovers (hfirst lookup) hbefore
  obtain ⟨hgrows, hsettled, hlength⟩ := foldlM_visitPair_settles (hfirst _) hafter
  have hresumed : resumed.fireAll = rest.foldlM visitPair resumed := by
    have hpass : resumed.fireAll = (set.pairs now facts).foldlM visitPair resumed :=
      fireAll_eq_foldlM hgrows.set_eq hgrows.now_eq hlength
    rw [hpass, hsplit, List.foldlM_append, foldlM_visitPair_of_settled hsettled, ok_bind]
  have hstart : (start set now (some other) facts).fireAll = rest.foldlM visitPair resumed := by
    rw [fireAll_start, hsplit, List.foldlM_append, hafter, ok_bind]
  have hrest : resumed.Holds rest := fun a ha => by
    rw [hlength]
    exact hpairs (some other) a (List.mem_append_right _ ha)
  refine ⟨hresumed.trans hstart.symm, ?_⟩
  rw [hresumed]
  exact (grows_foldlM_visitPair hrest).firings

/-- A session that gets its facts in portions and fires after each of them ends as a session that
gets them all and fires once. When firing fails with one service, or without any, and is taken up
again with a service that gives every answer the first one gave, the session ends as one that has
the second service from the start, in success and in failure: what had fired before stays, and the
rest comes after it. -/
theorem feedAll_resumes (set : RuleSet) (now : Instant) (portions : List (List Fact)) :
    (∀ lookup session,
      feedAll portions (start set now lookup []) = .ok session ↔
        (portions.flatten.foldl insert (start set now lookup [])).fireAll = .ok session) ∧
    ∀ (first : Option Lookup) (second : Lookup) (session : Session) (last : List Fact)
        (interrupted : Interrupted),
      feedAll portions (start set now first []) = .ok session →
      session.feed last = .error interrupted →
      second.Covers first →
      let resumed := (interrupted.session.setLookup second).fireAll
      let facts := portions.flatten ++ last
      resumed = (facts.foldl insert (start set now (some second) [])).fireAll ∧
        interrupted.session.firings <+: (ended resumed).firings := by
  have hstart (lookup : Option Lookup) (facts : List Fact) :
      facts.foldl insert (start set now lookup []) = start set now lookup facts :=
    foldl_insert _ facts
  refine ⟨fun lookup session => ?_, ?_⟩
  · rw [hstart]
    exact feedAll_start portions
  intro first second session last interrupted hfed hfails hcovers resumed facts
  rw [hstart]
  refine fireAll_setLookup hcovers ?_
  rw [fireAll_append, (feedAll_start portions).1 hfed]
  exact hfails

/-- The look-up of a flag fails without a service, after another rule has fired on two vessels. With
a service that knows the flag only the rule for the flag is left to fire. -/
theorem feedAll_resumes_flagged :
    let position : CompiledRule := {
      id := "Position"
      name := "Position"
      factType := .movement
      condition := .literal (.bool true)
      effect := .custom "Position" "" }
    let flag : CompiledRule := {
      id := "Flag"
      name := "Flag"
      factType := .movement
      condition := .inList "FLAG_STATE" (.field ⟨6, "flagState", .text, some .flagState⟩)
      effect := .custom "Flag" "" }
    let set : RuleSet := ⟨1, "", "", [position, flag], [], .custom []⟩
    let unflagged : Fact := { id := .ofNat 1, payload := .movement {} }
    let flagged : Fact := { id := .ofNat 2, payload := .movement { flagState := some "SWE" } }
    let known : Lookup := fun _ value => .ok (value == "SWE")
    let firing (rule : CompiledRule) (fact : Fact) : Firing :=
      ⟨.custom, rule.id, rule.name, rule.effect, fact.id, fact.payload, .epoch⟩
    let session : Session := { start set .epoch none [unflagged] with
      fired := [(0, 0)]
      firings := [firing position unflagged] }
    let interrupted : Interrupted := {
      session := { start set .epoch none [unflagged, flagged] with
        fired := [(0, 1), (0, 0)]
        firings := [firing position unflagged, firing position flagged] }
      failure := ⟨"Flag", flagged.id, .noLookup⟩ }
    let final : Session := { start set .epoch (some known) [unflagged, flagged] with
      fired := [(1, 1), (0, 1), (0, 0)]
      firings := [firing position unflagged, firing position flagged, firing flag flagged] }
    feedAll [[unflagged]] (start set .epoch none []) = .ok session ∧
      session.feed [flagged] = .error interrupted ∧
      known.Covers none ∧
      (interrupted.session.setLookup known).fireAll = .ok final ∧
      ([unflagged, flagged].foldl insert (start set .epoch (some known) [])).fireAll =
        .ok final := by
  intro position flag set unflagged flagged known firing session interrupted final
  have hfed : feedAll [[unflagged]] (start set .epoch none []) = .ok session := by rfl
  have hfails : session.feed [flagged] = .error interrupted := by rfl
  have hcovers : known.Covers none := fun _ h => nomatch h
  obtain ⟨hwhole, -⟩ :=
    (feedAll_resumes set .epoch [[unflagged]]).2 none known session [flagged] interrupted hfed
      hfails hcovers
  have hresumed : (interrupted.session.setLookup known).fireAll = .ok final := by rfl
  exact ⟨hfed, hfails, hcovers, hresumed, hwhole.symm.trans hresumed⟩

end Session

end FisheryRules
