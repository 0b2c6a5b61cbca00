import FisheryRules.Proofs.Evaluation.FiredRules

/-!
# Parts of a batch

Facts bear on each other only through the unique ids that they share. So a batch can be split
between facts that share none, and its facts can be put into another order as long as those that
share one keep theirs: `RuleSet.evaluate_parts`.
-/
namespace FisheryRules

/-- The facts share no unique id. -/
def Fact.Apart (fact other : Fact) : Prop := fact.shares other = false

theorem Fact.apart_iff {fact other : Fact} :
    fact.Apart other ↔ ∀ id, id ∈ fact.uniqueIds → id ∉ other.uniqueIds := by
  rw [Apart, ← Bool.not_eq_true, shares_iff]
  simp only [not_exists, not_and]

theorem Fact.Apart.symm {fact other : Fact} (h : fact.Apart other) : other.Apart fact :=
  apart_iff.2 fun id hother hfact => apart_iff.1 h id hfact hother

namespace CompiledRule

variable {rule : CompiledRule} {now : Instant} {lookup : Option Lookup}
  {earlier earlier' others : List Fact} {fact : Fact}

/-- One more earlier fact silences a rule on the facts that share a unique id with it, if the rule
fires on it. -/
theorem isSilentAfter_append_singleton (other : Fact) :
    rule.isSilentAfter now lookup (earlier ++ [other]) fact =
      (rule.isSilentAfter now lookup earlier fact ||
        rule.firesAfter now lookup earlier other && fact.shares other) := by
  rw [isSilentAfter, firesOn_append_singleton, List.any_append, ← isSilentAfter]
  cases rule.firesAfter now lookup earlier other <;> simp

/-- Facts that are apart from a fact do not silence a rule on it. -/
theorem isSilentAfter_append_of_apart (h : ∀ other ∈ others, other.Apart fact) :
    rule.isSilentAfter now lookup (earlier ++ others) fact =
      rule.isSilentAfter now lookup earlier fact := by
  induction others using List.reverseRecOn with
  | nil => rw [List.append_nil]
  | append_singleton others other ih =>
    obtain ⟨hothers, hother⟩ := List.forall_mem_append.1 h
    have hshares : fact.shares other = false := (List.forall_mem_singleton.1 hother).symm
    rw [← List.append_assoc, isSilentAfter_append_singleton, ih hothers, hshares, Bool.and_false,
      Bool.or_false]

/-- Rules that are silent on the same facts after two lists of facts are so after one more. -/
theorem isSilentAfter_congr
    (h : ∀ fact, rule.isSilentAfter now lookup earlier fact =
      rule.isSilentAfter now lookup earlier' fact) (others : List Fact) (fact : Fact) :
    rule.isSilentAfter now lookup (earlier ++ others) fact =
      rule.isSilentAfter now lookup (earlier' ++ others) fact := by
  induction others using List.reverseRecOn generalizing fact with
  | nil => simpa using h fact
  | append_singleton others other ih =>
    rw [← List.append_assoc, ← List.append_assoc, isSilentAfter_append_singleton,
      isSilentAfter_append_singleton, firesAfter, firesAfter, ih, ih]

/-- Two facts that are apart silence a rule alike in both orders. -/
theorem isSilentAfter_swap {first second : Fact} (h : first.Apart second) (fact : Fact) :
    rule.isSilentAfter now lookup (earlier ++ [first] ++ [second]) fact =
      rule.isSilentAfter now lookup (earlier ++ [second] ++ [first]) fact := by
  have hsecond : rule.isSilentAfter now lookup (earlier ++ [first]) second =
      rule.isSilentAfter now lookup earlier second :=
    isSilentAfter_append_of_apart (List.forall_mem_singleton.2 h)
  have hfirst : rule.isSilentAfter now lookup (earlier ++ [second]) first =
      rule.isSilentAfter now lookup earlier first :=
    isSilentAfter_append_of_apart (List.forall_mem_singleton.2 h.symm)
  rw [isSilentAfter_append_singleton second, isSilentAfter_append_singleton first,
    isSilentAfter_append_singleton first, isSilentAfter_append_singleton second]
  simp only [firesAfter, hfirst, hsecond, Bool.or_assoc]
  rw [Bool.or_comm (_ && fact.shares first)]

/-- A fact silences a rule alike before and after facts that are apart from it. -/
theorem isSilentAfter_move (h : ∀ other ∈ others, other.Apart fact) (last : Fact) :
    rule.isSilentAfter now lookup (earlier ++ others ++ [fact]) last =
      rule.isSilentAfter now lookup (earlier ++ [fact] ++ others) last := by
  induction others using List.reverseRecOn generalizing last with
  | nil => simp
  | append_singleton others other ih =>
    have hothers : ∀ other ∈ others, other.Apart fact := fun x hx => h x (List.mem_append_left _ hx)
    have hother : other.Apart fact := h other (by simp)
    calc rule.isSilentAfter now lookup (earlier ++ (others ++ [other]) ++ [fact]) last
        = rule.isSilentAfter now lookup (earlier ++ others ++ [other] ++ [fact]) last := by
          rw [← List.append_assoc earlier]
      _ = rule.isSilentAfter now lookup (earlier ++ others ++ [fact] ++ [other]) last :=
          isSilentAfter_swap hother last
      _ = rule.isSilentAfter now lookup (earlier ++ [fact] ++ others ++ [other]) last :=
          isSilentAfter_congr (ih hothers) [other] last
      _ = rule.isSilentAfter now lookup (earlier ++ [fact] ++ (others ++ [other])) last := by
          rw [List.append_assoc _ others]

end CompiledRule

namespace RuleSet

variable {set : RuleSet} {now : Instant} {lookup : Option Lookup}
  {earlier earlier' facts others : List Fact}

/-- Which rules fire on facts depends on the earlier facts only so far as these silence rules. -/
theorem firedRules_congr (h : ∀ rule ∈ set.rules, ∀ fact ∈ facts,
    rule.isSilentAfter now lookup earlier fact = rule.isSilentAfter now lookup earlier' fact) :
    set.firedRules now lookup earlier facts = set.firedRules now lookup earlier' facts := by
  induction facts generalizing earlier earlier' with
  | nil => rfl
  | cons fact facts ih =>
    have hfact : ∀ rule ∈ set.rules, rule.firesAfter now lookup earlier fact =
        rule.firesAfter now lookup earlier' fact := fun rule hrule => by
      rw [CompiledRule.firesAfter, CompiledRule.firesAfter, h rule hrule fact List.mem_cons_self]
    rw [firedRules, firedRules, List.filter_congr hfact, ih]
    intro rule hrule other hother
    rw [CompiledRule.isSilentAfter_append_singleton, CompiledRule.isSilentAfter_append_singleton,
      hfact rule hrule, h rule hrule other (List.mem_cons_of_mem fact hother)]

/-- Earlier facts that are apart from some facts can be left out. -/
theorem firedRules_of_apart (h : ∀ other ∈ others, ∀ fact ∈ facts, other.Apart fact) :
    set.firedRules now lookup (earlier ++ others) facts =
      set.firedRules now lookup earlier facts :=
  firedRules_congr fun _ _ fact hfact =>
    CompiledRule.isSilentAfter_append_of_apart fun other hother => h other hother fact hfact

/-- A fact can be put before facts that are apart from it. -/
theorem firedRules_move {fact : Fact} (h : ∀ other ∈ others, other.Apart fact)
    (earlier facts : List Fact) :
    (set.firedRules now lookup earlier (others ++ fact :: facts)).Perm
      (set.firedRules now lookup earlier (fact :: (others ++ facts))) := by
  have hfact : set.rules.filter (·.firesAfter now lookup (earlier ++ others) fact) =
      set.rules.filter (·.firesAfter now lookup earlier fact) :=
    List.filter_congr fun rule _ => by
      rw [CompiledRule.firesAfter, CompiledRule.isSilentAfter_append_of_apart h]
      rfl
  have hothers : set.firedRules now lookup (earlier ++ [fact]) others =
      set.firedRules now lookup earlier others :=
    firedRules_of_apart fun _ hfact other hother => by
      rw [List.mem_singleton.1 hfact]
      exact (h other hother).symm
  have hfacts : set.firedRules now lookup (earlier ++ others ++ [fact]) facts =
      set.firedRules now lookup (earlier ++ [fact] ++ others) facts :=
    firedRules_congr fun _ _ last _ => CompiledRule.isSilentAfter_move h last
  rw [firedRules_append, firedRules, firedRules, firedRules_append, hfact, hothers, hfacts]
  exact List.perm_middle

/-- Facts in another order, in which those that share a unique id keep theirs, have the same rules
fire on them. -/
theorem firedRules_perm_of_order (hperm : others.Perm facts) (hnodup : facts.Nodup)
    (horder : ∀ a b : Fact, ¬ a.Apart b → [a, b].Sublist facts → [a, b].Sublist others)
    (earlier : List Fact) :
    (set.firedRules now lookup earlier facts).Perm (set.firedRules now lookup earlier others) := by
  induction others generalizing earlier facts with
  | nil =>
    rw [List.nil_perm.1 hperm]
  | cons fact others ih =>
    obtain ⟨before, after, rfl⟩ := List.append_of_mem (hperm.mem_iff.1 List.mem_cons_self)
    have hrest : others.Perm (before ++ after) := (hperm.trans List.perm_middle).cons_inv
    obtain ⟨hfact, hnodupRest⟩ := List.nodup_cons.1 (List.nodup_middle.1 hnodup)
    have htail : ∀ a b : Fact, a ∈ before ++ after → [a, b].Sublist (fact :: others) →
        [a, b].Sublist others := by
      intro a b ha hab
      cases hab with
      | cons _ hab => exact hab
      | cons_cons => exact absurd ha hfact
    have hbefore : ∀ other ∈ before, other.Apart fact := by
      intro other hother
      by_contra hshares
      have hboth : [other, fact].Sublist (before ++ fact :: after) :=
        (List.singleton_sublist.2 hother).append (List.singleton_sublist.2 List.mem_cons_self)
      have hlater := htail other fact (List.mem_append_left _ hother)
        (horder other fact hshares hboth)
      exact hfact (hrest.mem_iff.1 (hlater.subset (by simp)))
    refine (firedRules_move hbefore earlier after).trans ((ih hrest hnodupRest ?_ _).cons _)
    intro a b hshares hab
    exact htail a b (hab.subset List.mem_cons_self)
      (horder a b hshares (hab.trans ((List.sublist_cons_self fact after).append_left before)))

/-- A batch of facts with different ids can be split between facts that share no unique id: the
report is that of the first part followed by that of the second one. And facts that share no unique
id can be put into another order, whatever others they stand between: this permutes what the report
lists. -/
theorem evaluate_parts (set : RuleSet) (now : Instant) (lookup : Option Lookup) :
    (∀ xs ys : List Fact, ((xs ++ ys).map (·.id)).Nodup → (∀ x ∈ xs, ∀ y ∈ ys, x.Apart y) →
      let first := evaluate (some set) now lookup xs
      let second := evaluate (some set) now lookup ys
      evaluate (some set) now lookup (xs ++ ys) =
        ⟨first.facts ++ second.facts, first.firings ++ second.firings,
          first.exceptions ++ second.exceptions⟩) ∧
    ∀ facts others : List Fact, (facts.map (·.id)).Nodup → others.Perm facts →
      (∀ a b : Fact, ¬ a.Apart b → [a, b].Sublist facts → [a, b].Sublist others) →
      let report := evaluate (some set) now lookup facts
      let reordered := evaluate (some set) now lookup others
      reordered.facts.Perm report.facts ∧ reordered.firings.Perm report.firings ∧
        reordered.exceptions.Perm report.exceptions := by
  constructor
  · intro xs ys hids hapart first second
    have hxs : (xs.map (·.id)).Nodup := (List.nodup_append.1 (List.map_append ▸ hids)).1
    have hys : (ys.map (·.id)).Nodup := (List.nodup_append.1 (List.map_append ▸ hids)).2.1
    have hfired : set.firedRules now lookup [] (set.evaluable now lookup (xs ++ ys)) =
        set.firedRules now lookup [] (set.evaluable now lookup xs) ++
          set.firedRules now lookup [] (set.evaluable now lookup ys) := by
      rw [evaluable, List.filter_append, firedRules_append]
      refine congrArg _ (firedRules_of_apart fun x hx y hy => ?_)
      exact hapart x (List.mem_of_mem_filter hx) y (List.mem_of_mem_filter hy)
    have hfirst : first = _ := evaluate_eq_report set now lookup hxs
    have hsecond : second = _ := evaluate_eq_report set now lookup hys
    rw [evaluate_eq_report set now lookup hids, hfired, hfirst, hsecond]
    simp [firingsOf]
  · intro facts others hids hperm horder report reordered
    have hidsOthers : (others.map (·.id)).Nodup := (hperm.map _).nodup_iff.2 hids
    have hevaluable : (set.evaluable now lookup others).Perm (set.evaluable now lookup facts) :=
      hperm.filter _
    have hnodup : (set.evaluable now lookup facts).Nodup := (List.Nodup.of_map _ hids).filter _
    have hfired : (set.firedRules now lookup [] (set.evaluable now lookup others)).Perm
        (set.firedRules now lookup [] (set.evaluable now lookup facts)) := by
      refine (firedRules_perm_of_order hevaluable hnodup (fun a b hshares hab => ?_) []).symm
      have hfiltered := (horder a b hshares (hab.trans List.filter_sublist)).filter
        fun fact => (set.failureOn now lookup fact).isNone
      rwa [List.filter_eq_self.2 fun fact hfact =>
        (List.mem_filter.1 (hab.subset hfact)).2] at hfiltered
    have hreport : report = _ := evaluate_eq_report set now lookup hids
    have hreordered : reordered = _ := evaluate_eq_report set now lookup hidsOthers
    rw [hreport, hreordered]
    exact ⟨hfired.map _, hfired.flatMap_right _, hperm.filterMap _⟩

/-- Of three reports the first and the last are about one vessel, so a rule fires on the first and
the second one only, also when the second one comes first. -/
theorem evaluate_parts_vessels :
    let position : CompiledRule := {
      id := "Position"
      name := "Position"
      factType := .movement
      condition := .literal (.bool true)
      effect := .custom "Position" "" }
    let set : RuleSet := ⟨1, "", "", [position], [], .custom []⟩
    let first : Fact :=
      { id := .ofNat 1, payload := .movement {}, uniqueIds := KeySet.empty.insert "A" }
    let second : Fact :=
      { id := .ofNat 2, payload := .movement {}, uniqueIds := KeySet.empty.insert "B" }
    let again : Fact :=
      { id := .ofNat 3, payload := .movement {}, uniqueIds := KeySet.empty.insert "A" }
    let report := evaluate (some set) .epoch none
    (report ([first, again] ++ [second])).firings =
        (report [first, again]).firings ++ (report [second]).firings ∧
      (report [second, first, again]).firings.Perm (report [first, second, again]).firings ∧
      (report [first, second, again]).firings.map (·.factId) = [.ofNat 1, .ofNat 2] := by
  intro position set first second again report
  have hapart : first.Apart second := by rfl
  have hapart' : second.Apart again := by rfl
  obtain ⟨hsplit, hreorder⟩ := evaluate_parts set .epoch none
  have hparts := hsplit [first, again] [second] (by decide)
    (by simpa using And.intro hapart hapart'.symm)
  have hids : ([first, second, again].map (·.id)).Nodup := by decide
  have horder : ∀ a b : Fact, ¬ a.Apart b → [a, b].Sublist [first, second, again] →
      [a, b].Sublist [second, first, again] := by
    have hpairs : [first, second, again].Pairwise fun a b =>
        ¬ a.Apart b → [a, b].Sublist [second, first, again] := by
      simp [hapart, hapart']
    exact fun a b hshares hab => List.pairwise_iff_forall_sublist.1 hpairs hab hshares
  obtain ⟨-, hfirings, -⟩ := hreorder _ _ hids (.swap first second [again]) horder
  refine ⟨congrArg Report.firings hparts, hfirings, ?_⟩
  have hreport : report [first, second, again] = _ := evaluate_eq_report set .epoch none hids
  rw [hreport]
  rfl

end RuleSet

end FisheryRules
