import FisheryRules.Proofs.Registry.CacheRuns
import FisheryRules.Proofs.Registry.TableRows
import FisheryRules.Proofs.Response.IncidentRecords
import FisheryRules.Proofs.RuleSet.Settlement

/-!
# Times at which rules fired

The rule store keeps for every custom rule when it fired last, and changes it with every firing. A
fingerprint does not cover this time, and neither the order nor the choice of what is listed depends
on it. So noting it makes no refresh build a set anew: `Cache.refresh_useAll`.

## Main definitions

* `RuleStore.Keeps` — two stores differ at most in when their custom rules fired last.
* `RuleStore.Use`, `RuleStore.useAll` — times are noted, and firings are dispatched.
-/
namespace FisheryRules

namespace CustomRule

/-- The rule apart from when it fired last. -/
def untriggered (rule : CustomRule) : CustomRule := { rule with lastTriggered := none }

theorem isRunnable_untriggered (rule : CustomRule) :
    rule.untriggered.isRunnable = rule.isRunnable := rfl

theorem signature_untriggered (rule : CustomRule) :
    rule.untriggered.signature = rule.signature := rfl

theorem eq_of_untriggered_eq {rule changed : CustomRule}
    (h : changed.untriggered = rule.untriggered) :
    changed = { rule with lastTriggered := changed.lastTriggered } := by
  cases rule
  cases changed
  simp only [untriggered, mk.injEq] at h
  simp [h]

end CustomRule

/-- A fingerprint does not show when rules fired last. -/
theorem Snapshot.fingerprint_custom_congr {rules changed : List CustomRule}
    (h : changed.map CustomRule.untriggered = rules.map CustomRule.untriggered) :
    (custom changed).fingerprint = (custom rules).fingerprint := by
  have hsignatures : changed.map CustomRule.signature = rules.map CustomRule.signature := by
    have hmap (rules : List CustomRule) : rules.map CustomRule.signature =
        (rules.map CustomRule.untriggered).map CustomRule.signature := by
      simp [Function.comp_def, CustomRule.signature_untriggered]
    rw [hmap changed, h, ← hmap rules]
  simp only [fingerprint, fingerprintChars, category, signatures, hsignatures]

/-! ## Stores -/

namespace RuleStore

/-- The stores differ at most in when their custom rules fired last. -/
structure Keeps (before after : RuleStore) : Prop where
  sanity : after.sanity = before.sanity
  business : after.business = before.business
  online : after.online = before.online
  custom : after.custom.rows.map CustomRule.untriggered =
    before.custom.rows.map CustomRule.untriggered

variable {before between after : RuleStore}

theorem Keeps.refl (store : RuleStore) : store.Keeps store := ⟨rfl, rfl, rfl, rfl⟩

theorem Keeps.trans (h : before.Keeps between) (h' : between.Keeps after) : before.Keeps after where
  sanity := h'.sanity.trans h.sanity
  business := h'.business.trans h.business
  online := h'.online.trans h.online
  custom := h'.custom.trans h.custom

/-- Noting that a rule fired changes nothing else. -/
theorem keeps_markTriggered {guid : String} {t : Instant}
    (h : before.markTriggered guid t = .ok after) : before.Keeps after := by
  obtain ⟨rule, hfind, rfl⟩ := exists_of_markTriggered h
  exact ⟨rfl, rfl, rfl,
    Table.map_putRow before.custom.ascending (List.mem_of_find?_eq_some hfind) rfl rfl⟩

/-- The rules that are listed are the same apart from when they fired last. -/
theorem Keeps.exists_listing (h : before.Keeps after) {rules : List CustomRule}
    (hlisted : before.listing.custom = .ok rules) :
    ∃ changed, after.listing.custom = .ok changed ∧
      changed.map CustomRule.untriggered = rules.map CustomRule.untriggered := by
  obtain ⟨online, honline, hrules⟩ := bind_eq_ok.1 hlisted
  obtain rfl := Except.ok.inj hrules
  have hfilter (store : RuleStore) :
      (store.custom.rows.filter (·.isRunnable)).map CustomRule.untriggered =
        (store.custom.rows.map CustomRule.untriggered).filter (·.isRunnable) := by
    simp only [List.filter_map, Function.comp_def, CustomRule.isRunnable_untriggered]
  refine ⟨after.custom.rows.filter (·.isRunnable), ?_, by rw [hfilter, h.custom, ← hfilter]⟩
  have honline' : after.checkOnline = .ok online := by rwa [checkOnline, h.online]
  simp only [listing, honline']
  rfl

/-- What can be read off about single rules. -/
theorem Keeps.forall₂ (h : before.Keeps after) :
    List.Forall₂ (fun rule changed : CustomRule =>
      changed = { rule with lastTriggered := changed.lastTriggered })
      before.custom.rows after.custom.rows := by
  have hcustom := h.custom.symm
  rw [← List.forall₂_eq_eq_eq, List.forall₂_map_left_iff, List.forall₂_map_right_iff] at hcustom
  exact hcustom.imp fun _ _ heq => CustomRule.eq_of_untriggered_eq heq.symm

end RuleStore

/-! ## The dispatch -/

/-- The rule stores differ at most in when custom rules fired last. -/
def Services.KeepsRules (before after : Services) : Prop := before.rules.Keeps after.rules

theorem Services.isFrame_keepsRules : IsFrame KeepsRules where
  refl services := .refl services.rules
  trans h h' := RuleStore.Keeps.trans h h'
  noted services _ _ _ := .refl services.rules
  marked hmarked := RuleStore.keeps_markTriggered hmarked

/-- The registration of an incident has nothing to do with the rules. -/
theorem Incident.register_keepsRules (config : DispatchConfig) (incident : Incident) {α : Type}
    (a : α) (services : Services) :
    services.KeepsRules (incident.register config a services).2 := by
  obtain ⟨error, -, hregister⟩ | ⟨-, recorded, hregister⟩ :=
    incident.register_cases config a services
  · rw [hregister]
    exact .refl services.rules
  · rw [hregister]
    exact .refl services.rules

namespace Dispatch

open Services (isFrame_keepsRules)

variable (config : DispatchConfig) (ruleName ruleGuid : String) (movement : Movement)
  (services : Services)

theorem openRuleTicket_keepsRules :
    services.KeepsRules (openRuleTicket config ruleName ruleGuid movement services).2 := by
  obtain ⟨ticket, hticket⟩ := openRuleTicket_eq config ruleName ruleGuid movement services
  rw [hticket]
  exact Incident.register_keepsRules config _ _ services.drawn

theorem raiseAlarm_keepsRules (firing : Firing) :
    services.KeepsRules (raiseAlarm config firing services).2 := by
  obtain ⟨alarm, halarm⟩ := raiseAlarm_eq config services firing
  rw [halarm]
  exact Incident.register_keepsRules config _ _ services.drawn.drawn

theorem runAction_keepsRules (action : DeclaredAction) :
    services.KeepsRules (runAction config action ruleName ruleGuid movement services).2 := by
  have hframe := isFrame_keepsRules
  obtain ⟨kind, value⟩ := action
  cases kind with
  | email =>
    exact Task.Within.bind hframe (requiredValue_within hframe _)
      (fun _ => .bind hframe (sendMail_within hframe config _ _ _) fun _ => .pure hframe none)
      services
  | sendToEndpoint =>
    exact Task.Within.bind hframe (requiredValue_within hframe _)
      (fun _ => .bind hframe (sendReport_within hframe config _ _ _) fun _ => .pure hframe none)
      services
  | ticket =>
    cases hpolicy : config.policy with
    | always =>
      simp only [runAction, hpolicy]
      exact hframe.refl services
    | ifDeclared =>
      simp only [runAction, hpolicy, Task.bind_pure_eq]
      exact openRuleTicket_keepsRules config ruleName ruleGuid movement services
  | manualPoll | onHold | sms | topBarNotification => exact hframe.refl services

theorem runActions_keepsRules (actions : List DeclaredAction) :
    services.KeepsRules (runActions config ruleName ruleGuid movement actions services).2 := by
  induction actions generalizing services with
  | nil => exact isFrame_keepsRules.refl services
  | cons action others ih =>
    rw [runActions_cons]
    exact isFrame_keepsRules.trans
      (runAction_keepsRules config ruleName ruleGuid movement services action) (ih _)

theorem mailEach_keepsRules (owners : List String) :
    services.KeepsRules (mailEach config ruleName movement owners services).2 := by
  induction owners generalizing services with
  | nil => exact isFrame_keepsRules.refl services
  | cons owner others ih =>
    rw [mailEach_cons]
    exact isFrame_keepsRules.trans
      (mailSubscriber_within isFrame_keepsRules config owner ruleName movement services) (ih _)

theorem mailSubscribers_keepsRules :
    services.KeepsRules (mailSubscribers config ruleName ruleGuid movement services).2 := by
  rw [mailSubscribers_eq]
  refine isFrame_keepsRules.trans (findRule_within isFrame_keepsRules ruleGuid services) ?_
  generalize findRule ruleGuid services = found
  obtain ⟨result, next⟩ := found
  match result with
  | .ok (some rule) => exact mailEach_keepsRules config ruleName movement next rule.emailSubscribers
  | .ok none | .error error => exact isFrame_keepsRules.refl next

theorem entailed_keepsRules :
    services.KeepsRules (entailed config ruleName ruleGuid movement services).2 := by
  cases hpolicy : config.policy with
  | ifDeclared =>
    rw [entailed_ifDeclared _ _ _ _ _ hpolicy]
    exact isFrame_keepsRules.refl services
  | always =>
    rw [entailed_always _ _ _ _ _ hpolicy]
    exact isFrame_keepsRules.trans
      (openRuleTicket_keepsRules config ruleName ruleGuid movement services)
      (mailSubscribers_keepsRules config ruleName ruleGuid movement _)

theorem customRuleFired_keepsRules (firing : Firing) (actions : String) :
    services.KeepsRules
      (customRuleFired config firing ruleGuid actions movement services).2 :=
  have hmarked := markTriggered_within isFrame_keepsRules ruleGuid firing.firedAt services
  have hentailed := entailed_keepsRules config firing.ruleName ruleGuid movement
    (markTriggered ruleGuid firing.firedAt services).2
  isFrame_keepsRules.trans (isFrame_keepsRules.trans hmarked hentailed)
    (runActions_keepsRules config firing.ruleName ruleGuid movement _ _)

theorem dispatch_keepsRules (firing : Firing) :
    services.KeepsRules (dispatch config firing services).2 := by
  cases heffect : firing.effect with
  | alarm =>
    rw [dispatch_alarm config services heffect]
    exact raiseAlarm_keepsRules config services firing
  | custom ruleGuid actions =>
    rw [dispatch, heffect]
    cases firing.fact with
    | movement movement =>
      exact customRuleFired_keepsRules config ruleGuid movement services firing actions
    | _ => exact isFrame_keepsRules.refl services
  | outcome =>
    rw [dispatch, heffect]
    exact isFrame_keepsRules.refl services

/-- Whatever fires and whichever calls fail, the rules stay as they are, apart from when they fired
last. -/
theorem dispatchAll_keepsRules (firings : List Firing) :
    services.KeepsRules (dispatchAll config firings services).2 := by
  induction firings generalizing services with
  | nil => exact isFrame_keepsRules.refl services
  | cons firing others ih =>
    exact isFrame_keepsRules.trans (dispatch_keepsRules config services firing) (ih _)

end Dispatch

namespace RuleStore

/-- What is done with a rule store while its rules are evaluated. -/
inductive Use
  /-- It is noted that a custom rule fired. -/
  | triggered (guid : String) (t : Instant)
  /-- Firings are dispatched; the other services are in some state of their own. -/
  | dispatched (config : DispatchConfig) (services : Services) (firings : List Firing)

/-- The store after it was used. A note that fails changes nothing. -/
def use (store : RuleStore) : Use → RuleStore
  | .triggered guid t =>
    match store.markTriggered guid t with
    | .ok marked => marked
    | .error _ => store
  | .dispatched config services firings =>
    (Dispatch.dispatchAll config firings { services with rules := store }).2.rules

/-- The store after it was used several times. -/
def useAll (store : RuleStore) (uses : List Use) : RuleStore := uses.foldl use store

theorem keeps_use (store : RuleStore) (occasion : Use) : store.Keeps (store.use occasion) := by
  cases occasion with
  | triggered guid t =>
    rw [use]
    split
    · next hmarked => exact keeps_markTriggered hmarked
    · exact .refl store
  | dispatched config services firings =>
    exact Dispatch.dispatchAll_keepsRules config { services with rules := store } firings

theorem keeps_useAll (store : RuleStore) (uses : List Use) : store.Keeps (store.useAll uses) := by
  induction uses generalizing store with
  | nil => exact .refl store
  | cons occasion others ih => exact (store.keeps_use occasion).trans (ih _)

end RuleStore

/-! ## Refreshes -/

/-- After a refresh of the custom rules that left a set in service, and after any firings were noted
and dispatched, whichever calls failed, the next refresh finds that nothing has changed. The cache
stays as it is, and so does every stored rule, apart from when it fired last. -/
theorem Cache.refresh_useAll {cache : Cache} {store : RuleStore} {version : Nat}
    (hrefresh : (cache.refresh store .custom).1 = .ok (.unchanged version) ∨
      ∃ rules failed, (cache.refresh store .custom).1 = .ok (.rebuilt version rules failed))
    (uses : List RuleStore.Use) :
    let refreshed := (cache.refresh store .custom).2
    let after := store.useAll uses
    refreshed.refresh after .custom = (.ok (.unchanged version), refreshed) ∧
      (∃ set, refreshed.current .custom = some set ∧ set.version = version) ∧
      after.sanity = store.sanity ∧ after.business = store.business ∧
      after.online = store.online ∧
      List.Forall₂ (fun rule changed : CustomRule =>
        changed = { rule with lastTriggered := changed.lastTriggered })
        store.custom.rows after.custom.rows := by
  intro refreshed after
  have hkeeps : store.Keeps after := store.keeps_useAll uses
  have habsorbed := Slot.absorb_absorbed (cache.slots .custom) cache.compiler
    (store.listing.answer .custom)
  rw [← slots_refresh_self, ← result_refresh] at habsorbed
  obtain ⟨snapshot, set, hanswer, hsome, hpublished, hfingerprint, hversion⟩ :=
    habsorbed.labelled hrefresh
  obtain ⟨rules, hlisted, rfl⟩ := map_eq_ok.1 hanswer
  obtain ⟨changed, hchanged, hsame⟩ := hkeeps.exists_listing hlisted
  have hanswer' : after.listing.answer .custom = .ok (.custom changed) :=
    map_eq_ok.2 ⟨changed, hchanged, rfl⟩
  have hlength : changed.length = rules.length := by simpa using congrArg List.length hsame
  have hsome' : (Snapshot.custom changed).isEmpty = false := by
    rwa [Snapshot.isEmpty, Snapshot.size, hlength]
  have hsettle : (refreshed.slots .custom).settle refreshed.compiler (.custom changed) =
      (.ok (.unchanged version), refreshed.slots .custom) := by
    rw [← hversion]
    exact Slot.settle_of_fingerprint _ hsome' hpublished
      (hfingerprint.trans (Snapshot.fingerprint_custom_congr hsame).symm)
  refine ⟨?_, ⟨set, hpublished, hversion⟩, hkeeps.sanity, hkeeps.business, hkeeps.online,
    hkeeps.forall₂⟩
  rw [refresh, hanswer', Slot.absorb, hsettle]
  exact Prod.ext rfl (refreshed.setSlot_self .custom)

/-- A rule fires twice after it was published: the first time is noted by itself, the second one
when the firing is dispatched. The store has changed, and nothing is built. -/
theorem Cache.refresh_useAll_firedTwice :
    let rule : CustomRule := {
      guid := "g-1"
      name := "Swedish"
      segments := [{
        criteria := .asset
        subCriteria := .flagState
        condition := .eq
        value := "SWE" }] }
    let firing : Firing := {
      category := .custom
      ruleId := "g-1"
      ruleName := "Swedish"
      effect := .custom "g-1" "TICKET"
      factId := .ofNat 1
      fact := .movement { flagState := some "SWE" }
      firedAt := ⟨60, 0⟩ }
    let services : Services := { ids := ⟨.ofNat, 0⟩, now := ⟨60, 0⟩ }
    let store : RuleStore := { custom := Table.empty.put rule }
    let after := store.useAll [.triggered "g-1" .epoch, .dispatched {} services [firing]]
    let cache : Cache := { compiler := Bundled.compiler }
    let refreshed := (cache.refresh store .custom).2
    (∃ rules failed, (cache.refresh store .custom).1 = .ok (.rebuilt 1 rules failed)) ∧
      refreshed.refresh after .custom = (.ok (.unchanged 1), refreshed) ∧
      store.custom.rows.map (·.lastTriggered) = [none] ∧
      after.custom.rows.map (·.lastTriggered) = [some ⟨60, 0⟩] := by
  intro rule firing services store after cache refreshed
  have hanswer : store.listing.answer .custom = .ok (.custom [rule]) := rfl
  obtain ⟨set, hcompile, -⟩ :=
    compile_settles (.custom [rule]) (Snapshot.custom [rule]).fingerprint 1
  have hrebuilt :
      (cache.refresh store .custom).1 = .ok (.rebuilt 1 set.rules.length set.failed.length) := by
    rw [result_refresh, hanswer]
    simp [Slot.absorb, Slot.settle, Slot.rebuild, Slot.beginBuild, cache, hcompile,
      Snapshot.isEmpty, Snapshot.size]
  have hafter : after.custom.rows.map (·.lastTriggered) = [some ⟨60, 0⟩] := by
    simp only [after, services, firing, store, rule]
    rfl
  exact ⟨⟨_, _, hrebuilt⟩, (refresh_useAll (.inr ⟨_, _, hrebuilt⟩) _).1, rfl, hafter⟩

end FisheryRules
