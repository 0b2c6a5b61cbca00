import FisheryRules.Proofs.Response.ErrandTasks

/-!
# Action isolation

Every errand that a firing of a custom rule entails or declares is attempted, whichever calls fail:
`Dispatch.dispatch_isolates`. What an action does depends on its own calls only, and what came of
it is recorded once.
-/
namespace FisheryRules

namespace Summary

variable {run : Errand.Run}

theorem executed_append (a b : Summary) : (a ++ b).executed = a.executed ++ b.executed := rfl

theorem failed_append (a b : Summary) : (a ++ b).failed = a.failed ++ b.failed := rfl

theorem executed_ofAction {result : Except DispatchError (Option Ticket)}
    (h : run.succeeded = result.isOk) :
    (ofAction run.errand.kind result).executed = Errand.executed [run] := by
  rw [Errand.executed, List.filter_singleton, h]
  cases result <;> rfl

theorem executed_ofTicket (result : Except DispatchError (Option Ticket)) :
    (ofTicket result).executed = [] := by
  cases result <;> rfl

theorem executed_ofMail (result : Except DispatchError Unit) : (ofMail result).executed = [] := by
  cases result <;> rfl

/-- A summary that records failures under the kind of the errand records a failure once. -/
theorem failed_eq_failures {α : Type} (summary : Except DispatchError α → Summary)
    {result : Except DispatchError α} (h : run.succeeded = result.isOk)
    (hok : ∀ a, (summary (.ok a)).failed = [])
    (herror : ∀ error, summary (.error error) = failure (.action run.errand.kind) error) :
    (summary result).failed.map (·.action) = Errand.failures [run] := by
  rw [Errand.failures, List.filter_singleton, h]
  cases result with
  | ok a =>
    rw [hok]
    rfl
  | error error =>
    rw [herror]
    rfl

end Summary

namespace Dispatch

variable (config : DispatchConfig) (ruleName ruleGuid : String) (movement : Movement)
  (services : Services)

theorem runActions_cons (action : DeclaredAction) (others : List DeclaredAction) :
    runActions config ruleName ruleGuid movement (action :: others) services =
      let first := runAction config action ruleName ruleGuid movement services
      let rest := runActions config ruleName ruleGuid movement others first.2
      (.ofAction action.kind first.1 ++ rest.1, rest.2) := rfl

theorem mailEach_cons (owner : String) (others : List String) :
    mailEach config ruleName movement (owner :: others) services =
      let first := mailSubscriber config owner ruleName movement services
      let rest := mailEach config ruleName movement others first.2
      (.ofMail first.1 ++ rest.1, rest.2) := rfl

theorem entailed_always (h : config.policy = .always) :
    entailed config ruleName ruleGuid movement services =
      let opened := openRuleTicket config ruleName ruleGuid movement services
      let mailed := mailSubscribers config ruleName ruleGuid movement opened.2
      (.ofTicket (opened.1.map some) ++ mailed.1, mailed.2) := by
  rw [entailed, h]
  rfl

theorem entailed_ifDeclared (h : config.policy = .ifDeclared) :
    entailed config ruleName ruleGuid movement services = ({}, services) := by
  rw [entailed, h]
  rfl

theorem dispatch_custom (firing : Firing) (actions : String) :
    dispatch config { firing with effect := .custom ruleGuid actions, fact := .movement movement }
        services =
      let marked := (regardless (markTriggered ruleGuid firing.firedAt) services).2
      let first := entailed config firing.ruleName ruleGuid movement marked
      let rest := runActions config firing.ruleName ruleGuid movement
        (DeclaredAction.parseList actions.toList) first.2
      (first.1 ++ rest.1, rest.2) := rfl

/-- The rule whose subscribers are to be told. -/
def findRule : Task (Option CustomRule) :=
  perform (.findRule ruleGuid) fun services =>
    match services.rules.findCustom ruleGuid with
    | .ok rule => .ok (rule, services)
    | .error error => .error (.store error)

theorem mailSubscribers_eq :
    mailSubscribers config ruleName ruleGuid movement services =
      let found := findRule ruleGuid services
      (match found.1 with
      | .ok (some rule) => mailEach config ruleName movement rule.emailSubscribers
      | .ok none => pure {}
      | .error error => pure (.failure (.action .email) error) : StateM Services Summary)
        found.2 := rfl

/-- The rule is found, or the call fails. -/
theorem findRule_cases :
    (∃ error, findRule ruleGuid services =
      (.error error, services.note (.call (.findRule ruleGuid) false))) ∨
    findRule ruleGuid services = (.ok (services.rules.custom.find? ruleGuid),
      services.note (.call (.findRule ruleGuid) true)) := by
  obtain ⟨error, hfails⟩ | ⟨value, changed, heffect, hdone⟩ := perform_cases _ _ services
  · exact .inl ⟨_, hfails⟩
  · split at heffect
    · next rule hrule =>
      cases heffect
      rw [RuleStore.find?_of_findCustom hrule]
      exact .inr hdone
    · cases heffect

end Dispatch

namespace Occasion

variable (occasion : Occasion) {services : Services}

/-- Declared actions are attempted one after the other, and each is recorded once. The induction is
on the actions; an action leaves the services as those of the occasion, with the guid that it took
drawn. -/
theorem runActions_runs (hsuits : occasion.Suits services) (declared : List DeclaredAction) :
    let result := Dispatch.runActions occasion.config occasion.ruleName occasion.ruleGuid
      occasion.movement declared services
    ∃ runs : List Errand.Run,
      result.2.calls = services.calls ++ Errand.calls runs ∧
      runs.map (·.errand) = occasion.declaredErrands services.ids declared ∧
      result.1.executed = Errand.executed runs ∧
      result.1.failed.map (·.action) = Errand.failures runs := by
  induction declared generalizing services with
  | nil => exact ⟨[], (List.append_nil _).symm, rfl, rfl, rfl⟩
  | cons action others ih =>
    intro result
    obtain ⟨run, hrun, hleads, hsucceeded⟩ :=
      (occasion.runAction_attempted hsuits action).exists_run
    have hkind : run.errand.kind = action.kind := by rw [hrun, kind_actionErrand]
    generalize hfirst : Dispatch.runAction occasion.config action occasion.ruleName
      occasion.ruleGuid occasion.movement services = first at hleads hsucceeded
    have hresult : result = _ := Dispatch.runActions_cons ..
    rw [hfirst] at hresult
    obtain ⟨hcalls, hids, hnext⟩ : first.2.calls = services.calls ++ run.made ∧
        first.2.ids = (if occasion.opensTicket action then services.ids.draw.2 else services.ids) ∧
        occasion.Suits first.2 := by
      split at hleads
      · next hopens =>
        rw [if_pos hopens]
        exact ⟨hleads.calls, hleads.ids, hleads.suits hsuits.drawn⟩
      · next hopens =>
        rw [if_neg hopens]
        exact ⟨hleads.calls, hleads.ids, hleads.suits hsuits⟩
    obtain ⟨runs, hmore, herrands, hexecuted, hfailed⟩ := ih hnext
    refine ⟨run :: runs, ?_, ?_, ?_, ?_⟩
    · rw [hresult, hmore, hcalls, List.append_assoc, Errand.calls_cons]
    · rw [List.map_cons, hrun, herrands, hids, declaredErrands]
    · rw [hresult, Summary.executed_append, hexecuted, ← hkind,
        Summary.executed_ofAction hsucceeded, ← Errand.executed_append]
      rfl
    · rw [hresult, Summary.failed_append, List.map_append, hfailed, ← hkind,
        Summary.failed_eq_failures _ hsucceeded (fun _ => rfl) fun _ => rfl,
        ← Errand.failures_append]
      rfl

/-- Subscribers are told one after the other. -/
theorem mailEach_runs (hsuits : occasion.Suits services) (owners : List String) :
    let result := Dispatch.mailEach occasion.config occasion.ruleName occasion.movement owners
      services
    ∃ runs : List Errand.Run,
      services.Leads result.2 (Errand.calls runs) ∧
      runs.map (·.errand) = owners.map occasion.subscriberErrand ∧
      result.1.executed = [] ∧
      result.1.failed.map (·.action) = Errand.failures runs := by
  induction owners generalizing services with
  | nil => exact ⟨[], .refl services, rfl, rfl, rfl⟩
  | cons owner others ih =>
    intro result
    obtain ⟨run, hrun, hleads, hsucceeded⟩ :=
      (occasion.mailSubscriber_attempted hsuits owner).exists_run
    have hkind : run.errand.kind = .email := by rw [hrun]; rfl
    have hresult : result = _ := Dispatch.mailEach_cons ..
    obtain ⟨runs, hmore, herrands, hexecuted, hfailed⟩ := ih (hleads.suits hsuits)
    refine ⟨run :: runs, ?_, ?_, ?_, ?_⟩
    · rw [hresult, Errand.calls_cons]
      exact hleads.trans hmore
    · rw [List.map_cons, hrun, herrands, List.map_cons]
    · rw [hresult, Summary.executed_append, hexecuted, Summary.executed_ofMail]
      rfl
    · rw [hresult, Summary.failed_append, List.map_append, hfailed,
        Summary.failed_eq_failures _ hsucceeded (fun _ => rfl) fun _ => hkind ▸ rfl,
        ← Errand.failures_append]
      rfl

/-- The subscribers of the rule are told when it is found. -/
theorem mailSubscribers_runs (hsuits : occasion.Suits services) :
    let result := Dispatch.mailSubscribers occasion.config occasion.ruleName occasion.ruleGuid
      occasion.movement services
    ∃ (found : Errand.Run) (mailed : List Errand.Run),
      services.Leads result.2 (Errand.calls (found :: mailed)) ∧
      found.errand = occasion.findErrand ∧
      mailed.map (·.errand) =
        (if found.succeeded then services.rules.subscribers occasion.ruleGuid else []).map
          occasion.subscriberErrand ∧
      result.1.executed = [] ∧
      result.1.failed.map (·.action) = Errand.failures (found :: mailed) := by
  intro result
  have hresult : result = _ := Dispatch.mailSubscribers_eq ..
  have hnoted (succeeded : Bool) :=
    Services.Leads.note_call services (.findRule occasion.ruleGuid) succeeded
  obtain ⟨error, hfails⟩ | hfound := Dispatch.findRule_cases occasion.ruleGuid services
  · rw [hfails] at hresult
    exact ⟨⟨occasion.findErrand, _, false, .failed⟩, [], hresult ▸ hnoted false, rfl, rfl,
      hresult ▸ rfl, hresult ▸ rfl⟩
  · rw [hfound] at hresult
    let found : Errand.Run := ⟨occasion.findErrand, _, true, .further (.finished true)⟩
    cases hrule : services.rules.custom.find? occasion.ruleGuid with
    | none =>
      rw [hrule] at hresult
      refine ⟨found, [], hresult ▸ hnoted true, rfl, ?_, hresult ▸ rfl, hresult ▸ rfl⟩
      simp [RuleStore.subscribers, hrule]
    | some rule =>
      rw [hrule] at hresult
      obtain ⟨runs, hleads, herrands, hexecuted, hfailed⟩ :=
        occasion.mailEach_runs ((hnoted true).suits hsuits) rule.emailSubscribers
      refine ⟨found, runs, hresult ▸ (hnoted true).trans hleads, rfl, ?_, hresult ▸ hexecuted,
        hresult ▸ hfailed⟩
      simp [found, RuleStore.subscribers, hrule, herrands, rule.emailSubscribers_eq]

/-- What a firing entails is done. The guids that declared actions take stay the same. -/
theorem entailed_runs (hsuits : occasion.Suits services) :
    let result := Dispatch.entailed occasion.config occasion.ruleName occasion.ruleGuid
      occasion.movement services
    ∃ runs : List Errand.Run,
      result.2.calls = services.calls ++ Errand.calls runs ∧
      occasion.Suits result.2 ∧
      (∀ declared, occasion.declaredErrands result.2.ids declared =
        occasion.declaredErrands services.ids declared) ∧
      occasion.Entails services.ids.draw.1.toText (services.rules.subscribers occasion.ruleGuid)
        runs ∧
      result.1.executed = [] ∧
      result.1.failed.map (·.action) = Errand.failures runs := by
  intro result
  cases hpolicy : occasion.config.policy with
  | ifDeclared =>
    have hresult : result = _ := Dispatch.entailed_ifDeclared _ _ _ _ _ hpolicy
    rw [hresult]
    exact ⟨[], (List.append_nil _).symm, hsuits, fun _ => rfl, by rw [Entails, hpolicy], rfl, rfl⟩
  | always =>
    have hresult : result = _ := Dispatch.entailed_always _ _ _ _ _ hpolicy
    obtain ⟨ticket, hticket, hopened, hsucceeded⟩ :=
      (occasion.openRuleTicket_attempted hsuits).exists_run
    generalize Dispatch.openRuleTicket occasion.config occasion.ruleName occasion.ruleGuid
      occasion.movement services = opened at hresult hopened hsucceeded
    have hnext : occasion.Suits opened.2 := hopened.suits hsuits.drawn
    obtain ⟨found, mailed, hmailed, hfound, herrands, hexecuted, hfailed⟩ :=
      occasion.mailSubscribers_runs hnext
    have hkind : ticket.errand.kind = .ticket := by rw [hticket]; rfl
    have hmapped : ticket.succeeded = (opened.1.map some).isOk := by
      rw [hsucceeded]
      cases opened.1 <;> rfl
    refine ⟨ticket :: found :: mailed, ?_, ?_, ?_, ?_, ?_, ?_⟩
    · rw [hresult, Errand.calls_cons]
      exact (hopened.trans hmailed).calls
    · rw [hresult]
      exact hmailed.suits hnext
    · exact occasion.declaredErrands_always hpolicy _ _
    · rw [Entails, hpolicy]
      refine ⟨ticket, found, mailed, rfl, hticket, hfound, ?_⟩
      rw [hopened.subscribers, ← List.forall₂_eq_eq_eq, List.forall₂_map_left_iff,
        List.forall₂_map_right_iff] at herrands
      exact herrands.flip.imp fun owner run => occasion.tells_of_errand
    · rw [hresult, Summary.executed_append, Summary.executed_ofTicket, hexecuted]
      rfl
    · rw [hresult, Summary.failed_append, List.map_append, hfailed,
        Summary.failed_eq_failures _ hmapped (fun _ => rfl) fun _ => hkind ▸ rfl,
        ← Errand.failures_append]
      rfl

end Occasion

/-! ## Dispatch of a firing -/

/-- What the errands of a firing depend on. -/
def Services.occasion (services : Services) (config : DispatchConfig) (ruleName ruleGuid : String)
    (movement : Movement) : Occasion where
  config := config
  ruleName := ruleName
  ruleGuid := ruleGuid
  movement := movement
  now := services.now
  contacts := services.contacts
  organisations := services.organisations
  isUri := services.isUri

/-- When a custom rule fires on a movement, it is noted that the rule fired, and the errands that
the firing entails and those that the rule declares are attempted one after the other. Which
errands these are does not depend on which calls fail, except that no subscribers are told when the
rule is not found. Every declared action is recorded once, as carried out or as failed. -/
theorem Dispatch.dispatch_isolates (config : DispatchConfig) (firing : Firing)
    (ruleGuid actions : String) (movement : Movement) (services : Services)
    (faults : Nat → Call → Option CallError) :
    let occasion := services.occasion config firing.ruleName ruleGuid movement
    let declared := DeclaredAction.parseList actions.toList
    let result := dispatch config
      { firing with effect := .custom ruleGuid actions, fact := .movement movement }
      { services with faults }
    ∃ (marked : Bool) (entailed acted : List Errand.Run),
      result.2.calls = services.calls ++
        (.markTriggered ruleGuid firing.firedAt, marked) :: Errand.calls (entailed ++ acted) ∧
      occasion.Entails services.ids.draw.1.toText (services.rules.subscribers ruleGuid) entailed ∧
      acted.map (·.errand) = occasion.declaredErrands services.ids declared ∧
      acted.map (·.errand.kind) = declared.map (·.kind) ∧
      result.1.executed = Errand.executed acted ∧
      result.1.failed.map (·.action) = Errand.failures entailed ++ Errand.failures acted ∧
      Errand.tickets (entailed ++ acted) =
        match config.policy with
        | .always => 1
        | .ifDeclared => declared.countP (·.kind == .ticket) := by
  intro occasion declared result
  have hresult : result = _ := dispatch_custom ..
  have hsuits : occasion.Suits { services with faults } := ⟨rfl, rfl, rfl, rfl⟩
  obtain ⟨marked, hmarked⟩ :=
    regardless_markTriggered_leads ruleGuid firing.firedAt { services with faults }
  obtain ⟨entailed, hcalls, hnext, hids, hentailed, hnone, hfailed⟩ :=
    occasion.entailed_runs (hmarked.suits hsuits)
  obtain ⟨acted, hmore, hacted, hexecuted, hfailedActions⟩ :=
    occasion.runActions_runs hnext declared
  rw [hids, hmarked.ids] at hacted
  rw [hmarked.ids, hmarked.subscribers] at hentailed
  refine ⟨marked, entailed, acted, ?_, hentailed, hacted, ?_, ?_, ?_,
    occasion.tickets_entailed hentailed hacted⟩
  · rw [hresult]
    refine hmore.trans ?_
    rw [hcalls, hmarked.calls]
    simp [Services.calls]
  · have hkinds := occasion.map_kind_declaredErrands services.ids declared
    rwa [← hacted, List.map_map] at hkinds
  · rw [hresult]
    exact congrArg₂ _ hnone hexecuted
  · rw [hresult, Summary.failed_append, List.map_append]
    exact congrArg₂ _ hfailed hfailedActions

end FisheryRules
