import FisheryRules.Proofs.Registry.StoreRuns
import FisheryRules.Proofs.Response.Errands

/-!
# Tasks of errands

The tasks of the dispatch make the calls of an errand as long as these succeed, and no others. They
leave the subscriptions and the directory as they are.

## Main definitions

* `Services.Leads` — from one state of the services to another some calls are made.
* `Carries`, `Errand.Attempted` — a task makes the calls of an errand and nothing else.

## Main results

* `Occasion.runAction_attempted`, `Occasion.mailSubscriber_attempted`,
  `Occasion.openRuleTicket_attempted` — the tasks and their errands.
-/
namespace FisheryRules

/-- The owners of the subscriptions by mail of the rule with a guid, if there is one. A user with
several such subscriptions is counted several times. -/
def RuleStore.subscribers (rules : RuleStore) (guid : String) : List String :=
  match rules.custom.find? guid with
  | some rule => rule.subscriptions.filterMap fun subscription =>
      if subscription.kind = .email then some subscription.owner else none
  | none => []

theorem CustomRule.emailSubscribers_eq (rule : CustomRule) :
    rule.emailSubscribers = rule.subscriptions.filterMap fun subscription =>
      if subscription.kind = .email then some subscription.owner else none := by
  rw [emailSubscribers, ← List.filterMap_eq_map, List.filterMap_filter]
  simp

/-- The recipients are found organisation by organisation. -/
theorem RecipientInfo.ofOrganisations_eq (isUri : (address : String) → Bool)
    (organisations : List Organisation) :
    ofOrganisations isUri organisations = organisations.flatMap fun organisation =>
      organisation.endpoints.filterMap fun target =>
        if isUri target.uri then some ⟨target.name, target.uri⟩ else none := by
  rw [ofOrganisations, List.filter_flatMap, List.map_flatMap]
  refine List.flatMap_congr fun organisation _ => ?_
  rw [← List.filterMap_eq_map, List.filterMap_filter]
  rfl

namespace RuleStore

variable {rules rules' : RuleStore} {guid : String}

theorem find?_of_findCustom {found : Option CustomRule} (h : rules.findCustom guid = .ok found) :
    rules.custom.find? guid = found := by
  obtain ⟨-, -, h⟩ := bind_eq_ok.1 h
  cases h
  rfl

/-- Noting that a rule fired changes no subscriptions. -/
theorem subscribers_markTriggered {t : Instant} (h : rules.markTriggered guid t = .ok rules') :
    rules'.subscribers = rules.subscribers := by
  obtain ⟨rule, hfind, rfl⟩ := exists_of_markTriggered h
  have hguid : rule.guid = guid := by simpa using List.find?_some hfind
  funext other
  rw [subscribers, subscribers, Table.find?_put]
  by_cases hother : rule.guid = other
  · rw [if_pos hother, ← hother, hguid, hfind]
  · rw [if_neg hother]

end RuleStore

namespace Occasion

variable (occasion : Occasion)

/-- The services are those of the occasion. -/
structure Suits (services : Services) : Prop where
  now : services.now = occasion.now
  contacts : services.contacts = occasion.contacts
  organisations : services.organisations = occasion.organisations
  isUri : services.isUri = occasion.isUri

end Occasion

/-! ## Tasks that make the calls of an errand -/

/-- From one state of the services to another some calls are made. The subscribers of the rules, the
directory and the valid addresses have not changed, and no identifiers have been drawn. -/
structure Services.Leads (before after : Services) (made : List (Call × Bool)) : Prop where
  calls : after.calls = before.calls ++ made
  subscribers : after.rules.subscribers = before.rules.subscribers
  ids : after.ids = before.ids
  now : after.now = before.now
  contacts : after.contacts = before.contacts
  organisations : after.organisations = before.organisations
  isUri : after.isUri = before.isUri

namespace Services.Leads

variable {before between after : Services} {made more : List (Call × Bool)}

theorem refl (services : Services) : services.Leads services [] := by
  constructor <;> simp

theorem trans (h : before.Leads between made) (h' : between.Leads after more) :
    before.Leads after (made ++ more) where
  calls := by rw [h'.calls, h.calls, List.append_assoc]
  subscribers := h'.subscribers.trans h.subscribers
  ids := h'.ids.trans h.ids
  now := h'.now.trans h.now
  contacts := h'.contacts.trans h.contacts
  organisations := h'.organisations.trans h.organisations
  isUri := h'.isUri.trans h.isUri

theorem suits {occasion : Occasion} (h : before.Leads after made)
    (hsuits : occasion.Suits before) : occasion.Suits after where
  now := h.now.trans hsuits.now
  contacts := h.contacts.trans hsuits.contacts
  organisations := h.organisations.trans hsuits.organisations
  isUri := h.isUri.trans hsuits.isUri

theorem note_call (services : Services) (call : Call) (succeeded : Bool) :
    services.Leads (services.note (.call call succeeded)) [(call, succeeded)] := by
  constructor <;> simp [Services.note, Services.calls, JournalEntry.call?]

theorem note_event (services : Services) (event : NotificationEvent) :
    services.Leads (services.note (.event event)) [] := by
  constructor <;> simp [Services.note, Services.calls, JournalEntry.call?]

end Services.Leads

namespace Task

variable {α β : Type}

/-- A task goes on with what its first part gives, unless that fails. -/
theorem bind_eq (task : Task α) (f : α → Task β) (services : Services) :
    (task >>= f) services =
      match task services with
      | (.ok a, next) => f a next
      | (.error error, next) => (.error error, next) := by
  change (match task services with | (result, next) => ExceptT.bindCont f result next) = _
  obtain ⟨result, next⟩ := task services
  cases result <;> rfl

theorem lift_eq (action : StateM Services α) (services : Services) :
    (liftM action : Task α) services = (.ok (action services).1, (action services).2) := rfl

theorem regardless_eq (task : Task α) (services : Services) :
    (regardless task services).2 = (task services).2 := rfl

end Task

/-- A call takes effect and is noted, or fails and is noted. -/
theorem perform_cases {α : Type} (call : Call)
    (effect : Services → Except CallError (α × Services)) (services : Services) :
    (∃ error, perform call effect services =
      (.error (.call error), services.note (.call call false))) ∨
    ∃ value changed, effect services = .ok (value, changed) ∧
      perform call effect services = (.ok value, changed.note (.call call true)) := by
  rw [perform]
  cases services.faults services.journal.length call with
  | some error => exact .inl ⟨error, rfl⟩
  | none =>
    cases heffect : effect services with
    | error error => exact .inl ⟨error, by simp⟩
    | ok changed => exact .inr ⟨changed.1, changed.2, rfl, by simp⟩

theorem perform_leads {α : Type} {call : Call}
    {effect : Services → Except CallError (α × Services)} {services : Services}
    (h : ∀ value changed, effect services = .ok (value, changed) → services.Leads changed []) :
    ∃ succeeded, services.Leads (perform call effect services).2 [(call, succeeded)] := by
  obtain ⟨error, hfails⟩ | ⟨value, changed, heffect, hdone⟩ := perform_cases call effect services
  · rw [hfails]
    exact ⟨false, .note_call services call false⟩
  · rw [hdone]
    exact ⟨true, (h value changed heffect).trans (.note_call changed call true)⟩

/-- The task makes the calls of an errand, as far as they succeed, and nothing else. -/
def Carries {α : Type} (task : Task α) (services : Services) (audit : Option Call)
    (required : List Call) : Prop :=
  ∃ made, services.Leads (task services).2 made ∧
    Attempt audit required made (task services).1.isOk

/-- A task that first makes a call. -/
theorem carries_perform {α β : Type} {call : Call}
    {effect : Services → Except CallError (α × Services)} {rest : α → Task β} {services : Services}
    {audit : Option Call} {required : List Call}
    (h : ∀ value changed, effect services = .ok (value, changed) →
      services.Leads changed [] ∧ Carries (rest value) (changed.note (.call call true)) audit
        required) :
    Carries (perform call effect >>= rest) services audit (call :: required) := by
  rw [Carries, Task.bind_eq]
  obtain ⟨error, hfails⟩ | ⟨value, changed, heffect, hdone⟩ := perform_cases call effect services
  · rw [hfails]
    exact ⟨_, .note_call services call false, .failed⟩
  · obtain ⟨hchanged, made, hmade, hattempt⟩ := h value changed heffect
    rw [hdone]
    exact ⟨_, (hchanged.trans (.note_call changed call true)).trans hmade, hattempt.further⟩

/-- A task that first looks at the services. -/
theorem carries_get {α : Type} {rest : Services → Task α} {services : Services}
    {audit : Option Call} {required : List Call}
    (h : Carries (rest services) services audit required) :
    Carries (get >>= rest) services audit required := h

/-- A task that makes no call. -/
theorem carries_pure {α : Type} (a : α) (services : Services) :
    Carries (pure a) services none [] :=
  ⟨[], .refl services, .finished true⟩

namespace Dispatch

variable (config : DispatchConfig)

/-- Writing to the audit log never fails a task. -/
theorem regardless_audit_leads (object : AuditObject) (operation : AuditOperation)
    (subject : String) (services : Services) :
    ∃ recorded, services.Leads (regardless (audit config object operation subject) services).2
      [(.audit object operation subject config.systemUser, recorded)] := by
  rw [Task.regardless_eq, audit]
  refine perform_leads fun value changed heffect => ?_
  cases heffect
  exact .refl services

/-- A task that ends with an entry in the audit log. -/
theorem carries_audit (object : AuditObject) (operation : AuditOperation) (subject : String)
    (services : Services) :
    Carries (liftM (regardless (audit config object operation subject))) services
      (some (.audit object operation subject config.systemUser)) [] := by
  obtain ⟨recorded, hleads⟩ := regardless_audit_leads config object operation subject services
  exact ⟨_, hleads, .finished recorded⟩

theorem openTicket_carries (ticket : Ticket) (services : Services) :
    Carries (openTicket config ticket) services
      (some (.audit .ticket .create ticket.guid config.systemUser)) [.createTicket ticket] := by
  rw [openTicket]
  refine carries_perform fun value changed heffect => ?_
  cases heffect
  refine ⟨by constructor <;> simp [Services.calls], ?_⟩
  generalize Services.note _ _ = noted
  obtain ⟨recorded, hleads⟩ := regardless_audit_leads config .ticket .create ticket.guid noted
  simp only [Carries, Task.bind_eq, Task.lift_eq]
  exact ⟨_, (hleads.trans (.note_event _ _)).trans (.note_event _ _), .finished recorded⟩

theorem sendMail_carries (address ruleName : String) (movement : Movement) (services : Services) :
    Carries (sendMail config address ruleName movement) services
      (some (.audit .customRuleAction .sendEmail address config.systemUser))
      [.sendMail address (Mail.subject ruleName) (Mail.body ruleName movement)] := by
  rw [sendMail]
  refine carries_perform fun value changed heffect => ?_
  cases heffect
  exact ⟨.refl services, carries_audit config _ _ _ _⟩

theorem sendReport_carries (endpoint ruleName : String) (movement : Movement)
    (services : Services) :
    let report : EndpointReport := {
      ruleName
      endpoint
      date := services.now
      movement := some movement
      recipients := RecipientInfo.ofOrganisations services.isUri
        ((services.organisations.lookup endpoint).getD [])
      vesselName := movement.vesselName
      vesselIrcs := movement.vesselIrcs }
    Carries (sendReport config endpoint ruleName movement) services
      (some (.audit .customRuleAction .sendToEndpoint endpoint config.systemUser))
      [.findOrganisations endpoint, .sendReport endpoint report] := by
  intro report
  rw [sendReport]
  refine carries_perform fun organisations changed heffect => ?_
  cases heffect
  refine ⟨.refl services, carries_get (carries_perform fun value changed heffect => ?_)⟩
  cases heffect
  exact ⟨.refl _, carries_audit config _ _ _ _⟩

/-- An action that cannot do without a value ends when it has none. -/
theorem requiredValue_bind {α : Type} (action : DeclaredAction) (task : String → Task α)
    (services : Services) :
    (requiredValue action >>= task) services =
      if action.value.isEmpty then (.error (.missingValue action.kind), services)
      else task action.value services := by
  rw [requiredValue]
  cases action.value.isEmpty <;> rfl

/-- It does not matter if noting that a rule fired fails. -/
theorem regardless_markTriggered_leads (ruleGuid : String) (t : Instant) (services : Services) :
    ∃ marked, services.Leads (regardless (markTriggered ruleGuid t) services).2
      [(.markTriggered ruleGuid t, marked)] := by
  rw [Task.regardless_eq, markTriggered]
  refine perform_leads fun value changed heffect => ?_
  split at heffect
  · next rules hrules =>
    cases heffect
    constructor <;> simp [Services.calls, RuleStore.subscribers_markTriggered hrules]
  · cases heffect

end Dispatch

/-! ## The errands are carried out -/

/-- The services when a ticket has taken its guid. -/
def Services.drawn (services : Services) : Services := { services with ids := services.ids.draw.2 }

/-- The errand has been attempted, with this result. -/
def Errand.Attempted {α : Type} (errand : Errand) (before : Services)
    (result : Except DispatchError α × Services) : Prop :=
  ∃ made, before.Leads result.2 made ∧ errand.Fares made result.1.isOk

theorem Carries.attempted {α : Type} {task : Task α} {services : Services} {kind : ActionKind}
    {audit : Option Call} {required : List Call} (h : Carries task services audit required) :
    Errand.Attempted ⟨kind, some required, audit⟩ services (task services) := h

/-- What is done with the result of a task makes no further calls. -/
theorem Errand.Attempted.map {α β : Type} {errand : Errand} {task : Task α}
    {before services : Services} (h : errand.Attempted before (task services)) (f : α → β) :
    errand.Attempted before ((task >>= fun a => pure (f a)) services) := by
  rw [Task.bind_eq]
  obtain ⟨result, after, htask⟩ : ∃ result after, task services = (result, after) := ⟨_, _, rfl⟩
  rw [htask] at h ⊢
  cases result with
  | ok a => exact h
  | error error => exact h

theorem Errand.Attempted.exists_run {α : Type} {errand : Errand} {before : Services}
    {result : Except DispatchError α × Services} (h : errand.Attempted before result) :
    ∃ run : Run, run.errand = errand ∧ before.Leads result.2 run.made ∧
      run.succeeded = result.1.isOk := by
  obtain ⟨made, hleads, hfares⟩ := h
  exact ⟨⟨errand, made, _, hfares⟩, rfl, hleads, rfl⟩

namespace Occasion

variable (occasion : Occasion) {services : Services}

theorem Suits.drawn {occasion : Occasion} (h : occasion.Suits services) :
    occasion.Suits services.drawn := ⟨h.now, h.contacts, h.organisations, h.isUri⟩

theorem openRuleTicket_attempted (hsuits : occasion.Suits services) :
    (occasion.ticketErrand services.ids.draw.1.toText).Attempted services.drawn
      (Dispatch.openRuleTicket occasion.config occasion.ruleName occasion.ruleGuid
        occasion.movement services) := by
  rw [ticketErrand, ticket, ← hsuits.now]
  exact Carries.attempted (Dispatch.openTicket_carries ..)

/-- A declared action is attempted. -/
theorem runAction_attempted (hsuits : occasion.Suits services) (action : DeclaredAction) :
    (occasion.actionErrand services.ids.draw.1.toText action).Attempted
      (if occasion.opensTicket action then services.drawn else services)
      (Dispatch.runAction occasion.config action occasion.ruleName occasion.ruleGuid
        occasion.movement services) := by
  obtain ⟨kind, value⟩ := action
  cases kind with
  | email =>
    by_cases hvalue : value.isEmpty = true
    · simp only [actionErrand, Dispatch.runAction, Dispatch.requiredValue_bind, if_pos hvalue]
      exact ⟨[], .refl services, rfl, rfl⟩
    · simp only [actionErrand, Dispatch.runAction, Dispatch.requiredValue_bind, if_neg hvalue]
      exact (Dispatch.sendMail_carries ..).attempted.map fun _ => none
  | ticket =>
    cases hpolicy : occasion.config.policy with
    | always =>
      simp only [actionErrand, hpolicy, Dispatch.runAction, opensTicket]
      exact (carries_pure none services).attempted
    | ifDeclared =>
      simp only [actionErrand, hpolicy, Dispatch.runAction, opensTicket]
      exact (occasion.openRuleTicket_attempted hsuits).map some
  | sendToEndpoint =>
    by_cases hvalue : value.isEmpty = true
    · simp only [actionErrand, Dispatch.runAction, Dispatch.requiredValue_bind, if_pos hvalue]
      exact ⟨[], .refl services, rfl, rfl⟩
    · simp only [actionErrand, Dispatch.runAction, Dispatch.requiredValue_bind, if_neg hvalue]
      rw [report, recipients, ← hsuits.now, ← hsuits.organisations, ← hsuits.isUri,
        ← RecipientInfo.ofOrganisations_eq]
      exact (Dispatch.sendReport_carries ..).attempted.map fun _ => none
  | manualPoll | onHold | sms | topBarNotification => exact (carries_pure none services).attempted

/-- A subscriber is told. -/
theorem mailSubscriber_attempted (hsuits : occasion.Suits services) (owner : String) :
    (occasion.subscriberErrand owner).Attempted services
      (Dispatch.mailSubscriber occasion.config owner occasion.ruleName occasion.movement
        services) := by
  rw [subscriberErrand, ← hsuits.contacts, Dispatch.mailSubscriber]
  refine Carries.attempted (carries_perform fun address changed heffect => ?_)
  cases heffect
  refine ⟨.refl services, ?_⟩
  cases services.contacts.lookup owner with
  | none => exact carries_pure () _
  | some address => exact Dispatch.sendMail_carries ..

end Occasion

end FisheryRules
