import FisheryRules.Proofs.Response.ActionIsolation
import FisheryRules.Proofs.Results

/-!
# Incidents

A ticket is opened for a custom rule, for a declared action or for a silent vessel, and an alarm is
raised for a sanity rule. Each of them is a `register`, with the same calls and events around the
creation of the incident.

## Main definitions

* `Incident`, `Incident.register` — tickets and alarms, and how they are registered.
* `Incident.entries` — what the journal shows of an incident that has been created.

## Main results

* `Incident.register_cases` — the incident is created and made known, or nothing happens.
* `Dispatch.openRuleTicket_eq`, `Dispatch.raiseAlarm_eq`, `Dispatch.vesselSilent_eq` — the tasks
  that register incidents.
-/
namespace FisheryRules

/-- A ticket or an alarm. -/
inductive Incident
  | ticket (ticket : Ticket)
  | alarm (alarm : Alarm)

namespace Incident

def ticket? : Incident → Option Ticket
  | .ticket opened => some opened
  | .alarm _ => none

def alarm? : Incident → Option Alarm
  | .ticket _ => none
  | .alarm raised => some raised

/-- The call that creates the incident. -/
def creation : Incident → Call
  | .ticket opened => .createTicket opened
  | .alarm raised => .createAlarm raised

def addTo (store : IncidentStore) : Incident → IncidentStore
  | .ticket opened => store.addTicket opened
  | .alarm raised => store.addAlarm raised

def object : Incident → AuditObject
  | .ticket _ => .ticket
  | .alarm _ => .alarm

def guid : Incident → String
  | .ticket opened => opened.guid
  | .alarm raised => raised.guid

/-- What the audit log is told of the incident. -/
def audited (config : DispatchConfig) (incident : Incident) : AuditObject × String × String :=
  (incident.object, incident.guid, config.systemUser)

/-- The events that announce the incident. -/
def announced : Incident → List NotificationEvent
  | .ticket opened => [.ticketCreated opened.guid, .ticketCountChanged]
  | .alarm raised => [.alarmCreated raised.guid, .alarmCountChanged]

/-- What cannot be done when the incident cannot be created. -/
def undertaking : Incident → Undertaking
  | .ticket _ => .action .ticket
  | .alarm _ => .alarm

end Incident

/-! ## Registration -/

/-- A call that cannot go wrong by itself fails if it is bound to. -/
theorem perform_ok {α : Type} (call : Call) (effect : Services → α × Services)
    (services : Services) :
    perform call (fun services => .ok (effect services)) services =
      match services.faults services.journal.length call with
      | some error => (.error (.call error), services.note (.call call false))
      | none => (.ok (effect services).1, (effect services).2.note (.call call true)) := by
  rw [perform]
  cases services.faults services.journal.length call <;> rfl

/-- The audit log is told, and it is noted whether it could record it. -/
theorem Dispatch.regardless_audit_eq (config : DispatchConfig) (object : AuditObject)
    (operation : AuditOperation) (subject : String) (services : Services) :
    ∃ recorded, (regardless (audit config object operation subject) services).2 =
      services.note (.call (.audit object operation subject config.systemUser) recorded) := by
  rw [Task.regardless_eq, audit, perform_ok]
  split
  · exact ⟨false, rfl⟩
  · exact ⟨true, rfl⟩

/-- Events are noted as they are announced. -/
theorem Task.announce_eq (events : List NotificationEvent) (services : Services) :
    (forM events fun event => (announce event : Task Unit)) services =
      (.ok (), { services with journal := services.journal ++ events.map .event }) := by
  induction events generalizing services with
  | nil => simp [pure, ExceptT.pure, ExceptT.mk, StateT.pure]
  | cons event others ih =>
    rw [List.forM_cons, Task.bind_eq, Task.lift_eq]
    refine (ih _).trans ?_
    simp [announce, Services.note, modify, modifyGet, MonadStateOf.modifyGet, StateT.modifyGet,
      pure]

/-- What is done with the result of a task. -/
theorem Task.bind_pure_eq {α β : Type} (task : Task α) (f : α → β) (services : Services) :
    (task >>= fun a => pure (f a)) services =
      ((task services).1.map f, (task services).2) := by
  rw [Task.bind_eq]
  obtain ⟨result, next⟩ := task services
  cases result <;> rfl

namespace Incident

variable (config : DispatchConfig) (incident : Incident)

/-- Creates the incident, has it noted in the audit log, and announces it. -/
def register {α : Type} (a : α) : Task α := do
  perform incident.creation fun services =>
    .ok ((), { services with incidents := incident.addTo services.incidents })
  regardless (Dispatch.audit config incident.object .create incident.guid)
  forM incident.announced fun event => announce event
  return a

/-- What the journal shows of an incident that has been created. -/
def entries (recorded : Bool) : List JournalEntry :=
  .call incident.creation true ::
    .call (.audit incident.object .create incident.guid config.systemUser) recorded ::
    incident.announced.map .event

/-- The incident is created and recorded, or its creation fails and nothing else happens. -/
theorem register_cases {α : Type} (a : α) (services : Services) :
    (∃ error, services.faults services.journal.length incident.creation = some error ∧
      incident.register config a services =
        (.error (.call error), services.note (.call incident.creation false))) ∨
    services.faults services.journal.length incident.creation = none ∧
      ∃ recorded, incident.register config a services =
        (.ok a, { services with
          incidents := incident.addTo services.incidents
          journal := services.journal ++ incident.entries config recorded }) := by
  rw [register, Task.bind_eq, perform_ok]
  cases hfault : services.faults services.journal.length incident.creation with
  | some error => exact .inl ⟨error, rfl, rfl⟩
  | none =>
    refine .inr ⟨rfl, ?_⟩
    generalize hcreated : Services.note _ (.call incident.creation true) = created
    obtain ⟨recorded, hrecorded⟩ := Dispatch.regardless_audit_eq config incident.object .create
      incident.guid created
    refine ⟨recorded, ?_⟩
    simp only [Task.bind_eq, Task.lift_eq, Task.announce_eq, hrecorded]
    rw [← hcreated]
    simp only [Services.note, entries, List.append_assoc, List.cons_append, List.nil_append]
    rfl

end Incident

/-! ## The tasks that register incidents -/

namespace Dispatch

variable (config : DispatchConfig) (ruleName ruleGuid : String) (movement : Movement)
  (services : Services)

theorem openRuleTicket_eq : ∃ ticket : Ticket,
    openRuleTicket config ruleName ruleGuid movement services =
      (Incident.ticket ticket).register config ticket services.drawn := ⟨_, rfl⟩

theorem raiseAlarm_eq (firing : Firing) : ∃ alarm : Alarm,
    raiseAlarm config firing services =
      (Incident.alarm alarm).register config alarm services.drawn.drawn := ⟨_, rfl⟩

/-- The ticket of a vessel that has been silent since a report. -/
def silenceTicket (guid : String) (openDate : Instant) (report : PreviousReport) : Ticket where
  guid := guid
  status := .opened
  openDate := openDate
  ruleName := silenceRule
  ruleGuid := ruleGuid
  movementGuid := report.movementGuid
  vesselGuid := some report.vesselGuid
  recipient := none
  updatedBy := config.systemUser

/-- The store is asked for an open ticket of the vessel; only if there is none, one is opened. -/
theorem vesselSilent_eq (report : PreviousReport) :
    vesselSilent config ruleGuid report services =
      match services.faults services.journal.length (.findOpenTicket report.vesselGuid) with
      | some error =>
        (.error (.call error), services.note (.call (.findOpenTicket report.vesselGuid) false))
      | none =>
        let asked := services.note (.call (.findOpenTicket report.vesselGuid) true)
        if (services.incidents.openTicket? report.vesselGuid).isSome then (.ok none, asked)
        else
          let ticket := silenceTicket config ruleGuid services.ids.draw.1.toText services.now report
          let result := (Incident.ticket ticket).register config ticket asked.drawn
          (result.1.map some, result.2) := by
  rw [vesselSilent, Task.bind_eq, perform_ok]
  cases services.faults services.journal.length (.findOpenTicket report.vesselGuid) with
  | some error => rfl
  | none =>
    dsimp only
    split
    · rfl
    · exact Task.bind_pure_eq ..

theorem checkReports_cons_silent {now : Instant} {report : PreviousReport}
    (h : report.isSilent now config.silenceThreshold = true) (others : List PreviousReport) :
    checkReports config now (report :: others) services =
      let first := vesselSilent config silenceRule report services
      let rest := checkReports config now others first.2
      (.ofTicket first.1 ++ rest.1, rest.2) := by
  rw [checkReports, if_pos h]
  rfl

theorem checkReports_cons_heard {now : Instant} {report : PreviousReport}
    (h : ¬ report.isSilent now config.silenceThreshold = true) (others : List PreviousReport) :
    checkReports config now (report :: others) services =
      checkReports config now others services := by
  rw [checkReports, if_neg h]

end Dispatch

end FisheryRules
