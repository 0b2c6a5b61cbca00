import FisheryRules.Evaluation.Session
import FisheryRules.Response.Action
import FisheryRules.Response.Mail
import FisheryRules.Response.Services

/-!
# Dispatch of firings

What follows from rule firings: alarms, tickets, mails and reports. Every action stands for
itself: one that fails is recorded, and those after it are carried out all the same.

## Main definitions

* `DispatchConfig`, `Summary` — the settings, and what came of some firings.
* `Dispatch.dispatchAll` — carries out what firings ask for.
* `Dispatch.checkReports` — opens tickets for vessels that fell silent.
-/
namespace FisheryRules

/-- Settings of the dispatch. -/
structure DispatchConfig where
  policy : TicketPolicy := .always
  /-- Recorded as the author of incidents and of audit entries. -/
  systemUser : String := "UVMS"
  /-- How long a vessel may stay silent, in nanoseconds. -/
  silenceThreshold : Nat := 7200 * 1000000000
deriving DecidableEq

/-- What failed: the dispatch of a firing, an alarm, or an action. -/
inductive Undertaking
  | rule
  | alarm
  | action (kind : ActionKind)
deriving DecidableEq

def Undertaking.code : Undertaking → String
  | rule => "RULE"
  | alarm => "ALARM"
  | action kind => kind.code

structure FailedAction where
  action : Undertaking
  error : DispatchError
deriving DecidableEq

/-- What came of some firings. -/
structure Summary where
  tickets : List Ticket := []
  alarms : List Alarm := []
  executed : List ActionKind := []
  failed : List FailedAction := []
deriving DecidableEq

namespace Summary

/-- What came of the firings of two summaries. -/
protected def append (a b : Summary) : Summary where
  tickets := a.tickets ++ b.tickets
  alarms := a.alarms ++ b.alarms
  executed := a.executed ++ b.executed
  failed := a.failed ++ b.failed

instance : Append Summary := ⟨Summary.append⟩

def failure (action : Undertaking) (error : DispatchError) : Summary :=
  { failed := [⟨action, error⟩] }

/-- The summary of a ticket that no declared action asked for. -/
def ofTicket : Except DispatchError (Option Ticket) → Summary
  | .ok ticket => { tickets := ticket.toList }
  | .error error => failure (.action .ticket) error

/-- The summary of a declared action. -/
def ofAction (kind : ActionKind) : Except DispatchError (Option Ticket) → Summary
  | .ok ticket => { tickets := ticket.toList, executed := [kind] }
  | .error error => failure (.action kind) error

/-- The summary of a mail to a subscriber. -/
def ofMail : Except DispatchError Unit → Summary
  | .ok () => {}
  | .error error => failure (.action .email) error

end Summary

namespace Dispatch

/-- Name of the tickets that are opened for silent vessels. -/
def silenceRule : String := "Asset not sending"

variable (config : DispatchConfig)

/-- Writes an entry to the audit log. -/
def audit (object : AuditObject) (operation : AuditOperation) (subject : String) : Task Unit :=
  perform (.audit object operation subject config.systemUser) fun services => .ok ((), services)

/-- Opens a ticket, and tells of it. -/
def openTicket (ticket : Ticket) : Task Ticket := do
  perform (.createTicket ticket) fun services =>
    .ok ((), { services with incidents := services.incidents.addTicket ticket })
  regardless (audit config .ticket .create ticket.guid)
  announce (.ticketCreated ticket.guid)
  announce .ticketCountChanged
  return ticket

/-- Opens the ticket of a custom rule that fired on a movement. -/
def openRuleTicket (ruleName ruleGuid : String) (movement : Movement) : Task Ticket := do
  openTicket config {
    guid := ← drawGuid
    status := .opened
    openDate := (← get).now
    ruleName
    ruleGuid
    movementGuid := movement.movementGuid
    vesselGuid := movement.vesselGuid
    recipient := movement.eezCode
    updatedBy := config.systemUser }

/-- Raises the alarm of a sanity rule. -/
def raiseAlarm (firing : Firing) : Task Alarm := do
  let report :=
    match firing.fact with
    | .rawMovement report => some report
    | _ => none
  let guid ← drawGuid
  let itemGuid ← drawGuid
  let alarm := Alarm.forSanityRule guid itemGuid (← get).now firing.ruleName report
    config.systemUser
  perform (.createAlarm alarm) fun services =>
    .ok ((), { services with incidents := services.incidents.addAlarm alarm })
  regardless (audit config .alarm .create alarm.guid)
  announce (.alarmCreated alarm.guid)
  announce .alarmCountChanged
  return alarm

/-- Mails about a movement that triggered a rule. -/
def sendMail (address ruleName : String) (movement : Movement) : Task Unit := do
  perform (.sendMail address (Mail.subject ruleName) (Mail.body ruleName movement)) fun services =>
    .ok ((), services)
  regardless (audit config .customRuleAction .sendEmail address)

/-- Forwards a movement to an endpoint, for the organisations of its name. -/
def sendReport (endpoint ruleName : String) (movement : Movement) : Task Unit := do
  let organisations ← perform (.findOrganisations endpoint) fun services =>
    .ok ((services.organisations.lookup endpoint).getD [], services)
  let services ← get
  let report : EndpointReport := {
    ruleName
    endpoint
    date := services.now
    movement := some movement
    recipients := RecipientInfo.ofOrganisations services.isUri organisations
    vesselName := movement.vesselName
    vesselIrcs := movement.vesselIrcs }
  perform (.sendReport endpoint report) fun services => .ok ((), services)
  regardless (audit config .customRuleAction .sendToEndpoint endpoint)

/-- The value of an action that cannot do without one. -/
def requiredValue (action : DeclaredAction) : Task String :=
  if action.value.isEmpty then throw (.missingValue action.kind) else return action.value

/-- Carries out a declared action; gives the ticket that it opens. -/
def runAction (action : DeclaredAction) (ruleName ruleGuid : String) (movement : Movement) :
    Task (Option Ticket) := do
  match action.kind with
  | .email =>
    sendMail config (← requiredValue action) ruleName movement
    return none
  | .ticket =>
    match config.policy with
    | .always => return none
    | .ifDeclared => return some (← openRuleTicket config ruleName ruleGuid movement)
  | .sendToEndpoint =>
    sendReport config (← requiredValue action) ruleName movement
    return none
  | .manualPoll | .onHold | .sms | .topBarNotification => return none

/-- Carries out declared actions, one after the other. -/
def runActions (ruleName ruleGuid : String) (movement : Movement) :
    List DeclaredAction → StateM Services Summary
  | [] => return {}
  | action :: others => do
    let result ← (runAction config action ruleName ruleGuid movement).run
    let rest ← runActions ruleName ruleGuid movement others
    return Summary.ofAction action.kind result ++ rest

/-- Mails to a subscriber whose address is known. -/
def mailSubscriber (owner ruleName : String) (movement : Movement) : Task Unit := do
  let address ← perform (.findContact owner) fun services =>
    .ok (services.contacts.lookup owner, services)
  match address with
  | some address => sendMail config address ruleName movement
  | none => return ()

/-- Mails to subscribers, one after the other. -/
def mailEach (ruleName : String) (movement : Movement) : List String → StateM Services Summary
  | [] => return {}
  | owner :: others => do
    let result ← (mailSubscriber config owner ruleName movement).run
    let rest ← mailEach ruleName movement others
    return Summary.ofMail result ++ rest

/-- Mails to the subscribers of a rule. -/
def mailSubscribers (ruleName ruleGuid : String) (movement : Movement) :
    StateM Services Summary := do
  let found ← (perform (.findRule ruleGuid) fun services =>
    match services.rules.findCustom ruleGuid with
    | .ok rule => .ok (rule, services)
    | .error error => .error (.store error)).run
  match found with
  | .ok (some rule) => mailEach config ruleName movement rule.emailSubscribers
  | .ok none => return {}
  | .error error => return Summary.failure (.action .email) error

/-- Notes that a custom rule fired. -/
def markTriggered (ruleGuid : String) (t : Instant) : Task Unit :=
  perform (.markTriggered ruleGuid t) fun services =>
    match services.rules.markTriggered ruleGuid t with
    | .ok rules => .ok ((), { services with rules })
    | .error error => .error (.store error)

/-- What every firing of a custom rule entails under the policy of a ticket with every firing. -/
def entailed (ruleName ruleGuid : String) (movement : Movement) : StateM Services Summary := do
  match config.policy with
  | .ifDeclared => return {}
  | .always =>
    let result ← (openRuleTicket config ruleName ruleGuid movement).run
    let mailed ← mailSubscribers config ruleName ruleGuid movement
    return Summary.ofTicket (result.map some) ++ mailed

/-- Carries out what a custom rule asks for when it fires on a movement. -/
def customRuleFired (firing : Firing) (ruleGuid actions : String) (movement : Movement) :
    StateM Services Summary := do
  regardless (markTriggered ruleGuid firing.firedAt)
  let first ← entailed config firing.ruleName ruleGuid movement
  let declared ← runActions config firing.ruleName ruleGuid movement
    (DeclaredAction.parseList actions.toList)
  return first ++ declared

/-- Carries out what a firing asks for. -/
def dispatch (firing : Firing) : StateM Services Summary := do
  match firing.effect with
  | .alarm =>
    match ← (raiseAlarm config firing).run with
    | .ok alarm => return { alarms := [alarm] }
    | .error error => return Summary.failure .alarm error
  | .custom ruleGuid actions =>
    match firing.fact with
    | .movement movement => customRuleFired config firing ruleGuid actions movement
    | _ => return Summary.failure .rule (.notAMovement firing.factId)
  | .outcome .. => return {}

/-- Carries out what firings ask for, one after the other. -/
def dispatchAll : List Firing → StateM Services Summary
  | [] => return {}
  | firing :: others => do
    let first ← dispatch config firing
    let rest ← dispatchAll others
    return first ++ rest

/-- Opens a ticket for a silent vessel, unless it has an open one. -/
def vesselSilent (ruleGuid : String) (report : PreviousReport) : Task (Option Ticket) := do
  let found ← perform (.findOpenTicket report.vesselGuid) fun services =>
    .ok (services.incidents.openTicket? report.vesselGuid, services)
  if found.isSome then return none
  let ticket ← openTicket config {
    guid := ← drawGuid
    status := .opened
    openDate := (← get).now
    ruleName := silenceRule
    ruleGuid
    movementGuid := report.movementGuid
    vesselGuid := some report.vesselGuid
    recipient := none
    updatedBy := config.systemUser }
  return some ticket

/-- Opens tickets for the vessels that have been silent too long. -/
def checkReports (now : Instant) : List PreviousReport → StateM Services Summary
  | [] => return {}
  | report :: others => do
    if report.isSilent now config.silenceThreshold then
      let result ← (vesselSilent config silenceRule report).run
      let rest ← checkReports now others
      return Summary.ofTicket result ++ rest
    else checkReports now others

end Dispatch

end FisheryRules
