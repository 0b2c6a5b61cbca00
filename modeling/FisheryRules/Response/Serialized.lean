import FisheryRules.Fact.Serialized
import FisheryRules.Response.Action
import FisheryRules.Response.Contact
import FisheryRules.Response.Incident

/-!
# Serialized incidents

The serialized forms of alarms, tickets, forwarded movements, audit entries and notifications, and
of the policy for tickets.
-/
namespace FisheryRules

namespace AlarmStatus

def all : List AlarmStatus := [opened, closed, pending, rejected]

def code : AlarmStatus → String
  | opened => "OPEN"
  | closed => "CLOSED"
  | pending => "PENDING"
  | rejected => "REJECTED"

end AlarmStatus

namespace TicketStatus

def all : List TicketStatus := [opened, closed, pending, pollPending]

def code : TicketStatus → String
  | opened => "OPEN"
  | closed => "CLOSED"
  | pending => "PENDING"
  | pollPending => "POLL_PENDING"

end TicketStatus

namespace AuditObject

def all : List AuditObject := [ticket, alarm, customRuleAction]

def code : AuditObject → String
  | ticket => "TICKET"
  | alarm => "ALARM"
  | customRuleAction => "CUSTOM_RULE_ACTION"

end AuditObject

namespace AuditOperation

def all : List AuditOperation := [create, sendEmail, sendToEndpoint]

def code : AuditOperation → String
  | create => "CREATE"
  | sendEmail => "SEND_EMAIL"
  | sendToEndpoint => "SEND_TO_ENDPOINT"

end AuditOperation

namespace TicketPolicy

def all : List TicketPolicy := [always, ifDeclared]

def code : TicketPolicy → String
  | always => "ALWAYS_TICKET_ON_FIRE"
  | ifDeclared => "TICKET_ONLY_IF_DECLARED"

end TicketPolicy

instance : Serialized TicketPolicy where
  toData c := .text c.code
  ofData? := Data.readCase? TicketPolicy.all TicketPolicy.code

instance : Serialized AlarmStatus where
  toData c := .text c.code
  ofData? := Data.readCase? AlarmStatus.all AlarmStatus.code

instance : Serialized TicketStatus where
  toData c := .text c.code
  ofData? := Data.readCase? TicketStatus.all TicketStatus.code

instance : Serialized AuditObject where
  toData c := .text c.code
  ofData? := Data.readCase? AuditObject.all AuditObject.code

instance : Serialized AuditOperation where
  toData c := .text c.code
  ofData? := Data.readCase? AuditOperation.all AuditOperation.code

instance : Serialized AlarmItem where
  toData item := .record [
    ("guid", toData item.guid),
    ("ruleGuid", toData item.ruleGuid),
    ("ruleName", toData item.ruleName)]
  ofData? data := do
    let m ← data.members? 3
    return {
      guid := ← m.required 0 "guid"
      ruleGuid := ← m.required 1 "ruleGuid"
      ruleName := ← m.required 2 "ruleName" }

instance : Serialized Alarm where
  toData alarm := .record [
    ("guid", toData alarm.guid),
    ("status", toData alarm.status),
    ("openDate", toData alarm.openDate),
    ("rawMovement", toData alarm.rawMovement),
    ("pluginType", toData alarm.pluginType),
    ("vesselGuid", toData alarm.vesselGuid),
    ("updatedBy", toData alarm.updatedBy),
    ("inactivatePosition", toData alarm.inactivatePosition),
    ("alarmItems", toData alarm.items)]
  ofData? data := do
    let m ← data.members? 9
    return {
      guid := ← m.required 0 "guid"
      status := ← m.required 1 "status"
      openDate := ← m.required 2 "openDate"
      rawMovement := ← m.nullable 3 "rawMovement"
      pluginType := ← m.nullable 4 "pluginType"
      vesselGuid := ← m.nullable 5 "vesselGuid"
      updatedBy := ← m.required 6 "updatedBy"
      inactivatePosition := ← m.required 7 "inactivatePosition"
      items := ← m.required 8 "alarmItems" }

instance : Serialized Ticket where
  toData ticket := .record [
    ("guid", toData ticket.guid),
    ("status", toData ticket.status),
    ("openDate", toData ticket.openDate),
    ("ruleName", toData ticket.ruleName),
    ("ruleGuid", toData ticket.ruleGuid),
    ("movementGuid", toData ticket.movementGuid),
    ("vesselGuid", toData ticket.vesselGuid),
    ("recipient", toData ticket.recipient),
    ("updatedBy", toData ticket.updatedBy)]
  ofData? data := do
    let m ← data.members? 9
    return {
      guid := ← m.required 0 "guid"
      status := ← m.required 1 "status"
      openDate := ← m.required 2 "openDate"
      ruleName := ← m.required 3 "ruleName"
      ruleGuid := ← m.required 4 "ruleGuid"
      movementGuid := ← m.nullable 5 "movementGuid"
      vesselGuid := ← m.nullable 6 "vesselGuid"
      recipient := ← m.nullable 7 "recipient"
      updatedBy := ← m.required 8 "updatedBy" }

instance : Serialized Endpoint where
  toData endpoint := .record [
    ("name", toData endpoint.name),
    ("uri", toData endpoint.uri)]
  ofData? data := do
    let m ← data.members? 2
    return {
      name := ← m.required 0 "name"
      uri := ← m.required 1 "uri" }

instance : Serialized Organisation where
  toData organisation := .record [
    ("name", toData organisation.name),
    ("endpoints", toData organisation.endpoints)]
  ofData? data := do
    let m ← data.members? 2
    return {
      name := ← m.required 0 "name"
      endpoints := ← m.defaulted 1 "endpoints" [] }

instance : Serialized RecipientInfo where
  toData recipient := .record [
    ("key", toData recipient.key),
    ("value", toData recipient.value)]
  ofData? data := do
    let m ← data.members? 2
    return {
      key := ← m.required 0 "key"
      value := ← m.required 1 "value" }

instance : Serialized EndpointReport where
  toData report := .record [
    ("ruleName", toData report.ruleName),
    ("endpoint", toData report.endpoint),
    ("date", toData report.date),
    ("movement", toData report.movement),
    ("recipients", toData report.recipients),
    ("vesselName", toData report.vesselName),
    ("vesselIrcs", toData report.vesselIrcs)]
  ofData? data := do
    let m ← data.members? 7
    return {
      ruleName := ← m.required 0 "ruleName"
      endpoint := ← m.required 1 "endpoint"
      date := ← m.required 2 "date"
      movement := ← m.nullable 3 "movement"
      recipients := ← m.required 4 "recipients"
      vesselName := ← m.nullable 5 "vesselName"
      vesselIrcs := ← m.nullable 6 "vesselIrcs" }

/-- The name of an event is a member of it. A change of a count has no other. -/
instance : Serialized NotificationEvent where
  toData
    | .ticketCreated guid => .record [("event", .text "ticketCreated"), ("guid", toData guid)]
    | .ticketCountChanged => .record [("event", .text "ticketCountChanged")]
    | .alarmCreated guid => .record [("event", .text "alarmCreated"), ("guid", toData guid)]
    | .alarmCountChanged => .record [("event", .text "alarmCountChanged")]
  ofData? data := do
    let m ← data.members? 2
    let event : String ← m.required 0 "event"
    if event = "ticketCreated" then return .ticketCreated (← m.required 1 "guid")
    else if event = "ticketCountChanged" then (data.members? 1).map fun _ => .ticketCountChanged
    else if event = "alarmCreated" then return .alarmCreated (← m.required 1 "guid")
    else if event = "alarmCountChanged" then (data.members? 1).map fun _ => .alarmCountChanged
    else none

end FisheryRules
