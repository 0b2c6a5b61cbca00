import FisheryRules.Registry.Table
import FisheryRules.Response.Incident

/-!
# Incident stores

The tickets and alarms that have been raised, each under its guid.

## Main definitions

* `IncidentStore` — the type.
* `IncidentStore.openTicket?` — the open ticket of a vessel.
* `IncidentStore.ticketsByDate`, `IncidentStore.alarmsByDate` — the listings.
-/
namespace FisheryRules

/-- Store of tickets and alarms. -/
structure IncidentStore where
  tickets : Table Ticket Ticket.guid := .empty
  alarms : Table Alarm Alarm.guid := .empty

namespace IncidentStore

def addTicket (store : IncidentStore) (ticket : Ticket) : IncidentStore :=
  { store with tickets := store.tickets.put ticket }

def addAlarm (store : IncidentStore) (alarm : Alarm) : IncidentStore :=
  { store with alarms := store.alarms.put alarm }

/-- An open ticket of a vessel. -/
def openTicket? (store : IncidentStore) (vessel : String) : Option Ticket :=
  store.tickets.rows.find? fun ticket =>
    ticket.status == .opened && ticket.vesselGuid == some vessel

/-- The tickets by opening date, those of one date by guid. -/
def ticketsByDate (store : IncidentStore) : List Ticket :=
  store.tickets.rows.mergeSort fun a b => a.openDate.atMost b.openDate

/-- The alarms by opening date, those of one date by guid. -/
def alarmsByDate (store : IncidentStore) : List Alarm :=
  store.alarms.rows.mergeSort fun a b => a.openDate.atMost b.openDate

/-- Gives the tickets of a vessel a status; also tells how many there are. -/
def setStatus (store : IncidentStore) (vessel : String) (status : TicketStatus) :
    Nat × IncidentStore :=
  let found := store.tickets.rows.filter (·.vesselGuid == some vessel)
  (found.length, found.foldl (fun store ticket => store.addTicket { ticket with status }) store)

end IncidentStore

end FisheryRules
