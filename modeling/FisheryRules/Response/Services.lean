import FisheryRules.Registry.IncidentStore
import FisheryRules.Registry.RuleStore
import FisheryRules.Response.Contact

/-!
# Services

The services that carry out what rule firings ask for: the rule store, the incident store, the
directory, the gateways and the audit log. Every call can fail. A journal keeps the calls, whether
each succeeded, and the events that were announced between them.

## Main definitions

* `Call`, `CallError` — the calls, and why they fail.
* `Services` — the services; `Services.faults` says which calls fail.
* `Task`, `perform` — work that makes calls.
-/
namespace FisheryRules

/-- Why a gateway or the directory failed. -/
inductive GatewayError
  | unavailable (reason : String)
  | rejected (reason : String)
deriving DecidableEq

def GatewayError.message : GatewayError → String
  | unavailable reason => s!"gateway unavailable: {reason}"
  | rejected reason => s!"request rejected: {reason}"

/-- Why a call failed. -/
inductive CallError
  | store (error : StoreError)
  | gateway (error : GatewayError)
deriving DecidableEq

def CallError.message : CallError → String
  | store error => error.message
  | gateway error => error.message

/-- Call of a service. -/
inductive Call
  | markTriggered (guid : String) (t : Instant)
  | findRule (guid : String)
  | createTicket (ticket : Ticket)
  | createAlarm (alarm : Alarm)
  | findOpenTicket (vessel : String)
  | findContact (owner : String)
  | findOrganisations (name : String)
  | sendMail (address subject body : String)
  | sendReport (endpoint : String) (report : EndpointReport)
  | audit (object : AuditObject) (operation : AuditOperation) (subject actor : String)
deriving DecidableEq

/-- Entry of the journal. -/
inductive JournalEntry
  | call (call : Call) (succeeded : Bool)
  | event (event : NotificationEvent)
deriving DecidableEq

namespace JournalEntry

/-- The call of an entry, if it succeeded. -/
def done? : JournalEntry → Option Call
  | .call done true => some done
  | _ => none

/-- The event of an entry. -/
def event? : JournalEntry → Option NotificationEvent
  | .event news => some news
  | _ => none

end JournalEntry

/-- The services, and what has happened to them. -/
structure Services where
  rules : RuleStore := {}
  incidents : IncidentStore := {}
  /-- Mail addresses by user. -/
  contacts : List (String × String) := []
  /-- Organisations by the name they are looked up with. -/
  organisations : List (String × List Organisation) := []
  /-- Whether an address is a valid one. A library of addresses decides this, of which nothing is
  assumed. -/
  isUri : (address : String) → Bool := fun address => Endpoint.looksAbsolute address.toList
  /-- Why a call fails that is made when the journal has so many entries. -/
  faults : (journaled : Nat) → Call → Option CallError := fun _ _ => none
  ids : IdSupply
  now : Instant
  journal : List JournalEntry := []

/-- Why an action failed. -/
inductive DispatchError
  | call (error : CallError)
  | missingValue (action : ActionKind)
  | notAMovement (fact : Uuid)
deriving DecidableEq

def DispatchError.message : DispatchError → String
  | call error => error.message
  | missingValue action => s!"action {action.code} requires a value"
  | notAMovement fact => s!"fact {fact.toText} is not a movement"

/-- Work that makes calls, and stops at the first that it cannot do without. -/
abbrev Task (α : Type) := ExceptT DispatchError (StateM Services) α

/-- Adds an entry to the journal. -/
def Services.note (services : Services) (entry : JournalEntry) : Services :=
  { services with journal := services.journal ++ [entry] }

/-- Makes a call. Unless the call is bound to fail, `effect` tells what it does; a call that fails
changes nothing. -/
def perform {α : Type} (call : Call)
    (effect : Services → Except CallError (α × Services)) : Task α := fun services =>
  let result : Except CallError (α × Services) :=
    match services.faults services.journal.length call with
    | some error => .error error
    | none => effect services
  match result with
  | .ok (value, services) => (.ok value, services.note (.call call true))
  | .error error => (.error (.call error), services.note (.call call false))

/-- Does some work and goes on when it fails. -/
def regardless {α : Type} (task : Task α) : StateM Services Unit := do
  let _ ← task.run
  return ()

/-- Announces an event. -/
def announce (event : NotificationEvent) : StateM Services Unit := modify (·.note (.event event))

/-- Draws a new identifier. -/
def drawGuid : StateM Services String := fun services =>
  let (id, ids) := services.ids.draw
  (id.toText, { services with ids })

end FisheryRules
