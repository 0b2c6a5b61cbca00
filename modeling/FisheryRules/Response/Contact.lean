import FisheryRules.Fact.Movement

/-!
# Contacts

Whom the module tells about a firing: organisations with their endpoints, the reports sent to
them, the entries of the audit log, and the events that observers see.

## Main definitions

* `Organisation`, `Endpoint`, `EndpointReport` — forwarding of movements.
* `RecipientInfo.ofOrganisations` — the endpoints that get a report.
* `AuditObject`, `AuditOperation` — what an audit entry is about.
* `NotificationEvent` — news about tickets and alarms.
-/
namespace FisheryRules

/-- Address of an organisation that reports are sent to. -/
structure Endpoint where
  name : String
  uri : String
deriving DecidableEq

structure Organisation where
  name : String
  endpoints : List Endpoint := []
deriving DecidableEq

namespace Endpoint

/-- Schemes whose addresses name a host. -/
def hostSchemes : List String := ["http", "https", "ws", "wss", "ftp"]

def isLetter (c : Char) : Bool := c.isAlpha

/-- Whether a character may follow the first letter of a scheme. -/
def isSchemeChar (c : Char) : Bool :=
  c.isAlphanum || c == '+' || c == '-' || c == '.'

/-- Whether a text looks like an absolute address: a scheme, a colon and, where the scheme asks for
one, a host. This is a rough test for runs that are given no better one. -/
def looksAbsolute (uri : List Char) : Bool :=
  let scheme := uri.takeWhile (· != ':')
  let rest := (uri.drop scheme.length).drop 1
  uri.contains ':' && scheme.head?.any isLetter && scheme.all isSchemeChar &&
    (!hostSchemes.contains (String.ofList (Text.asciiLower scheme)) ||
      (rest.dropWhile (· == '/')).head?.any fun c => c != '?' && c != '#' && c != ':')

end Endpoint

/-- Recipient of a forwarded movement. -/
structure RecipientInfo where
  key : String
  value : String
deriving DecidableEq

/-- The endpoints of some organisations as recipients, without those whose address is not a valid
one. -/
def RecipientInfo.ofOrganisations (isUri : (address : String) → Bool)
    (organisations : List Organisation) : List RecipientInfo :=
  ((organisations.flatMap (·.endpoints)).filter (isUri ·.uri)).map
    fun endpoint => ⟨endpoint.name, endpoint.uri⟩

/-- Movement forwarded to the endpoints of an organisation. -/
structure EndpointReport where
  ruleName : String
  endpoint : String
  date : Instant
  movement : Option Movement
  recipients : List RecipientInfo
  vesselName : Option String
  vesselIrcs : Option String
deriving DecidableEq

inductive AuditObject
  | ticket
  | alarm
  | customRuleAction
deriving DecidableEq

inductive AuditOperation
  | create
  | sendEmail
  | sendToEndpoint
deriving DecidableEq

/-- News about tickets and alarms. -/
inductive NotificationEvent
  | ticketCreated (guid : String)
  | ticketCountChanged
  | alarmCreated (guid : String)
  | alarmCountChanged
deriving DecidableEq

end FisheryRules
