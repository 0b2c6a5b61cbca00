import FisheryRules.Fact.Movement

/-!
# Incidents

What rule firings leave behind for people to handle: alarms for reports that fail a sanity rule,
and tickets for movements that trigger a custom rule and for vessels that fall silent.

## Main definitions

* `Alarm`, `Ticket` — the incidents.
* `Alarm.forSanityRule` — the alarm of a sanity rule.
-/
namespace FisheryRules

inductive AlarmStatus
  | opened
  | closed
  | pending
  | rejected
deriving DecidableEq

inductive TicketStatus
  | opened
  | closed
  | pending
  | pollPending
deriving DecidableEq

/-- Rule that an alarm was raised for. -/
structure AlarmItem where
  guid : String
  ruleGuid : String
  ruleName : String
deriving DecidableEq

/-- Alarm raised when a report fails a sanity rule. -/
structure Alarm where
  guid : String
  status : AlarmStatus
  openDate : Instant
  rawMovement : Option RawMovement
  pluginType : Option String
  vesselGuid : Option String
  updatedBy : String
  inactivatePosition : Bool
  items : List AlarmItem
deriving DecidableEq

/-- Ticket raised when a movement triggers a custom rule or a vessel falls silent. -/
structure Ticket where
  guid : String
  status : TicketStatus
  openDate : Instant
  ruleName : String
  ruleGuid : String
  movementGuid : Option String
  vesselGuid : Option String
  /-- The economic zone that the triggering movement lies in. -/
  recipient : Option String
  updatedBy : String
deriving DecidableEq

/-- Opens the alarm of one firing of a sanity rule, with the terminal and the vessel of the
report. -/
def Alarm.forSanityRule (guid itemGuid : String) (openDate : Instant) (ruleName : String)
    (report : Option RawMovement) (updatedBy : String) : Alarm where
  guid := guid
  status := .opened
  openDate := openDate
  rawMovement := report
  pluginType := report.bind (·.pluginType)
  vesselGuid := report.bind (·.assetGuid)
  updatedBy := updatedBy
  inactivatePosition := false
  items := [⟨itemGuid, "sanity rule - " ++ ruleName, ruleName⟩]

end FisheryRules
