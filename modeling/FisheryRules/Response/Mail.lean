import FisheryRules.Fact.Movement

/-!
# Mails

The mail about a movement that triggered a custom rule. What is not known of the movement is
written as `null`.

## Main definitions

* `Mail.subject`, `Mail.body` — the two parts of a mail.
-/
namespace FisheryRules.Mail

def subject (ruleName : String) : String :=
  "Rule '" ++ ruleName ++ "' has been triggered."

/-- Starts a line of the body. -/
def lineStart : String := "<br>&nbsp;&nbsp;"

def line (label : String) (value : Value) : String := s!"{lineStart}{label}: {value.toText}"

/-- What is told of the vessel. -/
def assetLines (m : Movement) : List (String × Value) := [
  ("Name", .ofText m.vesselName),
  ("IRCS", .ofText m.vesselIrcs),
  ("CFR", .ofText m.vesselCfr)]

/-- What is told of the position. -/
def positionLines (m : Movement) : List (String × Value) := [
  ("Report timestamp", .ofTime m.positionTime),
  ("Longitude", .ofNumber m.longitude),
  ("Latitude", .ofNumber m.latitude),
  ("Status code", .ofText m.statusCode),
  ("Reported speed", .ofNumber m.reportedSpeed),
  ("Reported course", .ofNumber m.reportedCourse),
  ("Calculated speed", .ofNumber m.calculatedSpeed),
  ("Calculated course", .ofNumber m.calculatedCourse),
  ("Com channel type", .ofText m.comChannelType),
  ("Segment type", .ofText m.segmentType),
  ("Source", .ofText m.source),
  ("Movement type", .ofText m.movementType),
  ("Activity type", .ofText m.activityMessageType),
  ("Closest port", .ofText m.closestPortCode),
  ("Closest country", .ofText m.closestCountryCode)]

def lines (rows : List (String × Value)) : String :=
  String.join (rows.map fun (label, value) => line label value)

def areaLine (area : String × String) : String :=
  s!"<br>&nbsp;&nbsp;&nbsp;&nbsp;{area.1} ({area.2})"

/-- The body of a mail. -/
def body (ruleName : String) (m : Movement) : String :=
  String.join [
    "<html>", subject ruleName, "<br><br>",
    "<b>Asset:</b>", lines (assetLines m), "<br>",
    "<b>Position report:</b>", lines (positionLines m),
    lineStart, "Areas:", String.join (m.areas.map areaLine), "</html>"]

end FisheryRules.Mail
