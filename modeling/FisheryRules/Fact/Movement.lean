import FisheryRules.Fact.Field

/-!
# Movements

Position reports of vessels: as received, and enriched with what is known of the vessel, its
terminal and the areas around it.

## Main definitions

* `RawMovement` — a report as received. Sanity rules run on it.
* `Movement` — an enriched report. Custom rules run on it.
* `PreviousReport` — the latest report of a vessel, which shows whether it fell silent.
-/
namespace FisheryRules

/-- Position report as received from a terminal, before enrichment. -/
structure RawMovement where
  guid : Option String := none
  pluginType : Option String := none
  assetGuid : Option String := none
  mobileTerminalConnectId : Option String := none
  ircs : Option String := none
  cfr : Option String := none
  mmsi : Option String := none
  flagState : Option String := none
  latitude : Option Binary64 := none
  longitude : Option Binary64 := none
  altitude : Option Binary64 := none
  positionTime : Option Instant := none
  dateReceived : Option Instant := none
  statusCode : Option String := none
  reportedSpeed : Option Binary64 := none
  reportedCourse : Option Binary64 := none
  comChannelType : Option String := none
  movementType : Option String := none
  source : Option String := none
  mobileTerminalDnid : Option String := none
  mobileTerminalMemberId : Option String := none
  mobileTerminalSerialNumber : Option String := none
deriving DecidableEq, Inhabited

/-- The properties of a report as received. -/
def RawMovement.fields : List (Field RawMovement) := [
  ⟨"guid", none, .text, fun f => .ofText f.guid⟩,
  ⟨"pluginType", none, .text, fun f => .ofText f.pluginType⟩,
  ⟨"assetGuid", none, .text, fun f => .ofText f.assetGuid⟩,
  ⟨"mobileTerminalConnectId", none, .text, fun f => .ofText f.mobileTerminalConnectId⟩,
  ⟨"ircs", (some .assetIrcs), .text, fun f => .ofText f.ircs⟩,
  ⟨"cfr", (some .assetCfr), .text, fun f => .ofText f.cfr⟩,
  ⟨"mmsi", none, .text, fun f => .ofText f.mmsi⟩,
  ⟨"flagState", (some .flagState), .text, fun f => .ofText f.flagState⟩,
  ⟨"latitude", (some .latitude), .number, fun f => .ofNumber f.latitude⟩,
  ⟨"longitude", (some .longitude), .number, fun f => .ofNumber f.longitude⟩,
  ⟨"altitude", (some .altitude), .number, fun f => .ofNumber f.altitude⟩,
  ⟨"positionTime", (some .positionReportTime), .time, fun f => .ofTime f.positionTime⟩,
  ⟨"dateReceived", none, .time, fun f => .ofTime f.dateReceived⟩,
  ⟨"statusCode", (some .statusCode), .text, fun f => .ofText f.statusCode⟩,
  ⟨"reportedSpeed", (some .reportedSpeed), .number, fun f => .ofNumber f.reportedSpeed⟩,
  ⟨"reportedCourse", (some .reportedCourse), .number, fun f => .ofNumber f.reportedCourse⟩,
  ⟨"comChannelType", (some .comchannelType), .text, fun f => .ofText f.comChannelType⟩,
  ⟨"movementType", (some .movementType), .text, fun f => .ofText f.movementType⟩,
  ⟨"source", (some .source), .text, fun f => .ofText f.source⟩,
  ⟨"mobileTerminalDnid", (some .mtDnid), .text, fun f => .ofText f.mobileTerminalDnid⟩,
  ⟨"mobileTerminalMemberId", (some .mtMemberId), .text, fun f => .ofText f.mobileTerminalMemberId⟩,
  ⟨"mobileTerminalSerialNumber", (some .mtSerialNo), .text,
    fun f => .ofText f.mobileTerminalSerialNumber⟩]

/-- Position report with vessel, terminal and area data resolved. The codes and the types of the
areas are parallel lists. -/
structure Movement where
  movementGuid : Option String := none
  vesselGuid : Option String := none
  vesselName : Option String := none
  vesselIrcs : Option String := none
  vesselCfr : Option String := none
  externalMarking : Option String := none
  flagState : Option String := none
  gearType : Option String := none
  assetStatus : Option String := none
  assetGroups : List String := []
  comChannelType : Option String := none
  mobileTerminalDnid : Option String := none
  mobileTerminalMemberId : Option String := none
  mobileTerminalSerialNumber : Option String := none
  altitude : Option Binary64 := none
  latitude : Option Binary64 := none
  longitude : Option Binary64 := none
  positionTime : Option Instant := none
  statusCode : Option String := none
  reportedSpeed : Option Binary64 := none
  reportedCourse : Option Binary64 := none
  calculatedSpeed : Option Binary64 := none
  calculatedCourse : Option Binary64 := none
  segmentType : Option String := none
  source : Option String := none
  movementType : Option String := none
  activityMessageType : Option String := none
  activityMessageId : Option String := none
  activityCallback : Option String := none
  closestPortCode : Option String := none
  closestCountryCode : Option String := none
  areaCodes : List String := []
  areaTypes : List String := []
  enteredAreaCodes : List String := []
  enteredAreaTypes : List String := []
  exitedAreaCodes : List String := []
  exitedAreaTypes : List String := []
deriving DecidableEq, Inhabited

/-- The properties of an enriched report. -/
def Movement.fields : List (Field Movement) := [
  ⟨"movementGuid", none, .text, fun f => .ofText f.movementGuid⟩,
  ⟨"vesselGuid", none, .text, fun f => .ofText f.vesselGuid⟩,
  ⟨"vesselName", (some .assetName), .text, fun f => .ofText f.vesselName⟩,
  ⟨"vesselIrcs", (some .assetIrcs), .text, fun f => .ofText f.vesselIrcs⟩,
  ⟨"vesselCfr", (some .assetCfr), .text, fun f => .ofText f.vesselCfr⟩,
  ⟨"externalMarking", (some .externalMarking), .text, fun f => .ofText f.externalMarking⟩,
  ⟨"flagState", (some .flagState), .text, fun f => .ofText f.flagState⟩,
  ⟨"gearType", (some .assetIdGearType), .text, fun f => .ofText f.gearType⟩,
  ⟨"assetStatus", (some .assetStatus), .text, fun f => .ofText f.assetStatus⟩,
  ⟨"assetGroup", (some .assetGroup), .textList, fun f => .ofTexts f.assetGroups⟩,
  ⟨"comChannelType", (some .comchannelType), .text, fun f => .ofText f.comChannelType⟩,
  ⟨"mobileTerminalDnid", (some .mtDnid), .text, fun f => .ofText f.mobileTerminalDnid⟩,
  ⟨"mobileTerminalMemberId", (some .mtMemberId), .text, fun f => .ofText f.mobileTerminalMemberId⟩,
  ⟨"mobileTerminalSerialNumber", (some .mtSerialNo), .text,
    fun f => .ofText f.mobileTerminalSerialNumber⟩,
  ⟨"altitude", (some .altitude), .number, fun f => .ofNumber f.altitude⟩,
  ⟨"latitude", (some .latitude), .number, fun f => .ofNumber f.latitude⟩,
  ⟨"longitude", (some .longitude), .number, fun f => .ofNumber f.longitude⟩,
  ⟨"positionTime", (some .positionReportTime), .time, fun f => .ofTime f.positionTime⟩,
  ⟨"statusCode", (some .statusCode), .text, fun f => .ofText f.statusCode⟩,
  ⟨"reportedSpeed", (some .reportedSpeed), .number, fun f => .ofNumber f.reportedSpeed⟩,
  ⟨"reportedCourse", (some .reportedCourse), .number, fun f => .ofNumber f.reportedCourse⟩,
  ⟨"calculatedSpeed", (some .calculatedSpeed), .number, fun f => .ofNumber f.calculatedSpeed⟩,
  ⟨"calculatedCourse", (some .calculatedCourse), .number, fun f => .ofNumber f.calculatedCourse⟩,
  ⟨"segmentType", (some .segmentType), .text, fun f => .ofText f.segmentType⟩,
  ⟨"source", (some .source), .text, fun f => .ofText f.source⟩,
  ⟨"movementType", (some .movementType), .text, fun f => .ofText f.movementType⟩,
  ⟨"activityMessageType", (some .activityMessageType), .text,
    fun f => .ofText f.activityMessageType⟩,
  ⟨"activityMessageId", (some .activityMessageId), .text, fun f => .ofText f.activityMessageId⟩,
  ⟨"activityCallback", (some .activityCallback), .text, fun f => .ofText f.activityCallback⟩,
  ⟨"closestPortCode", (some .closestPortCode), .text, fun f => .ofText f.closestPortCode⟩,
  ⟨"closestCountryCode", (some .closestCountryCode), .text, fun f => .ofText f.closestCountryCode⟩,
  ⟨"areaCode", (some .areaCode), .textList, fun f => .ofTexts f.areaCodes⟩,
  ⟨"areaType", (some .areaType), .textList, fun f => .ofTexts f.areaTypes⟩,
  ⟨"enteredAreaCode", (some .areaCodeEnt), .textList, fun f => .ofTexts f.enteredAreaCodes⟩,
  ⟨"enteredAreaType", (some .areaTypeEnt), .textList, fun f => .ofTexts f.enteredAreaTypes⟩,
  ⟨"exitedAreaCode", (some .areaCodeExt), .textList, fun f => .ofTexts f.exitedAreaCodes⟩,
  ⟨"exitedAreaType", (some .areaTypeExt), .textList, fun f => .ofTexts f.exitedAreaTypes⟩]

namespace Movement

/-- The codes and types of the areas that the position lies in. -/
def areas (m : Movement) : List (String × String) := m.areaCodes.zip m.areaTypes

/-- The code of the exclusive economic zone that the position lies in, the last one if several
are reported. -/
def eezCode (m : Movement) : Option String :=
  ((m.areas.filter (·.2 == "EEZ")).map (·.1)).getLast?

end Movement

/-- Latest position report received from a vessel. -/
structure PreviousReport where
  vesselGuid : String
  movementGuid : Option String := none
  positionTime : Instant
deriving DecidableEq

/-- Whether no report arrived for at least `threshold` nanoseconds before `now`. A report from
the future is not silent. -/
def PreviousReport.isSilent (report : PreviousReport) (now : Instant) (threshold : Nat) : Bool :=
  let elapsed := now.nanosSince report.positionTime
  0 ≤ elapsed && (threshold : Int) ≤ elapsed

end FisheryRules
