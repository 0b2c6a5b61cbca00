import FisheryRules.Data.Serialized
import FisheryRules.Fact.Basic

/-!
# Serialized facts

The serialized forms of facts, their contents and their outcomes.
-/
namespace FisheryRules

def Severity.all : List Severity := [.error, .warning]

instance : Serialized Severity where
  toData c := .text c.code
  ofData? := Data.readCase? Severity.all Severity.code

instance : Serialized FactType where
  toData c := .text c.code
  ofData? := Data.readCase? FactType.all FactType.code

instance : Serialized Amount where
  toData amount := .record [
    ("value", toData amount.value),
    ("currency", toData amount.currency)]
  ofData? data := do
    let m ← data.members? 2
    return {
      value := ← m.required 0 "value"
      currency := ← m.optional 1 "currency" }

instance : Serialized SalesPrice where
  toData sale := .record [
    ("chargeAmounts", toData sale.chargeAmounts)]
  ofData? data := do
    let m ← data.members? 1
    return {
      chargeAmounts := ← m.defaulted 0 "chargeAmounts" [] }

instance : Serialized FishingActivity where
  toData activity := .record [
    ("activityType", toData activity.activityType),
    ("occurrence", toData activity.occurrence),
    ("vesselCfr", toData activity.vesselCfr),
    ("flagState", toData activity.flagState),
    ("faoArea", toData activity.faoArea),
    ("species", toData activity.species),
    ("catchWeight", toData activity.catchWeight),
    ("operationCount", toData activity.operationCount)]
  ofData? data := do
    let m ← data.members? 8
    return {
      activityType := ← m.optional 0 "activityType"
      occurrence := ← m.optional 1 "occurrence"
      vesselCfr := ← m.optional 2 "vesselCfr"
      flagState := ← m.optional 3 "flagState"
      faoArea := ← m.optional 4 "faoArea"
      species := ← m.defaulted 5 "species" []
      catchWeight := ← m.optional 6 "catchWeight"
      operationCount := ← m.optional 7 "operationCount" }

instance : Serialized RawMovement where
  toData report := .record [
    ("guid", toData report.guid),
    ("pluginType", toData report.pluginType),
    ("assetGuid", toData report.assetGuid),
    ("mobileTerminalConnectId", toData report.mobileTerminalConnectId),
    ("ircs", toData report.ircs),
    ("cfr", toData report.cfr),
    ("mmsi", toData report.mmsi),
    ("flagState", toData report.flagState),
    ("latitude", toData report.latitude),
    ("longitude", toData report.longitude),
    ("altitude", toData report.altitude),
    ("positionTime", toData report.positionTime),
    ("dateReceived", toData report.dateReceived),
    ("statusCode", toData report.statusCode),
    ("reportedSpeed", toData report.reportedSpeed),
    ("reportedCourse", toData report.reportedCourse),
    ("comChannelType", toData report.comChannelType),
    ("movementType", toData report.movementType),
    ("source", toData report.source),
    ("mobileTerminalDnid", toData report.mobileTerminalDnid),
    ("mobileTerminalMemberId", toData report.mobileTerminalMemberId),
    ("mobileTerminalSerialNumber", toData report.mobileTerminalSerialNumber)]
  ofData? data := do
    let m ← data.members? 22
    return {
      guid := ← m.optional 0 "guid"
      pluginType := ← m.optional 1 "pluginType"
      assetGuid := ← m.optional 2 "assetGuid"
      mobileTerminalConnectId := ← m.optional 3 "mobileTerminalConnectId"
      ircs := ← m.optional 4 "ircs"
      cfr := ← m.optional 5 "cfr"
      mmsi := ← m.optional 6 "mmsi"
      flagState := ← m.optional 7 "flagState"
      latitude := ← m.optional 8 "latitude"
      longitude := ← m.optional 9 "longitude"
      altitude := ← m.optional 10 "altitude"
      positionTime := ← m.optional 11 "positionTime"
      dateReceived := ← m.optional 12 "dateReceived"
      statusCode := ← m.optional 13 "statusCode"
      reportedSpeed := ← m.optional 14 "reportedSpeed"
      reportedCourse := ← m.optional 15 "reportedCourse"
      comChannelType := ← m.optional 16 "comChannelType"
      movementType := ← m.optional 17 "movementType"
      source := ← m.optional 18 "source"
      mobileTerminalDnid := ← m.optional 19 "mobileTerminalDnid"
      mobileTerminalMemberId := ← m.optional 20 "mobileTerminalMemberId"
      mobileTerminalSerialNumber := ← m.optional 21 "mobileTerminalSerialNumber" }

instance : Serialized Movement where
  toData report := .record [
    ("movementGuid", toData report.movementGuid),
    ("vesselGuid", toData report.vesselGuid),
    ("vesselName", toData report.vesselName),
    ("vesselIrcs", toData report.vesselIrcs),
    ("vesselCfr", toData report.vesselCfr),
    ("externalMarking", toData report.externalMarking),
    ("flagState", toData report.flagState),
    ("gearType", toData report.gearType),
    ("assetStatus", toData report.assetStatus),
    ("assetGroups", toData report.assetGroups),
    ("comChannelType", toData report.comChannelType),
    ("mobileTerminalDnid", toData report.mobileTerminalDnid),
    ("mobileTerminalMemberId", toData report.mobileTerminalMemberId),
    ("mobileTerminalSerialNumber", toData report.mobileTerminalSerialNumber),
    ("altitude", toData report.altitude),
    ("latitude", toData report.latitude),
    ("longitude", toData report.longitude),
    ("positionTime", toData report.positionTime),
    ("statusCode", toData report.statusCode),
    ("reportedSpeed", toData report.reportedSpeed),
    ("reportedCourse", toData report.reportedCourse),
    ("calculatedSpeed", toData report.calculatedSpeed),
    ("calculatedCourse", toData report.calculatedCourse),
    ("segmentType", toData report.segmentType),
    ("source", toData report.source),
    ("movementType", toData report.movementType),
    ("activityMessageType", toData report.activityMessageType),
    ("activityMessageId", toData report.activityMessageId),
    ("activityCallback", toData report.activityCallback),
    ("closestPortCode", toData report.closestPortCode),
    ("closestCountryCode", toData report.closestCountryCode),
    ("areaCodes", toData report.areaCodes),
    ("areaTypes", toData report.areaTypes),
    ("enteredAreaCodes", toData report.enteredAreaCodes),
    ("enteredAreaTypes", toData report.enteredAreaTypes),
    ("exitedAreaCodes", toData report.exitedAreaCodes),
    ("exitedAreaTypes", toData report.exitedAreaTypes)]
  ofData? data := do
    let m ← data.members? 37
    return {
      movementGuid := ← m.optional 0 "movementGuid"
      vesselGuid := ← m.optional 1 "vesselGuid"
      vesselName := ← m.optional 2 "vesselName"
      vesselIrcs := ← m.optional 3 "vesselIrcs"
      vesselCfr := ← m.optional 4 "vesselCfr"
      externalMarking := ← m.optional 5 "externalMarking"
      flagState := ← m.optional 6 "flagState"
      gearType := ← m.optional 7 "gearType"
      assetStatus := ← m.optional 8 "assetStatus"
      assetGroups := ← m.defaulted 9 "assetGroups" []
      comChannelType := ← m.optional 10 "comChannelType"
      mobileTerminalDnid := ← m.optional 11 "mobileTerminalDnid"
      mobileTerminalMemberId := ← m.optional 12 "mobileTerminalMemberId"
      mobileTerminalSerialNumber := ← m.optional 13 "mobileTerminalSerialNumber"
      altitude := ← m.optional 14 "altitude"
      latitude := ← m.optional 15 "latitude"
      longitude := ← m.optional 16 "longitude"
      positionTime := ← m.optional 17 "positionTime"
      statusCode := ← m.optional 18 "statusCode"
      reportedSpeed := ← m.optional 19 "reportedSpeed"
      reportedCourse := ← m.optional 20 "reportedCourse"
      calculatedSpeed := ← m.optional 21 "calculatedSpeed"
      calculatedCourse := ← m.optional 22 "calculatedCourse"
      segmentType := ← m.optional 23 "segmentType"
      source := ← m.optional 24 "source"
      movementType := ← m.optional 25 "movementType"
      activityMessageType := ← m.optional 26 "activityMessageType"
      activityMessageId := ← m.optional 27 "activityMessageId"
      activityCallback := ← m.optional 28 "activityCallback"
      closestPortCode := ← m.optional 29 "closestPortCode"
      closestCountryCode := ← m.optional 30 "closestCountryCode"
      areaCodes := ← m.defaulted 31 "areaCodes" []
      areaTypes := ← m.defaulted 32 "areaTypes" []
      enteredAreaCodes := ← m.defaulted 33 "enteredAreaCodes" []
      enteredAreaTypes := ← m.defaulted 34 "enteredAreaTypes" []
      exitedAreaCodes := ← m.defaulted 35 "exitedAreaCodes" []
      exitedAreaTypes := ← m.defaulted 36 "exitedAreaTypes" [] }

instance : Serialized PreviousReport where
  toData report := .record [
    ("vesselGuid", toData report.vesselGuid),
    ("movementGuid", toData report.movementGuid),
    ("positionTime", toData report.positionTime)]
  ofData? data := do
    let m ← data.members? 3
    return {
      vesselGuid := ← m.required 0 "vesselGuid"
      movementGuid := ← m.optional 1 "movementGuid"
      positionTime := ← m.required 2 "positionTime" }

/-- The contents of a fact are written beside the name of their type. -/
instance : Serialized Payload where
  toData payload :=
    let contents :=
      match payload with
      | .rawMovement fact => toData fact
      | .movement fact => toData fact
      | .salesPrice fact => toData fact
      | .fishingActivity fact => toData fact
    .record [("type", toData payload.factType), ("payload", contents)]
  ofData? data := do
    let m ← data.members? 2
    let type : FactType ← m.namedCase 0 "type"
    match type with
    | .rawMovement => (m.required 1 "payload").map .rawMovement
    | .movement => (m.required 1 "payload").map .movement
    | .salesPrice => (m.required 1 "payload").map .salesPrice
    | .fishingActivity => (m.required 1 "payload").map .fishingActivity

instance : Serialized Outcome where
  toData outcome := .record [
    ("severity", toData outcome.severity),
    ("message", toData outcome.message),
    ("ruleId", toData outcome.ruleId),
    ("level", toData outcome.level),
    ("fieldPath", toData outcome.fieldPath)]
  ofData? data := do
    let m ← data.members? 5
    return {
      severity := ← m.required 0 "severity"
      message := ← m.required 1 "message"
      ruleId := ← m.required 2 "ruleId"
      level := ← m.required 3 "level"
      fieldPath := ← m.defaulted 4 "fieldPath" "" }

instance : Serialized SourceRef where
  toData source := .record [
    ("sequence", toData source.sequence),
    ("path", toData source.path)]
  ofData? data := do
    let m ← data.members? 2
    return {
      sequence := ← m.required 0 "sequence"
      path := ← m.required 1 "path" }

/-- A fact without a source has no such member. -/
instance : Serialized Fact where
  toData fact := .record (
    [("id", toData fact.id),
     ("kind", toData fact.payload),
     ("outcomes", toData fact.outcomes),
     ("ok", toData fact.ok),
     ("unique_ids", toData fact.uniqueIds)] ++
    match fact.source with
    | some source => [("source", toData source)]
    | none => [])
  ofData? data := do
    let m ← data.members? 6
    return {
      id := ← m.required 0 "id"
      payload := ← m.required 1 "kind"
      outcomes := ← m.defaulted 2 "outcomes" []
      ok := ← m.defaulted 3 "ok" true
      uniqueIds := ← m.defaulted 4 "unique_ids" .empty
      source := ← m.optional 5 "source" }

end FisheryRules
