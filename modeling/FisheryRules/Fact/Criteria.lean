/-!
# Criteria of rule segments

The properties a custom rule can refer to are named by sub-criteria, which are grouped into
criteria.

## Main definitions

* `Criteria`, `SubCriteria` — the names.
* `SubCriteria.criteria` — the group of a property.
* `SubCriteria.code` — the name as written in definitions; `SubCriteria.title` — as shown in
  messages.
-/
namespace FisheryRules

/-- Group of the properties a custom rule can refer to. -/
inductive Criteria
  | activity
  | area
  | asset
  | assetGroup
  | mobileTerminal
  | position
deriving DecidableEq

/-- Property a condition segment refers to. -/
inductive SubCriteria
  | activityCallback
  | activityMessageId
  | activityMessageType
  | areaCode
  | areaType
  | areaCodeEnt
  | areaTypeEnt
  | areaCodeExt
  | areaTypeExt
  | assetIdGearType
  | externalMarking
  | flagState
  | assetCfr
  | assetIrcs
  | assetName
  | assetStatus
  | assetGroup
  | comchannelType
  | mtDnid
  | mtMemberId
  | mtSerialNo
  | altitude
  | latitude
  | longitude
  | calculatedCourse
  | calculatedSpeed
  | movementType
  | positionReportTime
  | reportedCourse
  | reportedSpeed
  | segmentType
  | source
  | statusCode
  | closestCountryCode
  | closestPortCode
deriving DecidableEq

namespace Criteria

def code : Criteria → String
  | activity => "ACTIVITY"
  | area => "AREA"
  | asset => "ASSET"
  | assetGroup => "ASSET_GROUP"
  | mobileTerminal => "MOBILE_TERMINAL"
  | position => "POSITION"

/-- The name as shown in messages. -/
def title : Criteria → String
  | activity => "Activity"
  | area => "Area"
  | asset => "Asset"
  | assetGroup => "AssetGroup"
  | mobileTerminal => "MobileTerminal"
  | position => "Position"

def all : List Criteria := [activity, area, asset, assetGroup, mobileTerminal, position]

end Criteria

namespace SubCriteria

/-- Group the property belongs to. -/
def criteria : SubCriteria → Criteria
  | activityCallback | activityMessageId | activityMessageType => .activity
  | areaCode | areaType | areaCodeEnt | areaTypeEnt | areaCodeExt | areaTypeExt => .area
  | assetIdGearType | externalMarking | flagState | assetCfr | assetIrcs | assetName
  | assetStatus => .asset
  | assetGroup => .assetGroup
  | comchannelType | mtDnid | mtMemberId | mtSerialNo => .mobileTerminal
  | _ => .position

def code : SubCriteria → String
  | activityCallback => "ACTIVITY_CALLBACK"
  | activityMessageId => "ACTIVITY_MESSAGE_ID"
  | activityMessageType => "ACTIVITY_MESSAGE_TYPE"
  | areaCode => "AREA_CODE"
  | areaType => "AREA_TYPE"
  | areaCodeEnt => "AREA_CODE_ENT"
  | areaTypeEnt => "AREA_TYPE_ENT"
  | areaCodeExt => "AREA_CODE_EXT"
  | areaTypeExt => "AREA_TYPE_EXT"
  | assetIdGearType => "ASSET_ID_GEAR_TYPE"
  | externalMarking => "EXTERNAL_MARKING"
  | flagState => "FLAG_STATE"
  | assetCfr => "ASSET_CFR"
  | assetIrcs => "ASSET_IRCS"
  | assetName => "ASSET_NAME"
  | assetStatus => "ASSET_STATUS"
  | assetGroup => "ASSET_GROUP"
  | comchannelType => "COMCHANNEL_TYPE"
  | mtDnid => "MT_DNID"
  | mtMemberId => "MT_MEMBER_ID"
  | mtSerialNo => "MT_SERIAL_NO"
  | altitude => "ALTITUDE"
  | latitude => "LATITUDE"
  | longitude => "LONGITUDE"
  | calculatedCourse => "CALCULATED_COURSE"
  | calculatedSpeed => "CALCULATED_SPEED"
  | movementType => "MOVEMENT_TYPE"
  | positionReportTime => "POSITION_REPORT_TIME"
  | reportedCourse => "REPORTED_COURSE"
  | reportedSpeed => "REPORTED_SPEED"
  | segmentType => "SEGMENT_TYPE"
  | source => "SOURCE"
  | statusCode => "STATUS_CODE"
  | closestCountryCode => "CLOSEST_COUNTRY_CODE"
  | closestPortCode => "CLOSEST_PORT_CODE"

/-- The name as shown in messages. -/
def title : SubCriteria → String
  | activityCallback => "ActivityCallback"
  | activityMessageId => "ActivityMessageId"
  | activityMessageType => "ActivityMessageType"
  | areaCode => "AreaCode"
  | areaType => "AreaType"
  | areaCodeEnt => "AreaCodeEnt"
  | areaTypeEnt => "AreaTypeEnt"
  | areaCodeExt => "AreaCodeExt"
  | areaTypeExt => "AreaTypeExt"
  | assetIdGearType => "AssetIdGearType"
  | externalMarking => "ExternalMarking"
  | flagState => "FlagState"
  | assetCfr => "AssetCfr"
  | assetIrcs => "AssetIrcs"
  | assetName => "AssetName"
  | assetStatus => "AssetStatus"
  | assetGroup => "AssetGroup"
  | comchannelType => "ComchannelType"
  | mtDnid => "MtDnid"
  | mtMemberId => "MtMemberId"
  | mtSerialNo => "MtSerialNo"
  | altitude => "Altitude"
  | latitude => "Latitude"
  | longitude => "Longitude"
  | calculatedCourse => "CalculatedCourse"
  | calculatedSpeed => "CalculatedSpeed"
  | movementType => "MovementType"
  | positionReportTime => "PositionReportTime"
  | reportedCourse => "ReportedCourse"
  | reportedSpeed => "ReportedSpeed"
  | segmentType => "SegmentType"
  | source => "Source"
  | statusCode => "StatusCode"
  | closestCountryCode => "ClosestCountryCode"
  | closestPortCode => "ClosestPortCode"

def all : List SubCriteria := [
  activityCallback, activityMessageId, activityMessageType, areaCode, areaType, areaCodeEnt,
  areaTypeEnt, areaCodeExt, areaTypeExt, assetIdGearType, externalMarking, flagState, assetCfr,
  assetIrcs, assetName, assetStatus, assetGroup, comchannelType, mtDnid, mtMemberId, mtSerialNo,
  altitude, latitude, longitude, calculatedCourse, calculatedSpeed, movementType,
  positionReportTime, reportedCourse, reportedSpeed, segmentType, source, statusCode,
  closestCountryCode, closestPortCode]

end SubCriteria

end FisheryRules
