import FisheryRules.Fact.Serialized
import FisheryRules.Rule.Definition

/-!
# Serialized rules

The serialized forms of rule definitions and of the documents that hold them.

## Main definitions

* `RuleDocument` — definitions of all categories.
-/
namespace FisheryRules

namespace CompareOp

def all : List CompareOp := [eq, ne, gt, ge, lt, le]

def code : CompareOp → String
  | eq => "EQ"
  | ne => "NE"
  | gt => "GT"
  | ge => "GE"
  | lt => "LT"
  | le => "LE"

end CompareOp

namespace Availability

def all : List Availability := [personal, shared, global]

def code : Availability → String
  | personal => "PRIVATE"
  | shared => "PUBLIC"
  | global => "GLOBAL"

end Availability

namespace LogicOperator

def all : List LogicOperator := [and, or, none]

def code : LogicOperator → String
  | and => "AND"
  | or => "OR"
  | none => "NONE"

end LogicOperator

namespace SubscriptionKind

def all : List SubscriptionKind := [ticket, email]

def code : SubscriptionKind → String
  | ticket => "TICKET"
  | email => "EMAIL"

end SubscriptionKind

instance : Serialized Criteria where
  toData c := .text c.code
  ofData? := Data.readCase? Criteria.all Criteria.code

instance : Serialized SubCriteria where
  toData c := .text c.code
  ofData? := Data.readCase? SubCriteria.all SubCriteria.code

instance : Serialized CompareOp where
  toData c := .text c.code
  ofData? := Data.readCase? CompareOp.all CompareOp.code

instance : Serialized Availability where
  toData c := .text c.code
  ofData? := Data.readCase? Availability.all Availability.code

instance : Serialized LogicOperator where
  toData c := .text c.code
  ofData? := Data.readCase? LogicOperator.all LogicOperator.code

instance : Serialized ActionKind where
  toData c := .text c.code
  ofData? := Data.readCase? ActionKind.all ActionKind.code

instance : Serialized SubscriptionKind where
  toData c := .text c.code
  ofData? := Data.readCase? SubscriptionKind.all SubscriptionKind.code

instance : Serialized Segment where
  toData segment := .record [
    ("startOperator", toData segment.startOperator),
    ("criteria", toData segment.criteria),
    ("subCriteria", toData segment.subCriteria),
    ("condition", toData segment.condition),
    ("value", toData segment.value),
    ("endOperator", toData segment.endOperator),
    ("logicOperator", toData segment.logicOperator),
    ("order", toData segment.order)]
  ofData? data := do
    let m ← data.members? 8
    return {
      startOperator := ← m.defaulted 0 "startOperator" ""
      criteria := ← m.required 1 "criteria"
      subCriteria := ← m.required 2 "subCriteria"
      condition := ← m.required 3 "condition"
      value := ← m.required 4 "value"
      endOperator := ← m.defaulted 5 "endOperator" ""
      logicOperator := ← m.defaulted 6 "logicOperator" .none
      order := ← m.defaulted 7 "order" 0 }

instance : Serialized RuleAction where
  toData action := .record [
    ("action", toData action.action),
    ("value", toData action.value),
    ("order", toData action.order)]
  ofData? data := do
    let m ← data.members? 3
    return {
      action := ← m.required 0 "action"
      value := ← m.optional 1 "value"
      order := ← m.defaulted 2 "order" 0 }

instance : Serialized TimeInterval where
  toData interval := .record [
    ("start", toData interval.start),
    ("end", toData interval.stop)]
  ofData? data := do
    let m ← data.members? 2
    return {
      start := ← m.optional 0 "start"
      stop := ← m.optional 1 "end" }

instance : Serialized Subscription where
  toData subscription := .record [
    ("owner", toData subscription.owner),
    ("kind", toData subscription.kind)]
  ofData? data := do
    let m ← data.members? 2
    return {
      owner := ← m.required 0 "owner"
      kind := ← m.required 1 "kind" }

instance : Serialized CustomRule where
  toData rule := .record [
    ("guid", toData rule.guid),
    ("name", toData rule.name),
    ("description", toData rule.description),
    ("availability", toData rule.availability),
    ("organisation", toData rule.organisation),
    ("active", toData rule.active),
    ("archived", toData rule.archived),
    ("aggregateInvocations", toData rule.aggregateInvocations),
    ("segments", toData rule.segments),
    ("actions", toData rule.actions),
    ("intervals", toData rule.intervals),
    ("subscriptions", toData rule.subscriptions),
    ("lastTriggered", toData rule.lastTriggered),
    ("updated", toData rule.updated),
    ("updatedBy", toData rule.updatedBy)]
  ofData? data := do
    let m ← data.members? 15
    return {
      guid := ← m.required 0 "guid"
      name := ← m.required 1 "name"
      description := ← m.optional 2 "description"
      availability := ← m.defaulted 3 "availability" .personal
      organisation := ← m.optional 4 "organisation"
      active := ← m.defaulted 5 "active" true
      archived := ← m.defaulted 6 "archived" false
      aggregateInvocations := ← m.defaulted 7 "aggregateInvocations" false
      segments := ← m.defaulted 8 "segments" []
      actions := ← m.defaulted 9 "actions" []
      intervals := ← m.defaulted 10 "intervals" []
      subscriptions := ← m.defaulted 11 "subscriptions" []
      lastTriggered := ← m.optional 12 "lastTriggered"
      updated := ← m.optional 13 "updated"
      updatedBy := ← m.optional 14 "updatedBy" }

instance : Serialized SanityRule where
  toData rule := .record [
    ("name", toData rule.name),
    ("expression", toData rule.expression),
    ("description", toData rule.description),
    ("updated", toData rule.updated),
    ("updatedBy", toData rule.updatedBy)]
  ofData? data := do
    let m ← data.members? 5
    return {
      name := ← m.required 0 "name"
      expression := ← m.required 1 "expression"
      description := ← m.optional 2 "description"
      updated := ← m.optional 3 "updated"
      updatedBy := ← m.optional 4 "updatedBy" }

instance : Serialized BusinessRule where
  toData rule := .record [
    ("brId", toData rule.brId),
    ("factType", toData rule.factType),
    ("expression", toData rule.expression),
    ("message", toData rule.message),
    ("errorType", toData rule.errorType),
    ("level", toData rule.level),
    ("propertyNames", toData rule.propertyNames),
    ("active", toData rule.active),
    ("updated", toData rule.updated),
    ("updatedBy", toData rule.updatedBy)]
  ofData? data := do
    let m ← data.members? 10
    return {
      brId := ← m.required 0 "brId"
      factType := ← m.required 1 "factType"
      expression := ← m.required 2 "expression"
      message := ← m.required 3 "message"
      errorType := ← m.required 4 "errorType"
      level := ← m.required 5 "level"
      propertyNames := ← m.optional 6 "propertyNames"
      active := ← m.defaulted 7 "active" true
      updated := ← m.optional 8 "updated"
      updatedBy := ← m.optional 9 "updatedBy" }

/-- Rule definitions of all categories. -/
structure RuleDocument where
  sanityRules : List SanityRule := []
  customRules : List CustomRule := []
  businessRules : List BusinessRule := []
deriving DecidableEq

/-- The definitions of two documents, those of the first one first. -/
def RuleDocument.append (a b : RuleDocument) : RuleDocument where
  sanityRules := a.sanityRules ++ b.sanityRules
  customRules := a.customRules ++ b.customRules
  businessRules := a.businessRules ++ b.businessRules

instance : Serialized RuleDocument where
  toData document := .record [
    ("sanity_rules", toData document.sanityRules),
    ("custom_rules", toData document.customRules),
    ("business_rules", toData document.businessRules)]
  ofData? data := do
    let m ← data.members? 3
    return {
      sanityRules := ← m.defaulted 0 "sanity_rules" []
      customRules := ← m.defaulted 1 "custom_rules" []
      businessRules := ← m.defaulted 2 "business_rules" [] }

end FisheryRules
