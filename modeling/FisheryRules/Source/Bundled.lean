/-!
# Bundled grammars

The grammars that rules are rendered with unless others are given: one for sanity rules, one for
custom rules, and one for the business rules of each type of fact.
-/
namespace FisheryRules.Bundled

/-- The text with the given lines. -/
def textOf (lines : List String) : String := String.join (lines.map (· ++ "\n"))

/-- The grammar of sanity rules; a row holds name and expression. -/
def sanityText : String := textOf [
  "template header",
  "name",
  "expression",
  "",
  "# Validity checks applied to raw movement reports.",
  "package fishwatch.sanity",
  "",
  "template \"SanityRules\"",
  "rule \"@\x7bname\x7d\"",
  "    on RawMovement",
  "    when @\x7bexpression\x7d",
  "    then",
  "        alarm",
  "end",
  "",
  "end template"]

/-- The grammar of custom rules; a row holds name, expression, actions and guid. -/
def customText : String := textOf [
  "template header",
  "name",
  "expression",
  "action",
  "guid",
  "",
  "# User defined rules evaluated against enriched movements.",
  "package fishwatch.custom",
  "",
  "template \"CustomRules\"",
  "rule \"@\x7bname\x7d\"",
  "    on Movement",
  "    when @\x7bexpression\x7d",
  "    then",
  "        ruleGuid \"@\x7bguid\x7d\"",
  "        actions \"@\x7baction\x7d\"",
  "end",
  "",
  "end template"]

/-- The grammar of business rules on reports as received. A row holds id, expression, message, error
type, level and property. -/
def rawMovementText : String := textOf [
  "template header",
  "brId",
  "expression",
  "message",
  "errorType",
  "level",
  "propertyNames",
  "",
  "# Business rules validating raw movement reports.",
  "package fishwatch.business.raw_movement",
  "",
  "template \"RawMovementRules\"",
  "rule \"@\x7bbrId\x7d\"",
  "    on RawMovement",
  "    when @\x7bexpression\x7d",
  "    then",
  "        errorType \"@\x7berrorType\x7d\"",
  "        level \"@\x7blevel\x7d\"",
  "        message \"@\x7bmessage\x7d\"",
  "        fieldPath \"@\x7bpropertyNames\x7d\"",
  "end",
  "",
  "end template"]

/-- The grammar of business rules on enriched reports. -/
def movementText : String := textOf [
  "template header",
  "brId",
  "expression",
  "message",
  "errorType",
  "level",
  "propertyNames",
  "",
  "# Business rules validating enriched movements.",
  "package fishwatch.business.movement",
  "",
  "template \"MovementRules\"",
  "rule \"@\x7bbrId\x7d\"",
  "    on Movement",
  "    when @\x7bexpression\x7d",
  "    then",
  "        errorType \"@\x7berrorType\x7d\"",
  "        level \"@\x7blevel\x7d\"",
  "        message \"@\x7bmessage\x7d\"",
  "        fieldPath \"@\x7bpropertyNames\x7d\"",
  "end",
  "",
  "end template"]

/-- The grammar of business rules on sales. -/
def salesPriceText : String := textOf [
  "template header",
  "brId",
  "expression",
  "message",
  "errorType",
  "level",
  "propertyNames",
  "",
  "# Business rules validating sales note prices.",
  "package fishwatch.business.sales_price",
  "",
  "template \"SalesPriceRules\"",
  "rule \"@\x7bbrId\x7d\"",
  "    on SalesPrice",
  "    when @\x7bexpression\x7d",
  "    then",
  "        errorType \"@\x7berrorType\x7d\"",
  "        level \"@\x7blevel\x7d\"",
  "        message \"@\x7bmessage\x7d\"",
  "        fieldPath \"@\x7bpropertyNames\x7d\"",
  "end",
  "",
  "end template"]

/-- The grammar of business rules on fishing activities. -/
def fishingActivityText : String := textOf [
  "template header",
  "brId",
  "expression",
  "message",
  "errorType",
  "level",
  "propertyNames",
  "",
  "# Business rules validating logbook fishing activities.",
  "package fishwatch.business.fishing_activity",
  "",
  "template \"FishingActivityRules\"",
  "rule \"@\x7bbrId\x7d\"",
  "    on FishingActivity",
  "    when @\x7bexpression\x7d",
  "    then",
  "        errorType \"@\x7berrorType\x7d\"",
  "        level \"@\x7blevel\x7d\"",
  "        message \"@\x7bmessage\x7d\"",
  "        fieldPath \"@\x7bpropertyNames\x7d\"",
  "end",
  "",
  "end template"]

end FisheryRules.Bundled
