import FisheryRules.Fact.Field

/-!
# Sales and fishing activities

What sales notes and logbooks report. Business rules run on it.

## Main definitions

* `SalesPrice` — the price section of a sales note.
* `FishingActivity` — an activity declared in a logbook.
-/
namespace FisheryRules

/-- Amount of money on a sales note. -/
structure Amount where
  value : Binary64
  currency : Option String := none
deriving DecidableEq, Inhabited

/-- Price section of a sales note. -/
structure SalesPrice where
  chargeAmounts : List Amount := []
deriving DecidableEq, Inhabited

/-- The properties of a price section. -/
def SalesPrice.fields : List (Field SalesPrice) := [
  ⟨"chargeAmount", none, .numberList, fun f => .list (f.chargeAmounts.map (.number ·.value))⟩,
  ⟨"currency", none, .textList, fun f => .list (f.chargeAmounts.map (.ofText ·.currency))⟩]

/-- Fishing activity declared in a logbook. The weight of the catch is in kilograms. -/
structure FishingActivity where
  activityType : Option String := none
  occurrence : Option Instant := none
  vesselCfr : Option String := none
  flagState : Option String := none
  faoArea : Option String := none
  species : List String := []
  catchWeight : Option Binary64 := none
  operationCount : Option Binary64 := none
deriving DecidableEq, Inhabited

/-- The properties of a fishing activity. -/
def FishingActivity.fields : List (Field FishingActivity) := [
  ⟨"activityType", none, .text, fun f => .ofText f.activityType⟩,
  ⟨"occurrence", none, .time, fun f => .ofTime f.occurrence⟩,
  ⟨"vesselCfr", none, .text, fun f => .ofText f.vesselCfr⟩,
  ⟨"flagState", none, .text, fun f => .ofText f.flagState⟩,
  ⟨"faoArea", none, .text, fun f => .ofText f.faoArea⟩,
  ⟨"species", none, .textList, fun f => .ofTexts f.species⟩,
  ⟨"catchWeight", none, .number, fun f => .ofNumber f.catchWeight⟩,
  ⟨"operationCount", none, .number, fun f => .ofNumber f.operationCount⟩]

end FisheryRules
