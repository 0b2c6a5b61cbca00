import FisheryRules.Fact.Activity
import FisheryRules.Fact.Movement
import FisheryRules.Text.KeySet
import FisheryRules.Uuid

/-!
# Facts

A fact is a short-lived snapshot of a movement, sale or activity that rules are evaluated on. It
collects the outcomes of the rules that fire on it.

## Main definitions

* `FactType`, `Payload` — the kinds of facts and their contents.
* `UnknownName` — why a text is no name of a kind.
* `Outcome`, `Severity` — a warning or an error attached to a fact.
* `Fact`, `Fact.addOutcome` — the fact, and attaching an outcome to it.
-/
namespace FisheryRules

/-- Kind of fact that rules are written for. -/
inductive FactType
  | rawMovement
  | movement
  | salesPrice
  | fishingActivity
deriving DecidableEq

/-- Text that names no fact type, or no kind of action. -/
inductive UnknownName
  | factType (text : String)
  | action (text : String)
deriving DecidableEq

def UnknownName.message : UnknownName → String
  | factType text => s!"unknown fact type: {text}"
  | action text => s!"unknown action kind: {text}"

/-- Contents of a fact. -/
inductive Payload
  | rawMovement (movement : RawMovement)
  | movement (movement : Movement)
  | salesPrice (sale : SalesPrice)
  | fishingActivity (activity : FishingActivity)
deriving DecidableEq

namespace FactType

def all : List FactType := [rawMovement, movement, salesPrice, fishingActivity]

/-- Name of the fact type in rule sources. -/
def name : FactType → String
  | rawMovement => "RawMovement"
  | movement => "Movement"
  | salesPrice => "SalesPrice"
  | fishingActivity => "FishingActivity"

/-- Name of the fact type in definitions. -/
def code : FactType → String
  | rawMovement => "RAW_MOVEMENT"
  | movement => "MOVEMENT"
  | salesPrice => "SALES_PRICE"
  | fishingActivity => "FISHING_ACTIVITY"

/-- Reads the name used in rule sources, in any case and with blanks around it. -/
def parse? (s : String) : Option FactType :=
  all.find? fun type => Text.sameIgnoringCase type.name (Text.trimmed s)

/-- Reads the name used in rule sources; gives the text when it names no type. -/
def parse (s : String) : Except UnknownName FactType :=
  match parse? s with
  | some type => .ok type
  | none => .error (.factType s)

/-- The properties of facts of this type. -/
def refs : FactType → List FieldRef
  | rawMovement => Field.refs RawMovement.fields
  | movement => Field.refs Movement.fields
  | salesPrice => Field.refs SalesPrice.fields
  | fishingActivity => Field.refs FishingActivity.fields

/-- Resolves a property by name. -/
def field? : FactType → String → Option FieldRef
  | rawMovement => Field.find? RawMovement.fields
  | movement => Field.find? Movement.fields
  | salesPrice => Field.find? SalesPrice.fields
  | fishingActivity => Field.find? FishingActivity.fields

/-- Resolves the property of a sub-criteria. -/
def fieldFor? : FactType → SubCriteria → Option FieldRef
  | rawMovement => Field.findFor? RawMovement.fields
  | movement => Field.findFor? Movement.fields
  | salesPrice => Field.findFor? SalesPrice.fields
  | fishingActivity => Field.findFor? FishingActivity.fields

end FactType

namespace Payload

def factType : Payload → FactType
  | rawMovement _ => .rawMovement
  | movement _ => .movement
  | salesPrice _ => .salesPrice
  | fishingActivity _ => .fishingActivity

/-- The property at a position of the table of this kind of fact. -/
def valueAt? : Payload → Nat → Option Value
  | rawMovement fact => Field.valueAt? RawMovement.fields fact
  | movement fact => Field.valueAt? Movement.fields fact
  | salesPrice fact => Field.valueAt? SalesPrice.fields fact
  | fishingActivity fact => Field.valueAt? FishingActivity.fields fact

end Payload

/-- Weight of an outcome. -/
inductive Severity
  | error
  | warning
deriving DecidableEq

def Severity.code : Severity → String
  | error => "ERROR"
  | warning => "WARNING"

/-- Result of a validation, attached to a fact. -/
structure Outcome where
  severity : Severity
  message : String
  ruleId : String
  level : String
  /-- Path of the offending property in the originating document. -/
  fieldPath : String := ""
deriving DecidableEq

/-- Position of a fact in the document it was extracted from. -/
structure SourceRef where
  sequence : UInt32
  path : String
deriving DecidableEq

/-- Snapshot of a movement, sale or activity. -/
structure Fact where
  id : Uuid
  payload : Payload
  outcomes : List Outcome := []
  ok : Bool := true
  /-- Keys shared by facts that describe the same business object. -/
  uniqueIds : KeySet := .empty
  source : Option SourceRef := none
deriving DecidableEq

namespace Fact

def factType (fact : Fact) : FactType := fact.payload.factType

def valueAt? (fact : Fact) (index : Nat) : Option Value := fact.payload.valueAt? index

/-- Attaches an outcome, once. A fact with an error is not ok. -/
def addOutcome (fact : Fact) (outcome : Outcome) : Fact :=
  { fact with
    ok := fact.ok && outcome.severity != .error
    outcomes :=
      if fact.outcomes.contains outcome then fact.outcomes else fact.outcomes ++ [outcome] }

def hasErrors (fact : Fact) : Bool := fact.outcomes.any (·.severity == .error)

def hasWarnings (fact : Fact) : Bool := fact.outcomes.any (·.severity == .warning)

end Fact

end FisheryRules
