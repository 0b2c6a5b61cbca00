import FisheryRules.Fact.Criteria
import FisheryRules.Fact.Value
import FisheryRules.Text.Lines

/-!
# Properties of facts

Every kind of fact has a fixed table of properties. A condition refers to a property by name; the
reference holds the position in the table, by which the property is read.

## Main definitions

* `Field` — a row of a table.
* `FieldRef` — a resolved reference.
* `Field.find?` — resolution by name, `Field.findFor?` — by sub-criteria.
-/
namespace FisheryRules

/-- One property of the facts of type `α`. -/
structure Field (α : Type) where
  name : String
  subCriteria : Option SubCriteria
  type : FieldType
  read : α → Value

/-- Resolved reference to a property, which no longer depends on the type of the fact. -/
structure FieldRef where
  index : Nat
  name : String
  type : FieldType
  subCriteria : Option SubCriteria
deriving DecidableEq

namespace Field

variable {α : Type}

/-- The rows of a table as references. -/
def refs (fields : List (Field α)) : List FieldRef :=
  fields.mapIdx fun index field => ⟨index, field.name, field.type, field.subCriteria⟩

/-- The property with the given name: one spelled exactly so, else the first that differs in the
case of ASCII letters alone. -/
def find? (fields : List (Field α)) (name : String) : Option FieldRef :=
  ((refs fields).find? (·.name == name)).or
    ((refs fields).find? fun field => Text.sameIgnoringCase field.name name)

/-- The first property of the given sub-criteria. -/
def findFor? (fields : List (Field α)) (subCriteria : SubCriteria) : Option FieldRef :=
  (refs fields).find? (·.subCriteria == some subCriteria)

/-- The value of the property at a position of the table. -/
def valueAt? (fields : List (Field α)) (fact : α) (index : Nat) : Option Value :=
  fields[index]?.map (·.read fact)

end Field

end FisheryRules
