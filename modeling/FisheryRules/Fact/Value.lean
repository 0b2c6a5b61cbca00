import FisheryRules.Number.Shortest
import FisheryRules.Time.Timestamp

/-!
# Values

The values a property of a fact takes while a condition is evaluated, and the types properties are
declared with.

## Main definitions

* `FieldType` — the declared types; lists hold texts or numbers.
* `Value` — the values. An absent property is `null`.
-/
namespace FisheryRules

/-- Declared type of a property. -/
inductive FieldType
  | text
  | number
  | bool
  | time
  | textList
  | numberList
deriving DecidableEq

namespace FieldType

def isList : FieldType → Bool
  | textList | numberList => true
  | _ => false

/-- Type of the elements of a list, and the type itself for the others. -/
def element : FieldType → FieldType
  | textList => text
  | numberList => number
  | other => other

def name : FieldType → String
  | text => "text"
  | number => "number"
  | bool => "bool"
  | time => "time"
  | textList => "text list"
  | numberList => "number list"

end FieldType

/-- Value of a property. -/
inductive Value
  | null
  | text (value : String)
  | number (value : Binary64)
  | bool (value : Bool)
  | time (value : Instant)
  | list (items : List Value)
deriving Inhabited

namespace Value

def isNull : Value → Bool
  | null => true
  | _ => false

def typeName : Value → String
  | null => "null"
  | text _ => "text"
  | number _ => "number"
  | bool _ => "bool"
  | time _ => "time"
  | list _ => "list"

mutual

/-- The value as it is shown in messages and looked up in code lists. -/
def toText : Value → String
  | null => "null"
  | text value => value
  | number value => value.toText
  | bool value => if value then "true" else "false"
  | time value => value.toOffset
  | list items => "[" ++ ", ".intercalate (itemTexts items) ++ "]"

/-- The texts of the items of a list. -/
def itemTexts : List Value → List String
  | [] => []
  | item :: others => item.toText :: itemTexts others

end

def ofText : Option String → Value
  | some value => text value
  | none => null

def ofNumber : Option Binary64 → Value
  | some value => number value
  | none => null

def ofTime : Option Instant → Value
  | some value => time value
  | none => null

def ofTexts (values : List String) : Value := list (values.map text)

end Value

end FisheryRules
