import FisheryRules.Data.Basic
import FisheryRules.Fact.Value
import FisheryRules.Number.Radix
import FisheryRules.Text.KeySet
import FisheryRules.Time.Loose
import FisheryRules.Uuid

/-!
# Serialized forms

How values are written as data documents and read back. The members of a record are written by
name in a fixed order; they are read by name in any order, without those the record does not
declare, or by position from a list. A member may be required, may have a default for when it is
absent, or may be `null`.

## Main definitions

* `Written` — the types whose values are written as data.
* `Serialized` — the types whose values are written and read back.
* `Members` — a record while it is read, with one function for each way a member is declared.
-/
namespace FisheryRules

/-- A type whose values are written as data. -/
class Written (α : Type) where
  toData : α → Data

export Written (toData)

/-- A type whose values are written as data and read back. -/
class Serialized (α : Type) extends Written α where
  ofData? : Data → Option α

namespace Data

/-- The written form of a failure: its code and its message. -/
def failure (code message : String) : Data :=
  record [("error", text code), ("message", text message)]

/-- Reads data as a value of the type that is expected. -/
def read? {α : Type} [Serialized α] (data : Data) : Option α := Serialized.ofData? data

/-- The text of a scalar. -/
def textOf? : Data → Option String
  | text value | plain value => some value
  | _ => none

/-- The name of a case: a text, or a record whose only member has that name and is null. -/
def caseName? : Data → Option String
  | text value | plain value => some value
  | record [(name, null)] => some name
  | _ => none

/-- The cases of an enumeration are read by their codes. -/
def readCase? {α : Type} (cases : List α) (code : α → String) (data : Data) : Option α :=
  data.caseName?.bind fun name => cases.find? (code · == name)

/-- Whether an undetermined scalar stands for an absent value. -/
def isNullWord (raw : String) : Bool := ["", "~", "null", "Null", "NULL"].contains raw

/-- The boolean that an undetermined scalar stands for. -/
def boolOfWord? (raw : String) : Option Bool :=
  if ["true", "True", "TRUE"].contains raw then some true
  else if ["false", "False", "FALSE"].contains raw then some false
  else none

/-- The letters between a zero and the digits of a numeral, and the radix that each stands for. -/
def radixes : List (Char × Nat) := [('x', 16), ('o', 8), ('b', 2)]

/-- The natural number that an undetermined scalar spells: in decimal without superfluous zeros, or
in the radix that a letter after a zero stands for. -/
def natOfWord? (raw : String) : Option Nat :=
  let digits := if raw.startsWith "+" then raw.toList.drop 1 else raw.toList
  match digits with
  | '0' :: letter :: rest => (radixes.lookup letter).bind (Radix.ofDigits? · rest)
  | _ => Radix.ofDigits? 10 digits

end Data

section Scalars

instance : Serialized String where
  toData := .text
  ofData? := Data.textOf?

instance : Serialized Bool where
  toData := .bool
  ofData?
    | .bool value => some value
    | .plain raw => Data.boolOfWord? raw
    | _ => none

/-- Integers of thirty-two bits without a sign. -/
instance : Serialized UInt32 where
  toData n := .integer n.toNat
  ofData? data :=
    let value? : Option Int :=
      match data with
      | .integer value => some value
      | .plain raw => (Data.natOfWord? raw).map Int.ofNat
      | _ => none
    value?.bind fun value =>
      if 0 ≤ value && value < 4294967296 then some (UInt32.ofNat value.toNat) else none

/-- The binary64 number nearest to an integer. -/
def Binary64.ofInt (n : Int) : Binary64 := Decimal.toBinary64 ⟨n < 0, n.natAbs, 0⟩

instance : Serialized Binary64 where
  toData := .real
  ofData?
    | .integer value => some (.ofInt value)
    | .real value => some value
    | .plain raw => Binary64.parse? raw
    | _ => none

instance : Serialized Instant where
  toData t := .text t.toZulu
  ofData? data := data.textOf?.bind Timestamp.readLoose?

instance : Serialized Uuid where
  toData id := .text id.toText
  ofData? data := data.textOf?.bind Uuid.parse?

end Scalars

section Containers

variable {α : Type}

instance [Written α] : Written (Option α) where
  toData
    | some value => toData value
    | none => .null

instance [Written α] : Written (List α) where
  toData items := .list (items.map toData)

/-- A result is written as its value or as its failure. -/
instance {ε : Type} [Written ε] [Written α] : Written (Except ε α) where
  toData
    | .ok value => toData value
    | .error error => toData error

instance : Written Nat where
  toData n := .integer n

instance [Serialized α] : Serialized (Option α) where
  ofData?
    | .null => some none
    | .plain raw => if Data.isNullWord raw then some none else (Data.plain raw).read?.map some
    | data => data.read?.map some

instance [Serialized α] : Serialized (List α) where
  ofData?
    | .list items | .sequence items => items.mapM Serialized.ofData?
    | .plain raw => if raw.isEmpty then some [] else none
    | _ => none

instance : Serialized KeySet where
  toData set := toData set.toList
  ofData? data := (data.read? (α := List String)).map KeySet.ofList

end Containers

/-- The members of a record while it is read. -/
inductive Members
  | named (members : List (String × Data))
  | listed (items : List Data)

/-- The members of a record that declares `count` of them. An empty scalar has none. -/
def Data.members? (count : Nat) : Data → Option Members
  | record members => some (.named members)
  | list items => if items.length ≤ count then some (.listed items) else none
  | plain raw => if raw.isEmpty then some (.named []) else none
  | _ => none

namespace Members

variable {α : Type} [Serialized α]

/-- The member at a position or of a name, or `absent` when there is none. A name that occurs
twice cannot be read. -/
def get? (members : Members) (position : Nat) (name : String) (absent : Option α)
    (read : Data → Option α) : Option α :=
  match members with
  | named members =>
    match members.filter (·.1 == name) with
    | [] => absent
    | [(_, value)] => read value
    | _ => none
  | listed items =>
    match items[position]? with
    | some value => read value
    | none => absent

/-- A member without which the record cannot be read. -/
def required (members : Members) (position : Nat) (name : String) : Option α :=
  members.get? position name none Data.read?

/-- The case that a member names. By position, a case is named by its code alone. -/
def namedCase (members : Members) (position : Nat) (name : String) : Option α :=
  match members with
  | named _ => members.required position name
  | listed items => (items[position]?.filter (·.textOf?.isSome)).bind Data.read?

/-- A member that takes a default when it is absent, but may not be null. -/
def defaulted (members : Members) (position : Nat) (name : String) (default : α) : Option α :=
  members.get? position name (some default) Data.read?

/-- A member that may be absent or null. -/
def optional (members : Members) (position : Nat) (name : String) : Option (Option α) :=
  members.get? position name (some none) Data.read?

/-- A member that may be null, and absent from a record but not from a list. -/
def nullable (members : Members) (position : Nat) (name : String) : Option (Option α) :=
  match members with
  | named _ => members.optional position name
  | listed _ => members.required position name

end Members

end FisheryRules
