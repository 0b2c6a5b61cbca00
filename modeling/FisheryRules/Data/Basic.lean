import FisheryRules.Number.Shortest

/-!
# Data documents

The tree of a JSON or markup document, and the text of a tree as JSON. A markup document writes
some scalars without saying of what kind they are; such a scalar keeps its raw text, and whoever
reads it decides.

## Main definitions

* `Data` — the trees.
* `Data.toJson` — the text of a tree, without blanks.
-/
namespace FisheryRules

/-- Tree of a document. -/
inductive Data
  | null
  | bool (value : Bool)
  | integer (value : Int)
  | real (value : Binary64)
  | text (value : String)
  /-- A scalar whose kind its reader decides. -/
  | plain (raw : String)
  /-- A list, which may also stand for a record whose members it holds by position. -/
  | list (items : List Data)
  /-- A list that stands for nothing but a list. -/
  | sequence (items : List Data)
  | record (members : List (String × Data))
  /-- A record with a name that is no scalar. Nothing is read from one, so its members are not
  kept. -/
  | unnamed
deriving Inhabited

namespace Data

def hexDigit (n : Nat) : Char := Nat.digitChar (n % 16)

/-- The spelling of a character in a JSON text: quotes, backslashes and control characters are
escaped. -/
def escapeChar (c : Char) : List Char :=
  if c == '"' then ['\\', '"']
  else if c == '\\' then ['\\', '\\']
  else if c == '\n' then ['\\', 'n']
  else if c == '\r' then ['\\', 'r']
  else if c == '\t' then ['\\', 't']
  else if c.toNat = 0x08 then ['\\', 'b']
  else if c.toNat = 0x0C then ['\\', 'f']
  else if c.toNat < 0x20 then ['\\', 'u', '0', '0', hexDigit (c.toNat / 16), hexDigit c.toNat]
  else [c]

def textToJson (s : String) : List Char := '"' :: s.toList.flatMap escapeChar ++ ['"']

/-- A number that is not an integer keeps a point, so that it is read back as such. -/
def realToJson (x : Binary64) : List Char :=
  if !x.isFinite then "null".toList
  else
    let cs := x.toText.toList
    if cs.contains '.' then cs else cs ++ ['.', '0']

mutual

/-- The text of a tree as JSON, without blanks. -/
def toJson : Data → List Char
  | null | unnamed => "null".toList
  | bool value => if value then "true".toList else "false".toList
  | integer value => (toString value).toList
  | real value => realToJson value
  | text value | plain value => textToJson value
  | list items | sequence items => '[' :: itemsToJson items ++ [']']
  | record members => '\x7b' :: membersToJson members ++ ['\x7d']

def itemsToJson : List Data → List Char
  | [] => []
  | [item] => toJson item
  | item :: others => toJson item ++ ',' :: itemsToJson others

def membersToJson : List (String × Data) → List Char
  | [] => []
  | [(name, value)] => textToJson name ++ ':' :: toJson value
  | (name, value) :: others =>
    textToJson name ++ ':' :: toJson value ++ ',' :: membersToJson others

end

end Data

end FisheryRules
