/-!
# Identifiers

A universally unique identifier is a row of thirty-two hexadecimal digits, written in lower case
with hyphens after the eighth, twelfth, sixteenth and twentieth. Identifiers are read with or
without the hyphens, in braces, or as a URN.

## Main definitions

* `Uuid`, `Uuid.toText`, `Uuid.parse?` — the type and its text form.
* `IdSupply` — identifiers that have not been used before, one after the other.
-/
namespace FisheryRules

/-- A universally unique identifier, as its hexadecimal digits. -/
structure Uuid where
  digits : Vector (Fin 16) 32
deriving DecidableEq

namespace Uuid

def hexDigits : List Char := "0123456789abcdef".toList

def hexChar (d : Fin 16) : Char := hexDigits.getD d.val '0'

def hexValue? (c : Char) : Option (Fin 16) :=
  (hexDigits.idxOf? c.toLower).bind fun i => if h : i < 16 then some ⟨i, h⟩ else none

/-- Groups of eight, four, four, four and twelve digits, hyphens between them. -/
def hyphenate (cs : List Char) : List Char :=
  cs.take 8 ++ '-' :: (cs.drop 8).take 4 ++ '-' :: (cs.drop 12).take 4 ++
    '-' :: (cs.drop 16).take 4 ++ '-' :: cs.drop 20

/-- Undoes `hyphenate` on a text that has hyphens in the right places. -/
def unhyphenate? (cs : List Char) : Option (List Char) :=
  if cs.length = 36 && [8, 13, 18, 23].all (fun i => cs[i]? == some '-') then
    some (cs.take 8 ++ (cs.drop 9).take 4 ++ (cs.drop 14).take 4 ++ (cs.drop 19).take 4 ++
      cs.drop 24)
  else none

/-- The canonical text of an identifier. -/
def toText (id : Uuid) : String := String.ofList (hyphenate (id.digits.toList.map hexChar))

/-- The identifier with the given digits, when there are thirty-two. -/
def ofHex? (cs : List Char) : Option Uuid :=
  match cs.mapM hexValue? with
  | some values =>
    if h : values.toArray.size = 32 then some ⟨⟨values.toArray, h⟩⟩ else none
  | none => none

/-- Reads an identifier in any of its written forms. -/
def parse? (s : String) : Option Uuid :=
  let cs := s.toList
  if cs.length = 32 then ofHex? cs
  else if cs.length = 36 then (unhyphenate? cs).bind ofHex?
  else if cs.length = 38 && cs.head? == some '\x7b' && cs.getLast? == some '\x7d' then
    (unhyphenate? (cs.drop 1).dropLast).bind ofHex?
  else
    let label := (cs.take 9).map Char.toLower
    if label == "urn:uuid:".toList then (unhyphenate? (cs.drop 9)).bind ofHex? else none

/-- The identifier whose digits spell a number, modulo `16 ^ 32`. -/
def ofNat (n : Nat) : Uuid :=
  ⟨Vector.ofFn fun i => ⟨n / Nat.pow 16 (31 - i.val) % 16, Nat.mod_lt _ (by decide)⟩⟩

end Uuid

/-- A supply of identifiers: the `n`-th is `name n`, and the first `used` have been handed out. -/
structure IdSupply where
  name : Nat → Uuid
  used : Nat := 0

namespace IdSupply

/-- The next identifier, and the supply without it. -/
def draw (ids : IdSupply) : Uuid × IdSupply :=
  (ids.name ids.used, { ids with used := ids.used + 1 })

end IdSupply

end FisheryRules
