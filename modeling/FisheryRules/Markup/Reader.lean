import FisheryRules.Data.Basic
import FisheryRules.Markup.Lexer

/-!
# From tokens to data

A reader holds the collections that are open, the innermost first, and takes one token at a time.
Where a token shows that an item, a key or a value was left out, it stands for an empty scalar.

## Main definitions

* `Collection` — an open collection, and what is expected next in it.
* `Reader.feed?` — takes a token.
* `Data.ofMarkup?` — reads a text.
-/
namespace FisheryRules.Markup

/-- What is expected next in a collection of keys and values. -/
inductive Expected
  /-- An entry, or the end. -/
  | entry
  /-- What divides entries, or the end. -/
  | divider
  | key
  /-- The sign before the value of a key. -/
  | sign (key : Option String)
  | value (key : Option String)

/-- Keys with their values. A key that is a collection has no text. -/
abbrev Entries := List (Option String × Data)

/-- Collection that is not closed yet. Its entries are held the latest first. -/
inductive Collection
  /-- Items after dashes. One whose dashes are as far in as the key that it belongs to ends without
  a token of its own. A dash may wait for its item. -/
  | blockSequence (items : List Data) (hasEnd awaitsItem : Bool)
  | blockMapping (entries : Entries) (expected : Expected)
  | flowSequence (items : List Data) (awaitsItem : Bool)
  /-- One key with its value, as an item of a flow. -/
  | flowPair (expected : Expected)
  | flowMapping (entries : Entries) (expected : Expected)

/-- How far the document is read. -/
inductive Progress
  | start
  /-- After a line of dashes. -/
  | opened
  | read (data : Data)
  | closed (data : Data)

/-- State of reading: what is open, and how far the document is read. -/
structure Reader where
  opened : List Collection := []
  progress : Progress := .start

namespace Reader

/-- A scalar that was left out. -/
def empty : Data := .plain ""

/-- The text of a scalar that is a key. -/
def keyText? : Data → Option String
  | .text key | .plain key => some key
  | _ => none

/-- The record of some entries, the latest first. -/
def recordOf (entries : Entries) : Data :=
  let named := entries.filterMap fun (key?, value) => key?.map fun key => (key, value)
  if named.length = entries.length then .record named.reverse else .unnamed

/-- Takes what was read as a part of the innermost open collection, or as the document. -/
def give? (data : Data) (r : Reader) : Option Reader :=
  match r.opened with
  | [] =>
    match r.progress with
    | .start | .opened => some { r with progress := .read data }
    | .read _ | .closed _ => none
  | .blockSequence items hasEnd _ :: outer =>
    some { r with opened := .blockSequence (data :: items) hasEnd false :: outer }
  | .flowSequence items _ :: outer =>
    some { r with opened := .flowSequence (data :: items) false :: outer }
  | .blockMapping entries expected :: outer =>
    match expected with
    | .key => some { r with opened := .blockMapping entries (.sign (keyText? data)) :: outer }
    | .sign key | .value key =>
      some { r with opened := .blockMapping ((key, data) :: entries) .entry :: outer }
    | .entry | .divider => none
  | .flowMapping entries expected :: outer =>
    match expected with
    | .key => some { r with opened := .flowMapping entries (.sign (keyText? data)) :: outer }
    | .sign key | .value key =>
      some { r with opened := .flowMapping ((key, data) :: entries) .divider :: outer }
    | .entry =>
      some { r with
        opened := .flowMapping ((keyText? data, empty) :: entries) .divider :: outer }
    | .divider => none
  | .flowPair expected :: outer =>
    match expected, outer with
    | .key, _ => some { r with opened := .flowPair (.sign (keyText? data)) :: outer }
    | .sign key, .flowSequence items _ :: outer
    | .value key, .flowSequence items _ :: outer =>
      some { r with opened := .flowSequence (recordOf [(key, data)] :: items) false :: outer }
    | _, _ => none

/-- Whether a token shows that the innermost collection lacks the item, key or value that it
awaits. -/
def lacksNode (r : Reader) (token : Token) : Bool :=
  match r.opened with
  | [] =>
    match r.progress with
    | .start => token = .textEnd
    | .opened => [.documentStart, .documentEnd, .textEnd].contains token
    | .read _ | .closed _ => false
  | .blockSequence _ hasEnd awaitsItem :: _ =>
    awaitsItem && (token = .blockEntry || token = .blockEnd ||
      (!hasEnd && (token = .key || token = .value)))
  | .blockMapping _ expected :: _ =>
    match expected with
    | .key | .value _ => [.key, .value, .blockEnd].contains token
    | _ => false
  | .flowMapping _ expected :: _ =>
    match expected with
    | .key => [.value, .flowEntry, .flowMappingEnd].contains token
    | .value _ => token = .flowEntry || token = .flowMappingEnd
    | _ => false
  | .flowPair expected :: _ =>
    match expected with
    | .value _ => token = .flowEntry || token = .flowSequenceEnd
    | _ => false
  | .flowSequence .. :: _ => false

/-- Fills in the item, key or value that a token shows to be left out. -/
def fillNode? (token : Token) (r : Reader) : Option Reader :=
  if r.lacksNode token then r.give? empty else some r

/-- Closes a sequence that has no end of its own, before a token that is no dash. -/
def closeSequence? (token : Token) (r : Reader) : Option Reader :=
  match r.opened with
  | .blockSequence items false false :: outer =>
    if token = .blockEntry then some r
    else { r with opened := outer : Reader }.give? (.sequence items.reverse)
  | _ => some r

/-- Fills in the value of a key that no sign follows. -/
def fillValue? (token : Token) (r : Reader) : Option Reader :=
  match r.opened with
  | .blockMapping _ (.sign _) :: _ | .flowMapping _ (.sign _) :: _ | .flowPair (.sign _) :: _ =>
    if token = .value then some r else r.give? empty
  | _ => some r

def openCollection (collection : Collection) (r : Reader) : Reader :=
  { r with opened := collection :: r.opened }

/-- Closes the innermost collection, which was read whole. -/
def close? (data : Data) (r : Reader) : Option Reader :=
  { r with opened := r.opened.drop 1 : Reader }.give? data

/-- Takes the first token of an item, key, value or document. -/
def startNode? (blockAllowed dashAllowed : Bool) (token : Token) (r : Reader) : Option Reader :=
  match token with
  | .scalar isPlain text => r.give? (if isPlain then .plain text else .text text)
  | .flowSequenceStart => some (r.openCollection (.flowSequence [] true))
  | .flowMappingStart => some (r.openCollection (.flowMapping [] .entry))
  | .blockSequenceStart =>
    if blockAllowed then some (r.openCollection (.blockSequence [] true false)) else none
  | .blockMappingStart =>
    if blockAllowed then some (r.openCollection (.blockMapping [] .entry)) else none
  | .blockEntry =>
    if dashAllowed then some (r.openCollection (.blockSequence [] false true)) else none
  | _ => none

/-- Takes a token outside of all collections. -/
def takeOutside? (token : Token) (r : Reader) : Option Reader :=
  match r.progress, token with
  | .start, .documentStart => some { r with progress := .opened }
  | .start, _ | .opened, _ => r.startNode? true false token
  | .read data, .documentEnd | .read data, .textEnd | .closed data, .documentEnd
  | .closed data, .textEnd => some { r with progress := .closed data }
  | .read _, _ | .closed _, _ => none

/-- Takes a token for the innermost collection. -/
def take? (token : Token) (r : Reader) : Option Reader :=
  match r.opened with
  | [] => r.takeOutside? token
  | .blockSequence items hasEnd awaitsItem :: outer =>
    if awaitsItem then r.startNode? true false token
    else if token = .blockEntry then
      some { r with opened := .blockSequence items hasEnd true :: outer }
    else if token = .blockEnd then r.close? (.sequence items.reverse)
    else none
  | .blockMapping entries expected :: outer =>
    match expected with
    | .entry | .divider =>
      if token = .key then some { r with opened := .blockMapping entries .key :: outer }
      else if token = .blockEnd then r.close? (recordOf entries)
      else none
    | .sign key =>
      if token = .value then some { r with opened := .blockMapping entries (.value key) :: outer }
      else none
    | .key | .value _ => r.startNode? true true token
  | .flowSequence items awaitsItem :: outer =>
    if token = .flowSequenceEnd then r.close? (.sequence items.reverse)
    else if !awaitsItem then
      if token = .flowEntry then some { r with opened := .flowSequence items true :: outer }
      else none
    else if token = .key then some (r.openCollection (.flowPair .key))
    else r.startNode? false false token
  | .flowPair expected :: outer =>
    match expected with
    | .key =>
      if [.value, .flowEntry, .flowSequenceEnd].contains token then r.give? empty
      else r.startNode? false false token
    | .sign key =>
      if token = .value then some { r with opened := .flowPair (.value key) :: outer } else none
    | .value _ => r.startNode? false false token
    | .entry | .divider => none
  | .flowMapping entries expected :: outer =>
    match expected with
    | .entry =>
      if token = .flowMappingEnd then r.close? (recordOf entries)
      else if token = .key then some { r with opened := .flowMapping entries .key :: outer }
      else r.startNode? false false token
    | .divider =>
      if token = .flowMappingEnd then r.close? (recordOf entries)
      else if token = .flowEntry then
        some { r with opened := .flowMapping entries .entry :: outer }
      else none
    | .sign key =>
      if token = .value then some { r with opened := .flowMapping entries (.value key) :: outer }
      else none
    | .key | .value _ => r.startNode? false false token

/-- Takes a token: fills in what it shows to be left out, closes what it ends without a token of
its own, and takes it for the innermost collection. -/
def feed? (r : Reader) (token : Token) : Option Reader := do
  let r ← r.fillNode? token
  let r ← r.closeSequence? token
  let r ← r.fillValue? token
  r.take? token

/-- The document that was read, if nothing is open. -/
def data? (r : Reader) : Option Data :=
  match r.opened, r.progress with
  | [], .closed data => some data
  | _, _ => none

end Reader

end FisheryRules.Markup

namespace FisheryRules

/-- Reads the one document of a markup text. -/
def Data.ofMarkup? (cs : List Char) : Option Data := do
  let tokens ← Markup.Token.ofText? cs
  (← tokens.foldlM Markup.Reader.feed? {}).data?

end FisheryRules
