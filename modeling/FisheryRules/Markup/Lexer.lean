import FisheryRules.Markup.Scalar
import FisheryRules.Markup.Token

/-!
# From text to tokens

The tokens of a markup text are found from left to right. That a scalar or a flow is a key shows
only at the colon after it, so its place among the tokens is held until then.

## Main definitions

* `PossibleKey` — what may turn out to be a key.
* `Lexer`, `Lexer.step?` — the tokens found so far, and the step to the next.
* `Token.ofText?` — the tokens of a text.
-/
namespace FisheryRules.Markup

/-- What may turn out to be a key: the number of tokens before it, and its place. -/
structure PossibleKey where
  position : Nat
  /-- Whether the block that it stands in lets nothing but a key stand there. -/
  isRequired : Bool
  number : Nat
  column : Nat
  offset : Nat

namespace PossibleKey

/-- A key is on the line of its colon, and at most 1024 bytes before it. -/
def isStale (key : PossibleKey) (c : Cursor) : Bool :=
  key.number < c.number || key.offset + 1024 < c.offset

end PossibleKey

/-- Tokens found so far, the latest first. -/
structure Lexer where
  cursor : Cursor
  tokens : List Token := []
  /-- The columns at which the open blocks start, each plus one, the innermost first. -/
  levels : List Nat := []
  key : Option PossibleKey := none
  /-- The possible keys outside of each open flow, the innermost first. -/
  outerKeys : List (Option PossibleKey) := []
  /-- Whether a key may start here. -/
  keyAllowed : Bool := true

namespace Lexer

def inFlow (l : Lexer) : Bool := !l.outerKeys.isEmpty

/-- The column after which the content of the innermost block starts. -/
def level (l : Lexer) : Nat := l.levels.head?.getD 0

def emit (l : Lexer) (token : Token) : Lexer := { l with tokens := token :: l.tokens }

/-- Adds a token that is written in some characters of the line. -/
def take (l : Lexer) (token : Token) (width : Nat) : Lexer :=
  { l.emit token with cursor := l.cursor.advance width }

section Keys

/-- Gives up the possible key, which must not be required. -/
def dropKey? (l : Lexer) : Option Lexer :=
  if l.key.any (·.isRequired) then none else some { l with key := none }

/-- Notes that the next token may turn out to be a key. -/
def noteKey? (l : Lexer) : Option Lexer :=
  if !l.keyAllowed then some l
  else
    l.dropKey?.map fun l =>
      { l with
        key := some
          { position := l.tokens.length
            isRequired := !l.inFlow && l.level == l.cursor.column + 1
            number := l.cursor.number
            column := l.cursor.column
            offset := l.cursor.offset } }

/-- Gives up the possible keys that are too far back. -/
def dropStaleKeys? (l : Lexer) : Option Lexer :=
  let isStale (key : PossibleKey) : Bool := key.isStale l.cursor
  if (l.key :: l.outerKeys).any fun key => key.any fun key => isStale key && key.isRequired then
    none
  else
    some { l with
      key := l.key.filter (!isStale ·)
      outerKeys := l.outerKeys.map (·.filter (!isStale ·)) }

end Keys

section Blocks

/-- Opens a block at a column, unless one that starts there or further in is open. -/
def openBlock (l : Lexer) (column : Nat) (token : Token) : Lexer :=
  if l.inFlow || column < l.level then l
  else { l.emit token with levels := (column + 1) :: l.levels }

/-- Closes the blocks above a level. Flows keep the blocks that they are in. -/
def closeBlocks (l : Lexer) (level : Nat) : Lexer :=
  if l.inFlow then l
  else
    let closed := l.levels.takeWhile (level < ·)
    { l with
      levels := l.levels.drop closed.length
      tokens := closed.map (fun _ => .blockEnd) ++ l.tokens }

/-- Opens the block of a sign that stands where a key may start. -/
def openBlockAtSign? (l : Lexer) (token : Token) : Option Lexer :=
  if l.inFlow then some l
  else if l.keyAllowed then some (l.openBlock l.cursor.column token)
  else none

end Blocks

section Signs

/-- Ends what is open before a line that stands between documents, or before the end. -/
def closeDocument? (l : Lexer) : Option Lexer :=
  (l.closeBlocks 0).dropKey?.map fun l => { l with keyAllowed := false }

def documentMark? (l : Lexer) (token : Token) : Option Lexer :=
  l.closeDocument?.map (·.take token 3)

def flowStart? (l : Lexer) (token : Token) : Option Lexer :=
  l.noteKey?.map fun l =>
    { l.take token 1 with
      key := none
      outerKeys := l.key :: l.outerKeys
      keyAllowed := true }

def flowEnd? (l : Lexer) (token : Token) : Option Lexer :=
  l.dropKey?.map fun l =>
    { l.take token 1 with
      key := l.outerKeys.head?.getD none
      outerKeys := l.outerKeys.drop 1
      keyAllowed := false }

def flowEntry? (l : Lexer) : Option Lexer :=
  l.dropKey?.map fun l => { l.take .flowEntry 1 with keyAllowed := true }

/-- A dash, before an item of a block. -/
def blockEntry? (l : Lexer) : Option Lexer := do
  let l ← (← l.openBlockAtSign? .blockSequenceStart).dropKey?
  return { l.take .blockEntry 1 with keyAllowed := true }

/-- A question mark, before a key. -/
def keySign? (l : Lexer) : Option Lexer := do
  let l ← (← l.openBlockAtSign? .blockMappingStart).dropKey?
  return { l.take .key 1 with keyAllowed := !l.inFlow }

/-- Puts the sign of a key before the token that turns out to be one, and opens its block. -/
def insertKey (l : Lexer) (key : PossibleKey) : Lexer :=
  let count := l.tokens.length - key.position
  let before : Lexer := { l with tokens := l.tokens.drop count }
  let opened := (before.openBlock key.column .blockMappingStart).emit .key
  { opened with tokens := l.tokens.take count ++ opened.tokens, key := none }

/-- A colon, between a key and its value. -/
def valueSign? (l : Lexer) : Option Lexer :=
  match l.key with
  | some key => some { (l.insertKey key).take .value 1 with keyAllowed := false }
  | none =>
    (l.openBlockAtSign? .blockMappingStart).map fun l =>
      { l.take .value 1 with keyAllowed := !l.inFlow }

end Signs

section Scalars

def addScalar (l : Lexer) (isPlain : Bool) (text : List Char) (last : Cursor)
    (keyAllowed : Bool) : Lexer :=
  { l.emit (.scalar isPlain (String.ofList text)) with cursor := last, keyAllowed }

def plain? (l : Lexer) : Option Lexer := do
  let l ← l.noteKey?
  let (text, last, broken) ← Scalar.plain? l.inFlow l.level l.cursor
  return l.addScalar true text last broken

def quoted? (l : Lexer) (part? : List Char → Option Scalar.QuotedPart) : Option Lexer := do
  let l ← l.noteKey?
  let (text, last) ← Scalar.quoted? part? (l.cursor.advance 1)
  return l.addScalar false text last false

def block? (l : Lexer) (isFolded : Bool) : Option Lexer := do
  let l ← l.dropKey?
  let (text, last) ← Scalar.block? isFolded l.level (l.cursor.advance 1)
  return l.addScalar false text last true

end Scalars

/-- The characters that start no token, besides blanks: they would name or mark a value, or they
are reserved. -/
def isReserved (c : Char) : Bool := "#&*!|>%@\x60".toList.contains c

/-- The place of the next token, past blanks, comments and breaks, and whether a key may start
there. A break lets one start except in a flow; where one may start, tabs are not blank. -/
def nextToken (inFlow keyAllowed : Bool) (c : Cursor) : Cursor × Bool :=
  let afterMark :=
    if c.column == 0 && c.line.chars.head? == some '\ufeff' then c.advance 1 else c
  let place := afterMark.skipWhile fun char =>
    char == ' ' || (char == '\t' && (inFlow || !keyAllowed))
  if place.atLineEnd || place.line.chars.head? == some '#' then
    if c.below = [] then (place.lineEnd, keyAllowed)
    else nextToken inFlow (keyAllowed || !inFlow) (c.skipLines 1)
  else (place, keyAllowed)
termination_by c.below.length
decreasing_by exact Cursor.length_below_skipLines_succ ‹_› 0

/-- Adds the token that starts at the cursor. -/
def token? (l : Lexer) : Option Lexer :=
  match l.cursor.line.chars with
  | [] => l.closeDocument?.map (·.emit .textEnd)
  | c :: rest =>
    let isWord := rest.head?.all isBlank
    if l.cursor.isDocumentMark '-' then l.documentMark? .documentStart
    else if l.cursor.isDocumentMark '.' then l.documentMark? .documentEnd
    else if c == '[' then l.flowStart? .flowSequenceStart
    else if c == '\x7b' then l.flowStart? .flowMappingStart
    else if c == ']' then l.flowEnd? .flowSequenceEnd
    else if c == '\x7d' then l.flowEnd? .flowMappingEnd
    else if c == ',' then l.flowEntry?
    else if c == '-' && isWord then l.blockEntry?
    else if c == '?' && (l.inFlow || isWord) then l.keySign?
    else if c == ':' && (l.inFlow || isWord) then l.valueSign?
    else if c == '|' && !l.inFlow then l.block? false
    else if c == '>' && !l.inFlow then l.block? true
    else if c == '\'' then l.quoted? fun cs => some (Scalar.singleQuotedPart cs)
    else if c == '"' then l.quoted? Scalar.doubleQuotedPart?
    else if isBlank c || isReserved c then none
    else l.plain?

/-- The step to the next token. -/
def step? (l : Lexer) : Option Lexer := do
  let (cursor, keyAllowed) := nextToken l.inFlow l.keyAllowed l.cursor
  let l ← { l with cursor, keyAllowed : Lexer }.dropStaleKeys?
  (l.closeBlocks (cursor.column + 1)).token?

/-- Goes on to the end of the text, in at most `bound` steps. -/
def run? : (bound : Nat) → Lexer → Option (List Token)
  | 0, _ => none
  | bound + 1, l =>
    l.step?.bind fun l =>
      if l.tokens.head? = some .textEnd then some l.tokens.reverse else run? bound l

end Lexer

/-- Whether a character may stand in a markup text. -/
def isPrintable (c : Char) : Bool :=
  let code := c.toNat
  c == '\t' || c == '\n' || c == '\r' || (0x20 ≤ code && code ≤ 0x7e) || code == 0x85 ||
    (0xa0 ≤ code && code ≤ 0xfffd) || 0x10000 ≤ code

/-- The tokens of a text. Each but the last takes a character, so their number is bounded. A byte
order mark at the start is passed over. -/
def Token.ofText? (cs : List Char) : Option (List Token) :=
  let text := if cs.head? == some '\ufeff' then cs.drop 1 else cs
  if text.all isPrintable then Lexer.run? (text.length + 1) { cursor := .ofText text } else none

end FisheryRules.Markup
