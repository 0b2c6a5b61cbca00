import FisheryRules.Markup.Cursor
import FisheryRules.Number.Radix

/-!
# Scalars of a markup text

A scalar is plain, quoted, or a block of lines. A plain or quoted scalar that goes on below is
folded: one break counts as a blank, and of several the first is left out. A block keeps its breaks
or is folded too, as its header says.

## Main definitions

* `Scalar.plain?` — reads a plain scalar.
* `Scalar.quoted?` — reads a scalar between quotes.
* `Scalar.block?` — reads a block of lines.
-/
namespace FisheryRules.Markup

namespace Scalar

/-- The text that breaks between two lines of a folded scalar stand for. -/
def fold : List Char → List Char
  | ['\n'] => [' ']
  | '\n' :: others => others
  | breaks => breaks

section Plain

/-- The characters that show the structure of a flow. -/
def isFlowIndicator (c : Char) : Bool :=
  c == ',' || c == '[' || c == ']' || c == '\x7b' || c == '\x7d'

/-- The characters of a line that belong to a plain scalar. It ends before a comment, before a
colon that ends a word, and in a flow before an indicator. -/
def plainPart? (inFlow afterBlank : Bool) : List Char → Option (List Char)
  | [] => some []
  | c :: rest =>
    if isBlank c then
      (plainPart? inFlow true rest).map fun part => if part.isEmpty then [] else c :: part
    else if c == '#' && afterBlank then some []
    else if c == ':' && rest.head?.all isBlank then some []
    else if c == ':' && inFlow && rest.head?.any (fun d => d == '?' || isFlowIndicator d) then none
    else if inFlow && isFlowIndicator c then some []
    else (plainPart? inFlow false rest).map (c :: ·)

/-- Reads the lines of a plain scalar below its first; a line to the left of `level` is not part of
it, except in a flow. Says also whether the scalar was left by a break. -/
def plainBelow? (inFlow : Bool) (level : Nat) (c : Cursor) : Option (List Char × Cursor × Bool) :=
  if c.atLineEnd ∧ c.below ≠ [] then
    let next := c.nextText
    if c.hasTabBefore level then none
    else if next.atDocumentEnd || (!inFlow && next.column < level) then some ([], next, true)
    else
      match plainPart? inFlow true next.line.chars with
      | none => none
      | some [] => some ([], next, true)
      | some part =>
        (plainBelow? inFlow level ((next.advance part.length).skipWhile isBlank)).map
          fun (others, last, broken) => (fold c.breaks ++ part ++ others, last, broken)
  else some ([], c, false)
termination_by c.below.length
decreasing_by exact Cursor.length_below_nextText ‹_ ∧ _›.2

/-- Reads a plain scalar. Says also whether it was left by a break. -/
def plain? (inFlow : Bool) (level : Nat) (c : Cursor) : Option (List Char × Cursor × Bool) := do
  let part ← plainPart? inFlow false c.line.chars
  let (others, last, broken) ←
    plainBelow? inFlow level ((c.advance part.length).skipWhile isBlank)
  return (part ++ others, last, broken)

end Plain

section Quoted

/-- How a line of a quoted scalar ends. -/
inductive QuotedEnd
  /-- The closing quote, and what follows it. -/
  | closed (rest : List Char)
  /-- The end of the line; an escaped end is not folded. -/
  | broken (isEscaped : Bool)

/-- The text of a scalar on one line, and how it ends there. -/
abbrev QuotedPart := List Char × QuotedEnd

/-- Puts a character before a part. Blanks at the end of a line do not count. -/
def QuotedPart.cons (c : Char) (part : QuotedPart) : QuotedPart :=
  match part with
  | ([], .broken false) => if isBlank c then part else ([c], .broken false)
  | (text, ending) => (c :: text, ending)

/-- The part of a line between single quotes. A quote is written twice. -/
def singleQuotedPart : List Char → QuotedPart
  | [] => ([], .broken false)
  | '\'' :: '\'' :: rest => .cons '\'' (singleQuotedPart rest)
  | c :: rest => if c == '\'' then ([], .closed rest) else .cons c (singleQuotedPart rest)

/-- The characters that a backslash and a letter stand for. -/
def escapes : List (Char × Char) :=
  [('0', '\x00'), ('a', '\x07'), ('b', '\x08'), ('t', '\t'), ('\t', '\t'), ('n', '\n'),
    ('v', '\x0b'), ('f', '\x0c'), ('r', '\r'), ('e', '\x1b'), (' ', ' '), ('"', '"'), ('/', '/'),
    ('\\', '\\'), ('N', '\x85'), ('_', '\xa0'), ('L', '\u2028'), ('P', '\u2029')]

/-- The letters after which a character is spelled by its number, and the count of its digits. -/
def codeLengths : List (Char × Nat) := [('x', 2), ('u', 4), ('U', 8)]

/-- The character that hexadecimal digits number. -/
def charOfHex? (digits : List Char) : Option Char :=
  ((Radix.ofDigits? 16 digits).filter fun code => code.isValidChar).map Char.ofNat

/-- An escaped character, and the number of characters that spell it after the backslash. -/
def escaped? : List Char → Option (Char × Nat)
  | [] => none
  | c :: rest =>
    match escapes.lookup c, codeLengths.lookup c with
    | some char, _ => some (char, 1)
    | none, some count =>
      if rest.length < count then none
      else (charOfHex? (rest.take count)).map fun char => (char, 1 + count)
    | none, none => none

/-- The part of a line between double quotes. An escaped blank counts also at the end. -/
def doubleQuotedPart? : List Char → Option QuotedPart
  | [] => some ([], .broken false)
  | '"' :: rest => some ([], .closed rest)
  | ['\\'] => some ([], .broken true)
  | c :: rest =>
    if c == '\\' then
      match escaped? rest with
      | none => none
      | some (char, count) =>
        (doubleQuotedPart? (rest.drop count)).map fun (text, ending) => (char :: text, ending)
    else (doubleQuotedPart? rest).map (.cons c)
termination_by cs => cs.length
decreasing_by all_goals (simp only [List.length_cons, List.length_drop]; omega)

/-- Reads a quoted scalar from after its first quote, line by line. -/
def quoted? (part? : List Char → Option QuotedPart) (c : Cursor) : Option (List Char × Cursor) :=
  match part? c.line.chars with
  | none => none
  | some (text, .closed rest) => some (text, c.advance (c.line.chars.length - rest.length))
  | some (text, .broken isEscaped) =>
    let next := c.nextText
    if c.below = [] then none
    else if next.atDocumentEnd then none
    else (quoted? part? next).map fun (others, last) =>
      (text ++ (if isEscaped then c.breaks.drop 1 else fold c.breaks) ++ others, last)
termination_by c.below.length
decreasing_by exact Cursor.length_below_nextText ‹_›

end Quoted

section Block

/-- What becomes of the breaks at the end of a block. -/
inductive Chomping
  | strip
  | clip
  | keep
deriving DecidableEq

/-- What the header of a block asks for. -/
structure BlockHeader where
  isFolded : Bool
  chomping : Chomping := .clip
  /-- The columns by which the block is further in than what it stands in, if it says so. -/
  indent : Option Nat := none

def chompingOf? (c : Char) : Option Chomping :=
  if c == '-' then some .strip else if c == '+' then some .keep else none

def indentOf? (c : Char) : Option Nat :=
  if c.isDigit && c != '0' then some (c.toNat - 48) else none

/-- Reads the header of a block: how its end is chomped and how far it is indented, in either
order, and then at most a comment. -/
def blockHeader? (isFolded : Bool) (cs : List Char) : Option BlockHeader :=
  let (header, rest) : BlockHeader × List Char :=
    match cs with
    | [] => (⟨isFolded, .clip, none⟩, [])
    | c :: rest =>
      match chompingOf? c, indentOf? c with
      | some chomping, _ =>
        match rest.head?.bind indentOf? with
        | some indent => (⟨isFolded, chomping, some indent⟩, rest.drop 1)
        | none => (⟨isFolded, chomping, none⟩, rest)
      | none, some indent =>
        match rest.head?.bind chompingOf? with
        | some chomping => (⟨isFolded, chomping, some indent⟩, rest.drop 1)
        | none => (⟨isFolded, .clip, some indent⟩, rest)
      | none, none => (⟨isFolded, .clip, none⟩, cs)
  if (rest.dropWhile isBlank).head?.all (· == '#') then some header else none

/-- The number of spaces that a line starts with. -/
def leadingSpaces (line : Line) : Nat := (line.chars.takeWhile (· == ' ')).length

/-- The indentation of a block that does not say it: that of its first line with text, or of a
blank line above it that is longer. A tab may not follow it. -/
def detectedIndent? (level : Nat) (lines : List Line) : Option Nat :=
  let blank := lines.takeWhile fun line => line.chars.all (· == ' ')
  let considered := lines.take (blank.length + 1)
  if considered.any fun line => (line.chars.dropWhile (· == ' ')).head? == some '\t' then none
  else some (considered.foldl (fun n line => max n (leadingSpaces line)) (max level 1))

/-- The text of a block from its lines without their indentation. The break before a line is
folded if neither that line nor the one before it starts with a blank. -/
def blockText (header : BlockHeader) (leading : Option Char) (afterBlank : Bool)
    (blankBreaks : List Char) : List Line → List Char
  | [] =>
    (if header.chomping = .strip then [] else leading.toList) ++
      if header.chomping = .keep then blankBreaks else []
  | line :: lines =>
    if line.chars.isEmpty then
      blockText header leading afterBlank (blankBreaks ++ line.ending.toList) lines
    else
      let startsBlank := line.chars.head?.any isBlank
      let joint :=
        if header.isFolded && leading == some '\n' && !afterBlank && !startsBlank then
          if blankBreaks.isEmpty then [' '] else []
        else leading.toList
      joint ++ blankBreaks ++ line.chars ++
        blockText header line.ending startsBlank [] lines

/-- Reads a block from after the sign that says whether it is folded. Tabs in its indentation are
an error. -/
def block? (isFolded : Bool) (level : Nat) (c : Cursor) : Option (List Char × Cursor) := do
  let header ← blockHeader? isFolded c.line.chars
  let indent ← match header.indent with
    | some count => some ((level - 1) + count)
    | none => detectedIndent? level c.below
  let lines := c.below.takeWhile fun line => (line.chars.take indent).all (· == ' ')
  let next := c.skipLines (lines.length + 1)
  if (next.line.chars.take indent).find? (· != ' ') == some '\t' then none
  else
    let body := lines.map fun line => { line with chars := line.chars.drop indent }
    return (blockText header none false [] body, next)

end Block

end Scalar

end FisheryRules.Markup
