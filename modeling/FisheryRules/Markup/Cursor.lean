/-!
# Places in a markup text

A markup text is read line by line. A cursor is a place in it: what is left of a line, and the
lines below.

## Main definitions

* `Line`, `Line.split` — a line with the break that ends it, and the lines of a text.
* `Cursor`, `Cursor.advance`, `Cursor.skipLines` — a place, and the places after it.
* `Cursor.nextText`, `Cursor.breaks` — the next text below, and the breaks on the way to it.
-/
namespace FisheryRules.Markup

def isBlank (c : Char) : Bool := c == ' ' || c == '\t'

/-- The characters that break a line, besides a carriage return and a line feed in one. -/
def isBreak (c : Char) : Bool :=
  c == '\n' || c == '\r' || c == '\x85' || c == '\u2028' || c == '\u2029'

/-- A break as it counts in a scalar: the two separators of Unicode stand for themselves, any
other break for a line feed. -/
def breakText (c : Char) : Char := if c == '\u2028' || c == '\u2029' then c else '\n'

/-- A line, or what is left of it, and the break that ends it. The last line has none. -/
structure Line where
  chars : List Char := []
  ending : Option Char := none

namespace Line

/-- The lines of a text. -/
def split : List Char → List Line
  | [] => [{}]
  | '\r' :: '\n' :: rest => { ending := some '\n' } :: split rest
  | c :: rest =>
    if isBreak c then { ending := some (breakText c) } :: split rest
    else
      match split rest with
      | [] => [{ chars := [c] }]
      | line :: others => { line with chars := c :: line.chars } :: others

end Line

/-- Place in a text. -/
structure Cursor where
  /-- What is left of the line. -/
  line : Line
  below : List Line
  /-- The number of lines above. -/
  number : Nat := 0
  /-- The number of characters before the place on its line. -/
  column : Nat := 0
  /-- The number of bytes before the place on its line. -/
  offset : Nat := 0

namespace Cursor

/-- The start of a text. -/
def ofText (cs : List Char) : Cursor :=
  match Line.split cs with
  | [] => ⟨{}, [], 0, 0, 0⟩
  | line :: below => { line, below }

def atLineEnd (c : Cursor) : Bool := c.line.chars.isEmpty

def atEnd (c : Cursor) : Bool := c.atLineEnd && c.below.isEmpty

/-- The place some characters further on the line. -/
def advance (c : Cursor) (count : Nat) : Cursor :=
  { c with
    line := { c.line with chars := c.line.chars.drop count }
    column := c.column + count
    offset := (c.line.chars.take count).foldl (fun n char => n + char.utf8Size) c.offset }

/-- The place after all characters of a class. -/
def skipWhile (c : Cursor) (p : Char → Bool) : Cursor :=
  c.advance (c.line.chars.takeWhile p).length

/-- The place after the text of the line. -/
def lineEnd (c : Cursor) : Cursor := c.advance c.line.chars.length

/-- The start of a line below, counted from this one, or the end of the text. -/
def skipLines (c : Cursor) : (count : Nat) → Cursor
  | 0 => c
  | count + 1 =>
    match c.below with
    | [] => c.lineEnd
    | line :: below => skipLines { line, below, number := c.number + 1 } count

theorem below_advance (c : Cursor) (count : Nat) : (c.advance count).below = c.below := rfl

theorem below_skipLines (c : Cursor) (count : Nat) :
    (c.skipLines count).below = c.below.drop count := by
  fun_induction skipLines c count <;> simp_all [lineEnd, below_advance]

theorem length_below_skipLines_succ {c : Cursor} (h : c.below ≠ []) (count : Nat) :
    (c.skipLines (count + 1)).below.length < c.below.length := by
  have := List.length_pos_iff.2 h
  rw [below_skipLines, List.length_drop]
  omega

/-- Whether the line starts with three of a character and then ends or goes on with a blank: such
a line stands between documents. -/
def isDocumentMark (c : Cursor) (mark : Char) : Bool :=
  c.column == 0 && c.line.chars.take 3 == [mark, mark, mark] &&
    (c.line.chars.drop 3).head?.all isBlank

/-- Whether the text, or a document in it, ends here. -/
def atDocumentEnd (c : Cursor) : Bool :=
  c.atEnd || c.isDocumentMark '-' || c.isDocumentMark '.'

/-- The lines below up to the first that is not blank. -/
def blankLines (c : Cursor) : List Line := c.below.takeWhile fun line => line.chars.all isBlank

/-- The first place below that is neither blank nor a break. -/
def nextText (c : Cursor) : Cursor :=
  (c.skipLines (c.blankLines.length + 1)).skipWhile isBlank

/-- The breaks between the line and the next text. -/
def breaks (c : Cursor) : List Char := (c.line :: c.blankLines).filterMap (·.ending)

/-- Whether a tab stands to the left of a column on the way to the next text. -/
def hasTabBefore (c : Cursor) (column : Nat) : Bool :=
  (c.below.take (c.blankLines.length + 1)).any fun line =>
    ((line.chars.takeWhile isBlank).take column).contains '\t'

theorem length_below_nextText {c : Cursor} (h : c.below ≠ []) :
    c.nextText.below.length < c.below.length :=
  length_below_skipLines_succ h _

end Cursor

end FisheryRules.Markup
