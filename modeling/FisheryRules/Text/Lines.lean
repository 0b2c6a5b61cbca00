import FisheryRules.Text.Blank

/-!
# Lines and pieces

Cutting a text at the characters of a class, reading it line by line, and folding it onto one
line.

## Main definitions

* `pieces` — the texts between the breaks, one more than there are breaks.
* `lines` — the lines of a text, whose last one needs no line feed.
* `fold` — the lines of a text, trimmed and joined by one blank.
-/
namespace FisheryRules.Text

/-- The texts between the characters at which `isBreak` holds. -/
def pieces (isBreak : Char → Bool) : List Char → List (List Char)
  | [] => [[]]
  | c :: cs =>
    if isBreak c then [] :: pieces isBreak cs
    else
      match pieces isBreak cs with
      | [] => [[c]]
      | first :: others => (c :: first) :: others

/-- A line that a line feed ended, without the carriage return before the line feed. -/
def dropReturn (line : List Char) : List Char :=
  match line.getLast? with
  | some '\r' => line.dropLast
  | _ => line

/-- The lines among the pieces between line feeds: an empty last piece is no line. -/
def linesOf : List (List Char) → List (List Char)
  | [] => []
  | [last] => if last.isEmpty then [] else [last]
  | line :: others => dropReturn line :: linesOf others

/-- The lines of a text. Each but the last has lost its line feed and one carriage return. -/
def lines (cs : List Char) : List (List Char) := linesOf (pieces (· == '\n') cs)

/-- Whether a character starts a new line. -/
def isLineBreak (c : Char) : Bool := c == '\n' || c == '\r'

/-- Joins texts with a separator between neighbours. -/
def joinWith (separator : List Char) : List (List Char) → List Char
  | [] => []
  | [last] => last
  | first :: others => first ++ separator ++ joinWith separator others

/-- Folds a text onto one line: its lines, trimmed, without the empty ones, one blank apart. -/
def fold (cs : List Char) : List Char :=
  joinWith [' '] (((pieces isLineBreak cs).map trim).filter (!·.isEmpty))

/-- What follows `start` in a text that begins with it. -/
def after? (start : String) (cs : List Char) : Option (List Char) :=
  start.toList.isPrefixOf? cs

/-- Whether two texts agree up to the case of ASCII letters. -/
def sameIgnoringCase (a b : String) : Bool :=
  a.toList.map Char.toLower == b.toList.map Char.toLower

/-- The text with its ASCII letters in upper case. -/
def asciiUpper (cs : List Char) : List Char := cs.map Char.toUpper

/-- The text with its ASCII letters in lower case. -/
def asciiLower (cs : List Char) : List Char := cs.map Char.toLower

end FisheryRules.Text
