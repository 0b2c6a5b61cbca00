import FisheryRules.Text.Lines

/-!
# Template grammars

Rule definitions are rendered to source text through a grammar. A grammar names its parameters
under a header line, then has a preamble, and then a template between a line that names it and a
line that ends it. The template is repeated for every row of cells; a placeholder in it stands for
the cell at the position of its parameter. Cells are never searched for placeholders.

## Main definitions

* `Grammar`, `Grammar.parse` — the type and its reader.
* `Grammar.render` — the preamble, and the template once for every row.
-/
namespace FisheryRules

/-- Why a text is no grammar. -/
inductive GrammarError
  | missingHeader
  | noParameters
  | missingTemplate
  | unterminated (name : String)
  | unknownPlaceholder (name : String)
deriving DecidableEq

def GrammarError.message : GrammarError → String
  | missingHeader => "grammar does not start with a `template header` line"
  | noParameters => "template header declares no parameters"
  | missingTemplate => "grammar declares no `template \"<name>\"` block"
  | unterminated name => s!"template {name} is missing `end template`"
  | unknownPlaceholder name => s!"template body references undeclared parameter `{name}`"

/-- Part of a template. -/
inductive Piece
  | char (c : Char)
  | parameter (position : Nat)
deriving DecidableEq

/-- Parsed grammar. -/
structure Grammar where
  name : String
  parameters : List String
  preamble : List Char
  body : List Piece
deriving DecidableEq

namespace Grammar

/-- The last position of a text in a list. -/
def lastPosition? (name : String) : List String → Option Nat
  | [] => none
  | first :: others =>
    match lastPosition? name others with
    | some position => some (position + 1)
    | none => if first = name then some 0 else none

/-- Cuts a template into pieces, after as many more characters of a placeholder as `pending` says.
A placeholder without an end is text. -/
def piecesFrom (parameters : List String) (pending : Nat) :
    List Char → Except GrammarError (List Piece)
  | [] => .ok []
  | c :: rest =>
    match pending with
    | left + 1 => piecesFrom parameters left rest
    | 0 =>
      if c == '@' && rest.head? == some '\x7b' && rest.contains '\x7d' then
        let name := (rest.drop 1).takeWhile (· != '\x7d')
        match lastPosition? (String.ofList name) parameters with
        | some position =>
          (piecesFrom parameters (name.length + 2) rest).map (.parameter position :: ·)
        | none => .error (.unknownPlaceholder (String.ofList name))
      else (piecesFrom parameters 0 rest).map (.char c :: ·)

/-- The text between the quotes of a line that starts a template. -/
def templateName? (line : List Char) : Option (List Char) := do
  let rest ← Text.after? "template " (Text.trim line)
  match Text.trim rest with
  | '"' :: quoted => if quoted.getLast? == some '"' then some quoted.dropLast else none
  | _ => none

/-- Lines, each with a line feed after it. -/
def unlines (lines : List (List Char)) : List Char := lines.flatMap (· ++ ['\n'])

def isBlankLine (line : List Char) : Bool := (Text.trim line).isEmpty

/-- The lines of a template up to the one that ends it. -/
def bodyLines? : List (List Char) → Option (List (List Char))
  | [] => none
  | line :: others =>
    if Text.trim line == "end template".toList then some []
    else (bodyLines? others).map (line :: ·)

/-- The lines before the one that starts a template, the name of the template, and the lines
after it. -/
def splitTemplate? : List (List Char) → Option (List (List Char) × List Char × List (List Char))
  | [] => none
  | line :: others =>
    match templateName? line with
    | some name => some ([], name, others)
    | none => (splitTemplate? others).map fun (before, name, after) => (line :: before, name, after)

/-- The lines from the header on. -/
def afterHeader? (text : List Char) : Option (List (List Char)) :=
  match (Text.lines text).dropWhile isBlankLine with
  | header :: others =>
    if Text.trim header == "template header".toList then some others else none
  | [] => none

/-- Reads a grammar. -/
def parse (text : String) : Except GrammarError Grammar := do
  let some lines := afterHeader? text.toList | throw .missingHeader
  let parameters := (lines.takeWhile (!isBlankLine ·)).map fun line =>
    String.ofList (Text.trim line)
  if parameters.isEmpty then throw .noParameters
  let some (preamble, name, lines) := splitTemplate? ((lines.dropWhile (!isBlankLine ·)).drop 1)
    | throw .missingTemplate
  let some body := bodyLines? lines | throw (.unterminated (String.ofList name))
  return {
    name := String.ofList name
    parameters
    preamble := unlines preamble
    body := ← piecesFrom parameters 0 (unlines body) }

/-- What a piece stands for in a row. A row that is too short has empty cells. -/
def renderPiece (row : List (List Char)) : Piece → List Char
  | .char c => [c]
  | .parameter position => row.getD position []

/-- The preamble, and the template once for every row. -/
def render (grammar : Grammar) (rows : List (List (List Char))) : List Char :=
  grammar.preamble ++ rows.flatMap fun row => grammar.body.flatMap (renderPiece row)

end Grammar

end FisheryRules
