import FisheryRules.Number.Decimal
import FisheryRules.Number.Shortest
import FisheryRules.Rule.Definition
import FisheryRules.Text.Letter
import FisheryRules.Text.Quoted

/-!
# Tokens of conditions

A condition is read as a list of tokens: words, texts in single or double quotes, numbers,
comparisons, connectives and punctuation, with blanks between them where needed. The words `and`,
`or` and `not` are connectives in any letter case.

## Main definitions

* `Token` — the tokens.
* `Token.scan` — the tokens of a text, or the first flaw in it with its offset in characters.
-/
namespace FisheryRules

/-- Lexical unit of a condition. -/
inductive Token
  | word (name : String)
  | text (value : String)
  | number (value : Binary64)
  | compare (op : CompareOp)
  | and
  | or
  | not
  | openParen
  | closeParen
  | comma
deriving DecidableEq

/-- What is wrong with a text that does not consist of tokens. -/
inductive ScanError
  | unexpectedCharacter (c : Char) (offset : Nat)
  | unterminatedText (offset : Nat)
  | invalidNumber (raw : String)
deriving DecidableEq

def ScanError.message : ScanError → String
  | unexpectedCharacter c offset => s!"unexpected character `{c}` at offset {offset}"
  | unterminatedText offset => s!"unterminated string starting at offset {offset}"
  | invalidNumber raw => s!"invalid number `{raw}`"

namespace Token

/-- The token as it is shown in messages. -/
def toText : Token → String
  | word name => name
  | text value => "\"" ++ value ++ "\""
  | number value => value.toText
  | compare op => op.symbol
  | and => "&&"
  | or => "||"
  | not => "!"
  | openParen => "("
  | closeParen => ")"
  | comma => ","

/-- A word, which may name a connective. -/
def ofWord (cs : List Char) : Token :=
  let lower := String.ofList (Text.asciiLower cs)
  if lower == "and" then and
  else if lower == "or" then or
  else if lower == "not" then not
  else word (String.ofList cs)

def startsWord (c : Char) : Bool := Text.isAlphabetic c || c == '_'

def continuesWord (c : Char) : Bool := Text.isAlphanumeric c || c == '_'

def continuesNumber (c : Char) : Bool := c.isDigit || c == '.'

/-- The token that starts with the character `c`, which is not blank, and the number of characters
of `rest` that belong to it. -/
def lexeme (offset : Nat) (c : Char) (rest : List Char) : Except ScanError (Token × Nat) :=
  let next := rest.head?
  if c == '(' then .ok (openParen, 0)
  else if c == ')' then .ok (closeParen, 0)
  else if c == ',' then .ok (comma, 0)
  else if c == '&' && next == some '&' then .ok (and, 1)
  else if c == '|' && next == some '|' then .ok (or, 1)
  else if c == '=' && next == some '=' then .ok (compare .eq, 1)
  else if c == '!' && next == some '=' then .ok (compare .ne, 1)
  else if c == '!' then .ok (not, 0)
  else if c == '>' then
    if next == some '=' then .ok (compare .ge, 1) else .ok (compare .gt, 0)
  else if c == '<' then
    if next == some '=' then .ok (compare .le, 1) else .ok (compare .lt, 0)
  else if c == '"' || c == '\'' then
    match Text.readQuoted c rest with
    | some (value, width) => .ok (text (String.ofList value), width)
    | none => .error (.unterminatedText offset)
  else if c.isDigit || (c == '-' && next.any Char.isDigit) then
    let raw := c :: rest.takeWhile continuesNumber
    match Decimal.plain? raw with
    | some value => .ok (number value.toBinary64, raw.length - 1)
    | none => .error (.invalidNumber (String.ofList raw))
  else if startsWord c then
    let cs := c :: rest.takeWhile continuesWord
    .ok (ofWord cs, cs.length - 1)
  else .error (.unexpectedCharacter c offset)

/-- The tokens of a text from an offset on, after as many more characters of the token before as
`pending` says. -/
def scanFrom (pending offset : Nat) : List Char → Except ScanError (List Token)
  | [] => .ok []
  | c :: rest =>
    match pending with
    | left + 1 => scanFrom left (offset + 1) rest
    | 0 =>
      if Text.isBlank c then scanFrom 0 (offset + 1) rest
      else
        match lexeme offset c rest with
        | .error e => .error e
        | .ok (token, width) => (scanFrom width (offset + 1) rest).map (token :: ·)

/-- The tokens of a text. -/
def scan (cs : List Char) : Except ScanError (List Token) := scanFrom 0 0 cs

end Token

end FisheryRules
