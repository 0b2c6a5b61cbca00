import FisheryRules.Condition.Basic

/-!
# Reading conditions

Tokens are read by recursive descent:

    disjunction := conjunction ("||" conjunction)*
    conjunction := unary ("&&" unary)*
    unary       := "!" unary | comparison
    comparison  := operand (op operand)?
    operand     := "(" disjunction ")" | text | number | "null" | "true" | "false" | field | call
    call        := "now" "(" ")" | "isPresentInList" "(" text "," disjunction ")"

Parentheses, negations and list look-ups together may nest up to `maxNesting` levels. The number
of levels left is what the recursion descends on: a reader with no level left refuses to nest, and
a reader with one more level nests readers of the level below.

## Main definitions

* `Condition.unary`, `Condition.disjunction` — the readers.
* `Condition.ofTokens` — reads all tokens as one condition.
-/
namespace FisheryRules

/-- Why tokens are not a condition. -/
inductive ParseError
  | expected (wanted : Token) (found : Option Token)
  | unexpected (found : Option Token)
  | trailing (found : Token)
  | nestsTooDeep
  | listNameExpected
  | unknownFunction (name : String)
  | unknownField (factType : FactType) (name : String)
deriving DecidableEq

namespace Condition

/-- Deepest nesting of parentheses, negations and list look-ups. -/
def maxNesting : Nat := 64

end Condition

def ParseError.message : ParseError → String
  | expected wanted (some found) => s!"expected `{wanted.toText}`, found `{found.toText}`"
  | expected wanted none => s!"expected `{wanted.toText}`, found end of expression"
  | unexpected (some found) => s!"unexpected `{found.toText}`"
  | unexpected none => "unexpected end of expression"
  | trailing found => s!"unexpected `{found.toText}` after end of expression"
  | nestsTooDeep => s!"expression nests deeper than {Condition.maxNesting} levels"
  | listNameExpected => "isPresentInList expects a list name as first argument"
  | unknownFunction name => s!"unknown function `{name}`"
  | unknownField factType name => s!"unknown field `{name}` on {factType.name}"

/-- Reads something from the front of a list of tokens. -/
abbrev TokenReader (α : Type) := List Token → Except ParseError (α × List Token)

namespace Condition

/-- Reads one given token. -/
def expect (wanted : Token) : TokenReader Unit
  | [] => .error (.expected wanted none)
  | found :: rest => if found = wanted then .ok ((), rest) else .error (.expected wanted found)

/-- Reads a separator and an item as often as a separator comes next, at most `bound` times. -/
def more {α : Type} (separator : Token) (item : TokenReader α) :
    (bound : Nat) → TokenReader (List α)
  | 0, tokens => .ok ([], tokens)
  | _ + 1, [] => .ok ([], [])
  | bound + 1, token :: rest =>
    if token = separator then do
      let (first, rest) ← item rest
      let (others, rest) ← more separator item bound rest
      return (first :: others, rest)
    else .ok ([], token :: rest)

/-- Reads items with separators between them. Every separator is a token, so there are no more of
them than tokens. -/
def chain {α : Type} (separator : Token) (item : TokenReader α) : TokenReader (List α) :=
  fun tokens => do
    let (first, rest) ← item tokens
    let (others, rest) ← more separator item rest.length rest
    return (first :: others, rest)

/-- A chain of one operand is that operand. -/
def ofChain (connect : List Condition → Condition) : List Condition → Condition
  | [single] => single
  | operands => connect operands

def conjunction (unary : TokenReader Condition) : TokenReader Condition := fun tokens => do
  let (operands, rest) ← chain .and unary tokens
  return (ofChain and operands, rest)

/-- Reads conjunctions of what `unary` reads. -/
def disjunction (unary : TokenReader Condition) : TokenReader Condition := fun tokens => do
  let (operands, rest) ← chain .or (conjunction unary) tokens
  return (ofChain or operands, rest)

/-- Reads the arguments of a call and the closing parenthesis; `nested` reads the looked-up
value. -/
def call (nested : TokenReader Condition) (name : String) : TokenReader Condition := fun tokens =>
  if name = "now" then do
    let ((), rest) ← expect .closeParen tokens
    return (now, rest)
  else if name = "isPresentInList" then
    match tokens with
    | .text list :: rest => do
      let ((), rest) ← expect .comma rest
      let (value, rest) ← nested rest
      let ((), rest) ← expect .closeParen rest
      return (inList list value, rest)
    | _ => .error .listNameExpected
  else .error (.unknownFunction name)

/-- Reads what a word starts: a constant, a call or a field. -/
def named (factType : FactType) (nested : TokenReader Condition) (name : String) :
    TokenReader Condition := fun tokens =>
  if name = "null" then .ok (literal .null, tokens)
  else if name = "true" then .ok (literal (.bool true), tokens)
  else if name = "false" then .ok (literal (.bool false), tokens)
  else
    match tokens with
    | .openParen :: rest => call nested name rest
    | _ =>
      match factType.field? name with
      | some ref => .ok (field ref, tokens)
      | none => .error (.unknownField factType name)

/-- Reads an operand; `nested` reads what stands in parentheses. -/
def operand (factType : FactType) (nested : TokenReader Condition) : TokenReader Condition
  | .openParen :: rest => do
    let (inner, rest) ← nested rest
    let ((), rest) ← expect .closeParen rest
    return (inner, rest)
  | .text value :: rest => .ok (literal (.text value), rest)
  | .number value :: rest => .ok (literal (.number value), rest)
  | .word name :: rest => named factType nested name rest
  | token :: _ => .error (.unexpected token)
  | [] => .error (.unexpected none)

/-- Reads one operand, or two with a comparison between them. -/
def comparison (operand : TokenReader Condition) : TokenReader Condition := fun tokens => do
  let (left, rest) ← operand tokens
  match rest with
  | .compare op :: rest =>
    let (right, rest) ← operand rest
    return (compare op left right, rest)
  | _ => return (left, rest)

/-- Reads a negation of what `negated` reads, or a comparison. -/
def unaryWith (factType : FactType) (negated nested : TokenReader Condition) :
    TokenReader Condition
  | .not :: rest => do
    let (inner, rest) ← negated rest
    return (not inner, rest)
  | tokens => comparison (operand factType nested) tokens

/-- Refuses to nest. -/
def tooDeep : TokenReader Condition := fun _ => .error .nestsTooDeep

/-- Reads a negation or a comparison that nests at most `levels` levels. -/
def unary (factType : FactType) : (levels : Nat) → TokenReader Condition
  | 0 => unaryWith factType tooDeep tooDeep
  | levels + 1 =>
    unaryWith factType (unary factType levels) (disjunction (unary factType levels))

/-- Reads all tokens as one condition. -/
def ofTokens (factType : FactType) (tokens : List Token) : Except ParseError Condition := do
  let (condition, rest) ← disjunction (unary factType maxNesting) tokens
  match rest with
  | [] => return condition
  | token :: _ => throw (.trailing token)

end Condition

end FisheryRules
