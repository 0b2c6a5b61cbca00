import FisheryRules.RuleSet.Flaw

/-!
# Rules as source text

A source holds rules, each from a line that names it to a line that ends it:

    rule "<name>"
        on <fact type>
        when <condition, on any number of lines>
        then
            <consequences, one a line>
    end

Blank lines and lines that start with `#` do not count. A rule without an end reaches up to the
next rule.

## Main definitions

* `RuleText`, `RuleText.split` — a rule as its lines, and the rules of a source.
* `RuleText.clauses` — the fact type, the condition and the consequences of a rule.
-/
namespace FisheryRules

namespace Text

/-- The text between the first and the last double quote, or all of it when there are no two. -/
def unquote (cs : List Char) : List Char :=
  let cs := trim cs
  match cs.dropWhile (· != '"') with
  | '"' :: rest =>
    if rest.contains '"' then ((rest.reverse.dropWhile (· != '"')).drop 1).reverse else cs
  | _ => cs

/-- What follows a keyword in a line that starts with it, without the blanks at both ends. -/
def afterKeyword? (word : String) (line : List Char) : Option (List Char) :=
  match after? word line with
  | some rest => if rest.head?.all isBlank then some (trim rest) else none
  | none => none

/-- Whether a trimmed line is empty or a comment. -/
def isVoid (line : List Char) : Bool := line.isEmpty || line.head? == some '#'

end Text

/-- Rule of a source: its name, the trimmed lines after the one that names it, and whether a line
ends it. -/
structure RuleText where
  name : List Char
  lines : List (List Char) := []
  ended : Bool := false
deriving DecidableEq

/-- What a rule consists of. -/
structure Clauses where
  factType : FactType
  condition : List Char
  consequences : List (List Char)
deriving DecidableEq

namespace RuleText

/-- The name in a trimmed line that starts a rule. -/
def header? (line : List Char) : Option (List Char) :=
  (Text.after? "rule " line).map Text.unquote

/-- Splits lines into rules. `number` is the number of the first line, and `current` the rule that
is open before it. -/
def splitFrom (number : Nat) (current : Option RuleText) :
    List (List Char) → Except SourceError (List RuleText)
  | [] => .ok current.toList
  | line :: others =>
    let line := Text.trim line
    match header? line, current with
    | some name, current => (splitFrom (number + 1) (some ⟨name, [], false⟩) others).map
        (current.toList ++ ·)
    | none, some rule =>
      if line == "end".toList then
        (splitFrom (number + 1) none others).map ({ rule with ended := true } :: ·)
      else splitFrom (number + 1) (some { rule with lines := rule.lines ++ [line] }) others
    | none, none =>
      if Text.isVoid line || "package ".toList.isPrefixOf line then
        splitFrom (number + 1) none others
      else .error ⟨number, s!"expected `rule \"<name>\"`, found `{String.ofList line}`"⟩

/-- The rules of a source. Between rules there may be blank lines, comments and a line that names
the package; nothing else. -/
def split (source : List Char) : Except SourceError (List RuleText) :=
  splitFrom 1 none (Text.lines source)

/-- Reads the lines of a condition up to the one that ends it: the condition, and the consequences
after it. -/
def readCondition (condition : List Char) :
    List (List Char) → Except RuleFlaw (List Char × List (List Char))
  | [] => .error .noClause
  | line :: others =>
    match Text.afterKeyword? "then" line with
    | some [] => .ok (condition, others)
    | some rest => .ok (condition, rest :: others)
    | none => readCondition (condition ++ ' ' :: line) others

/-- Reads the lines from the start of a rule. The last fact type that is named counts. -/
def readHead (factType : Option FactType) :
    List (List Char) → Except RuleFlaw (Option FactType × List Char × List (List Char))
  | [] => .error .noClause
  | line :: others =>
    match Text.after? "on " line with
    | some rest =>
      let name := String.ofList (Text.trim rest)
      match FactType.parse? name with
      | some type => readHead (some type) others
      | none => .error (.unknownFactType name)
    | none =>
      match Text.afterKeyword? "when" line with
      | some condition => (readCondition condition others).map (factType, ·)
      | none => .error (.unexpectedLine (String.ofList line))

/-- The parts of a rule. -/
def clauses (rule : RuleText) : Except RuleFlaw Clauses := do
  if !rule.ended then throw .missingEnd
  let (factType, condition, consequences) ←
    readHead none (rule.lines.filter (!Text.isVoid ·))
  let some factType := factType | throw .noFactType
  if (Text.trim condition).isEmpty then throw .emptyCondition
  return { factType, condition, consequences }

end RuleText

end FisheryRules
