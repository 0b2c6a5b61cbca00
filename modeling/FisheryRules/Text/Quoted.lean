/-!
# Quoted text

A text written as a string literal of the condition language. The quote and the backslash are
written after a backslash and line breaks as letters after one, so that a literal stays on one
line.

## Main definitions

* `quote`, `quoteChars` — the literal of a text.
* `readQuoted` — the text of a literal, from after its opening quote.
-/
namespace FisheryRules.Text

/-- The spelling of one character inside a literal. -/
def escape (c : Char) : List Char :=
  if c == '"' || c == '\\' then ['\\', c]
  else if c == '\n' then ['\\', 'n']
  else if c == '\r' then ['\\', 'r']
  else [c]

/-- The literal of a text. -/
def quoteChars (cs : List Char) : List Char := '"' :: cs.flatMap escape ++ ['"']

/-- The literal of a text. -/
def quote (s : String) : String := String.ofList (quoteChars s.toList)

/-- The character that a backslash and `c` stand for. -/
def unescape (c : Char) : Char :=
  if c == 'n' then '\n' else if c == 'r' then '\r' else if c == 't' then '\t' else c

/-- Reads a literal from after its opening quote up to the same quote, which no backslash
precedes. Gives the text and the number of characters read; nothing when the literal does not
end. A backslash at the very end stands for itself. -/
def readQuoted (delimiter : Char) : List Char → Option (List Char × Nat)
  | [] => none
  | '\\' :: c :: rest => (readQuoted delimiter rest).map fun (text, width) =>
      (unescape c :: text, width + 2)
  | c :: rest =>
    if c == delimiter then some ([], 1)
    else (readQuoted delimiter rest).map fun (text, width) => (c :: text, width + 1)

end FisheryRules.Text
