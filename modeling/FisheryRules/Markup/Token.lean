/-!
# Tokens of markup

A markup document shows its structure by indentation, as blocks, or by brackets, as flows. Both
become tokens that say where a collection starts and ends, so that a reader of tokens need not
count columns.
-/
namespace FisheryRules.Markup

/-- Lexical unit of a markup text. -/
inductive Token
  | documentStart
  | documentEnd
  | blockSequenceStart
  | blockMappingStart
  | blockEnd
  | flowSequenceStart
  | flowSequenceEnd
  | flowMappingStart
  | flowMappingEnd
  /-- The dash before an item of a block. -/
  | blockEntry
  /-- The comma between the entries of a flow. -/
  | flowEntry
  /-- A key follows. -/
  | key
  /-- The value of a key follows. -/
  | value
  /-- A scalar, which is plain unless it is quoted or a block of its own. -/
  | scalar (isPlain : Bool) (text : String)
  | textEnd
deriving DecidableEq

end FisheryRules.Markup
