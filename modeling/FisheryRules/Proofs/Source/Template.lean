import FisheryRules.Proofs.Text.Lines
import FisheryRules.RuleSet.Compiler

/-!
# What the bundled grammars write

Every bundled grammar reads. Its preamble consists of lines that do not count in a source, and it
writes a row of cells as the lines of one rule, with the cells in them as they are.
-/
namespace FisheryRules

/-- The lines of a rule in a source. -/
def RuleText.written (name : List Char) (factType : FactType) (condition : List Char)
    (consequences : List (List Char)) : List (List Char) :=
  ["rule ".toList ++ Text.quoted name, "    on ".toList ++ factType.name.toList,
    "    when ".toList ++ condition, "    then".toList]
    ++ consequences.map ("        ".toList ++ ·) ++ ["end".toList, []]

/-- The line that gives a text for a part of an effect. -/
def EffectPart.directive (part : EffectPart) (text : List Char) : List Char :=
  part.keyword.toList ++ ' ' :: Text.quoted text

/-- Whether a line stands between rules without a meaning. -/
def RuleText.skipped (line : List Char) : Bool :=
  Text.isVoid (Text.trim line) || "package ".toList.isPrefixOf (Text.trim line)

namespace Grammar

theorem unlines_append (front back : List (List Char)) :
    unlines (front ++ back) = unlines front ++ unlines back := List.flatMap_append

/-- The grammar puts lines without a meaning before the rules, and writes a row as a rule: its
first cell is the name and its second one the condition. -/
structure Writes (grammar : Grammar) (factType : FactType)
    (consequences : Row → List (List Char)) : Prop where
  preamble : ∃ lines, grammar.preamble = unlines lines ∧
    ∀ line ∈ lines, Text.OneLine line ∧ RuleText.header? (Text.trim line) = none ∧
      RuleText.skipped line = true
  row : ∀ row, grammar.body.flatMap (renderPiece row) =
    unlines (RuleText.written (row.getD 0 []) factType (row.getD 1 []) (consequences row))

/-- A text without placeholders, as pieces. -/
def literally (text : List Char) : List Piece := text.map .char

theorem flatMap_literally (row : Row) (text : List Char) :
    (literally text).flatMap (renderPiece row) = text := by
  induction text with
  | nil => rfl
  | cons c text ih => simpa [literally, renderPiece] using ih

end Grammar

namespace Bundled

theorem textOf_toList (lines : List String) :
    (textOf lines).toList = Grammar.unlines (lines.map String.toList) := by
  simp [textOf, Grammar.unlines, String.toList_join, List.flatMap_map]

/-! ## Business rules -/

/-- The lines before the business rules on one type of fact. -/
def businessPreamble : FactType → List String
  | .rawMovement => ["# Business rules validating raw movement reports.",
      "package fishwatch.business.raw_movement", ""]
  | .movement => ["# Business rules validating enriched movements.",
      "package fishwatch.business.movement", ""]
  | .salesPrice => ["# Business rules validating sales note prices.",
      "package fishwatch.business.sales_price", ""]
  | .fishingActivity => ["# Business rules validating logbook fishing activities.",
      "package fishwatch.business.fishing_activity", ""]

/-- The lines of the bundled grammar of the business rules on one type of fact. -/
def businessLines (factType : FactType) : List String :=
  ["template header", "brId", "expression", "message", "errorType", "level", "propertyNames", ""]
    ++ businessPreamble factType
    ++ ["template \"" ++ factType.name ++ "Rules\"",
      "rule \"@\x7bbrId\x7d\"",
      "    on " ++ factType.name,
      "    when @\x7bexpression\x7d",
      "    then",
      "        errorType \"@\x7berrorType\x7d\"",
      "        level \"@\x7blevel\x7d\"",
      "        message \"@\x7bmessage\x7d\"",
      "        fieldPath \"@\x7bpropertyNames\x7d\"",
      "end",
      "",
      "end template"]

theorem bundledText_eq_textOf (factType : FactType) :
    Compiler.bundledText factType = textOf (businessLines factType) := by
  cases factType <;> rfl

open Grammar in
/-- The bundled grammar of the business rules on one type of fact. -/
def businessGrammar (factType : FactType) : Grammar where
  name := factType.name ++ "Rules"
  parameters := ["brId", "expression", "message", "errorType", "level", "propertyNames"]
  preamble := unlines ((businessPreamble factType).map String.toList)
  body :=
    literally "rule \"".toList ++ Piece.parameter 0
      :: literally ("\"\n    on ".toList ++ factType.name.toList ++ "\n    when ".toList)
      ++ Piece.parameter 1 :: literally "\n    then\n        errorType \"".toList
      ++ Piece.parameter 3 :: literally "\"\n        level \"".toList
      ++ Piece.parameter 4 :: literally "\"\n        message \"".toList
      ++ Piece.parameter 2 :: literally "\"\n        fieldPath \"".toList
      ++ Piece.parameter 5 :: literally "\"\nend\n\n".toList

/-- What a business rule asks for: an outcome. -/
def businessConsequences (row : Row) : List (List Char) :=
  [EffectPart.errorType.directive (row.getD 3 []), EffectPart.level.directive (row.getD 4 []),
    EffectPart.message.directive (row.getD 2 []), EffectPart.fieldPath.directive (row.getD 5 [])]

theorem parse_bundledText (factType : FactType) :
    Grammar.parse (Compiler.bundledText factType) = .ok (businessGrammar factType) := by
  rw [Grammar.parse, bundledText_eq_textOf, textOf_toList]
  cases factType <;>
    simp only [businessLines, businessGrammar, businessPreamble, FactType.name, List.cons_append,
      List.nil_append, List.map_cons, List.map_nil, String.reduceAppend, String.reduceToList] <;>
    decide +kernel

theorem businessGrammar_writes (factType : FactType) :
    (businessGrammar factType).Writes factType businessConsequences where
  preamble := by
    refine ⟨(businessPreamble factType).map String.toList, rfl, ?_⟩
    cases factType <;>
      simp only [businessPreamble, List.map_cons, List.map_nil, String.reduceToList] <;>
      decide
  row row := by
    simp [businessGrammar, RuleText.written, businessConsequences, EffectPart.directive,
      EffectPart.keyword, Text.quoted, Grammar.unlines, Grammar.flatMap_literally,
      Grammar.renderPiece]

/-! ## Sanity rules and custom rules -/

open Grammar in
/-- The bundled grammar of sanity rules. -/
def sanityGrammar : Grammar where
  name := "SanityRules"
  parameters := ["name", "expression"]
  preamble := unlines ["# Validity checks applied to raw movement reports.".toList,
    "package fishwatch.sanity".toList, []]
  body :=
    literally "rule \"".toList
      ++ Piece.parameter 0 :: literally "\"\n    on RawMovement\n    when ".toList
      ++ Piece.parameter 1 :: literally "\n    then\n        alarm\nend\n\n".toList

theorem parse_sanityText : Grammar.parse sanityText = .ok sanityGrammar := by
  rw [Grammar.parse, sanityText, textOf_toList]
  simp only [List.map_cons, List.map_nil, sanityGrammar, String.reduceToList]
  decide +kernel

/-- What a sanity rule asks for: an alarm. -/
def sanityConsequences (_ : Row) : List (List Char) := ["alarm".toList]

theorem sanityGrammar_writes : sanityGrammar.Writes .rawMovement sanityConsequences where
  preamble := by
    refine ⟨_, rfl, ?_⟩
    simp only [String.reduceToList]
    decide
  row row := by
    simp [sanityGrammar, RuleText.written, sanityConsequences, FactType.name, Text.quoted,
      Grammar.unlines, Grammar.flatMap_literally, Grammar.renderPiece]

open Grammar in
/-- The bundled grammar of custom rules. -/
def customGrammar : Grammar where
  name := "CustomRules"
  parameters := ["name", "expression", "action", "guid"]
  preamble := unlines ["# User defined rules evaluated against enriched movements.".toList,
    "package fishwatch.custom".toList, []]
  body :=
    literally "rule \"".toList
      ++ Piece.parameter 0 :: literally "\"\n    on Movement\n    when ".toList
      ++ Piece.parameter 1 :: literally "\n    then\n        ruleGuid \"".toList
      ++ Piece.parameter 3 :: literally "\"\n        actions \"".toList
      ++ Piece.parameter 2 :: literally "\"\nend\n\n".toList

theorem parse_customText : Grammar.parse customText = .ok customGrammar := by
  rw [Grammar.parse, customText, textOf_toList]
  simp only [List.map_cons, List.map_nil, customGrammar, String.reduceToList]
  decide +kernel

/-- What a custom rule asks for: its actions, under its guid. -/
def customConsequences (row : Row) : List (List Char) :=
  [EffectPart.guid.directive (row.getD 3 []), EffectPart.actions.directive (row.getD 2 [])]

theorem customGrammar_writes : customGrammar.Writes .movement customConsequences where
  preamble := by
    refine ⟨_, rfl, ?_⟩
    simp only [String.reduceToList]
    decide
  row row := by
    simp [customGrammar, RuleText.written, customConsequences, EffectPart.directive,
      EffectPart.keyword, FactType.name, Text.quoted, Grammar.unlines, Grammar.flatMap_literally,
      Grammar.renderPiece]

/-! ## The compiler -/

/-- The compiler with the bundled grammars. -/
def compiler : Compiler where
  sanity := sanityGrammar
  custom := customGrammar
  business := fun factType => some (businessGrammar factType)

theorem bundled_eq_ok : Compiler.bundled = .ok compiler := by
  rw [Compiler.bundled, parse_sanityText, parse_customText]
  simp only [parse_bundledText, ok_bind, pure_eq_ok, compiler]
  congr
  funext factType
  cases factType <;> rfl

end Bundled

end FisheryRules
