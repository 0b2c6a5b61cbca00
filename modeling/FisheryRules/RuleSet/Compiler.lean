import FisheryRules.Condition.Segments
import FisheryRules.RuleSet.OfSource
import FisheryRules.Source.Bundled
import FisheryRules.Source.Grammar

/-!
# Compiling definitions

Definitions are rendered to a source, which is then compiled. Every cell lands on one line of the
source: expressions are folded, and a definition with a line break in another cell is excluded
before it is rendered, so it cannot disturb the rest.

## Main definitions

* `Compiler` — the grammars that definitions are rendered with.
* `Compiler.bundled`, `Compiler.ofTexts` — the bundled grammars, and grammars of one's own.
* `Compiler.render` — the source of some definitions, with those it leaves out.
* `Compiler.compile` — the rule set of some definitions.
-/
namespace FisheryRules

/-- The grammars of a compiler. Without a grammar for its type of fact a business rule is
excluded. -/
structure Compiler where
  sanity : Grammar
  custom : Grammar
  business : FactType → Option Grammar

/-- Cells of one line of a table. -/
abbrev Row := List (List Char)

/-- Source of definitions, and the definitions that are not in it. -/
structure Rendered where
  source : List Char := []
  excluded : List FailedRule := []

/-- Why a definition is not rendered, or its row. -/
abbrev RowResult := Except FailedRule Row

/-- The rows among some results. -/
def RowResult.rows (results : List RowResult) : List Row := results.filterMap (·.toOption)

/-- The excluded definitions among some results. -/
def RowResult.excluded (results : List RowResult) : List FailedRule :=
  results.filterMap fun
    | .ok _ => none
    | .error failed => some failed

/-- Fails for the first column whose cell breaks the line. -/
def checkLines : List (String × String) → Except RuleFlaw Unit
  | [] => .ok ()
  | (column, cell) :: others =>
    if cell.toList.any Text.isLineBreak then .error (.lineBreak column) else checkLines others

def SanityRule.row (rule : SanityRule) : RowResult :=
  Except.mapError (FailedRule.ofFlaw rule.name) do
    checkLines [("name", rule.name)]
    return [rule.name.toList, Text.fold rule.expression.toList]

def CustomRule.row (rule : CustomRule) : RowResult :=
  Except.mapError (FailedRule.ofFlaw rule.name) do
    checkLines [("name", rule.name), ("guid", rule.guid), ("actions", rule.actionList)]
    return [rule.name.toList, ← rule.conditionChars, rule.actionChars, rule.guid.toList]

def BusinessRule.row (rule : BusinessRule) : RowResult :=
  let property := rule.propertyNames.getD ""
  Except.mapError (FailedRule.ofFlaw rule.brId) do
    checkLines [("brId", rule.brId), ("message", rule.message), ("level", rule.level),
      ("propertyNames", property)]
    return [rule.brId.toList, Text.fold rule.expression.toList, rule.message.toList,
      rule.errorType.code.toList, rule.level.toList, property.toList]

namespace Compiler

/-- The source of some rows. -/
def renderRows (grammar : Grammar) (results : List RowResult) : Rendered :=
  ⟨grammar.render (RowResult.rows results), RowResult.excluded results⟩

/-- The source of the business rules on one type of fact. Without rules it is empty. -/
def renderGroup (compiler : Compiler) (rules : List BusinessRule) (factType : FactType) :
    Rendered :=
  match rules.filter (·.factType == factType), compiler.business factType with
  | [], _ => {}
  | group, some grammar => renderRows grammar (group.map BusinessRule.row)
  | group, none => { excluded := group.map fun rule => .ofFlaw rule.brId (.noGrammar factType) }

/-- The source of some definitions. Business rules are grouped by the type of their facts. -/
def render (compiler : Compiler) : Snapshot → Rendered
  | .sanity rules => renderRows compiler.sanity (rules.map SanityRule.row)
  | .custom rules => renderRows compiler.custom (rules.map CustomRule.row)
  | .business rules =>
    let groups := FactType.all.map (compiler.renderGroup rules)
    ⟨groups.flatMap (·.source), groups.flatMap (·.excluded)⟩

end Compiler

namespace Snapshot

/-- The description that the definitions give for a rule: that of the last one that has any. -/
def description? (snapshot : Snapshot) (id : String) : Option String :=
  match snapshot with
  | sanity rules =>
    ((rules.filter (·.name == id)).filterMap (·.description)).getLast?
  | custom rules =>
    ((rules.filter (·.guid == id)).filterMap (·.description)).getLast?
  | business _ => none

/-- The windows that the definitions give for a rule: those of the last definition. -/
def intervals (snapshot : Snapshot) (id : String) : List TimeInterval :=
  match snapshot with
  | custom rules => (((rules.filter (·.guid == id)).map (·.intervals)).getLast?).getD []
  | sanity _ | business _ => []

/-- A compiled rule with what its source does not say. -/
def complete (snapshot : Snapshot) (rule : CompiledRule) : CompiledRule :=
  { rule with
    description := snapshot.description? rule.id
    intervals := snapshot.intervals rule.id }

end Snapshot

namespace Compiler

/-- Compiles definitions to a rule set. A definition with a flaw is excluded; a source that cannot
be split into rules fails the whole set. -/
def compile (compiler : Compiler) (snapshot : Snapshot) (fingerprint : String) (version : Nat) :
    Except SourceError RuleSet := do
  let rendered := compiler.render snapshot
  let compiled ← CompiledRules.ofSource rendered.source
  return {
    version
    fingerprint
    source := String.ofList rendered.source
    rules := compiled.rules.map snapshot.complete
    failed := rendered.excluded ++ compiled.failed
    snapshot }

/-- The bundled grammar for business rules on a type of fact. -/
def bundledText : FactType → String
  | .rawMovement => Bundled.rawMovementText
  | .movement => Bundled.movementText
  | .salesPrice => Bundled.salesPriceText
  | .fishingActivity => Bundled.fishingActivityText

/-- The compiler with the bundled grammars. -/
def bundled : Except GrammarError Compiler := do
  let sanity ← Grammar.parse Bundled.sanityText
  let custom ← Grammar.parse Bundled.customText
  let rawMovement ← Grammar.parse (bundledText .rawMovement)
  let movement ← Grammar.parse (bundledText .movement)
  let salesPrice ← Grammar.parse (bundledText .salesPrice)
  let fishingActivity ← Grammar.parse (bundledText .fishingActivity)
  return {
    sanity
    custom
    business := fun
      | .rawMovement => some rawMovement
      | .movement => some movement
      | .salesPrice => some salesPrice
      | .fishingActivity => some fishingActivity }

/-- A compiler with the grammars of some texts. Without a text the grammar for sanity or custom
rules is the bundled one; only the listed types of facts have a grammar for business rules. -/
def ofTexts (sanity custom : Option String) (business : List (FactType × String)) :
    Except GrammarError Compiler := do
  let sanity ← Grammar.parse (sanity.getD Bundled.sanityText)
  let custom ← Grammar.parse (custom.getD Bundled.customText)
  let business ← business.mapM fun (type, text) => do return (type, ← Grammar.parse text)
  return { sanity, custom, business := fun type => business.lookup type }

end Compiler

end FisheryRules
