import FisheryRules.Source.RuleText

/-!
# Consequences

The lines of a rule after its condition say what happens when the rule fires: an alarm is raised,
or actions are carried out for a custom rule, or an outcome is attached to the fact. Only one of
the three can be asked for.

## Main definitions

* `Consequence` — what one line says.
* `RuleEffect.ofLines` — the effect that lines ask for together.
-/
namespace FisheryRules

/-- Part of an effect that a line gives a text for. -/
inductive EffectPart
  | guid
  | actions
  | errorType
  | level
  | message
  | fieldPath
deriving DecidableEq

namespace EffectPart

def all : List EffectPart := [guid, actions, errorType, level, message, fieldPath]

/-- The keyword that a line for this part starts with. -/
def keyword : EffectPart → String
  | guid => "ruleGuid"
  | actions => "actions"
  | errorType => "errorType"
  | level => "level"
  | message => "message"
  | fieldPath => "fieldPath"

end EffectPart

/-- What one line of a rule asks for. -/
inductive Consequence
  | alarm
  | part (part : EffectPart) (text : String)
deriving DecidableEq

namespace Consequence

/-- Reads a line. -/
def read (line : List Char) : Except RuleFlaw Consequence :=
  if line == "alarm".toList then .ok .alarm
  else
    let found? := EffectPart.all.findSome? fun wanted =>
      (Text.afterKeyword? wanted.keyword line).map fun rest =>
        part wanted (String.ofList (Text.unquote rest))
    match found? with
    | some consequence => .ok consequence
    | none => .error (.unknownConsequence (String.ofList line))

/-- The text that a line gives for a part. -/
def textFor? (wanted : EffectPart) : Consequence → Option String
  | .alarm => none
  | .part given text => if given = wanted then some text else none

/-- The text that some lines give for a part. The last one counts. -/
def lastText? (wanted : EffectPart) (consequences : List Consequence) : Option String :=
  (consequences.filterMap (textFor? wanted)).getLast?

/-- Whether some lines give a text for one of the parts. -/
def mention (parts : List EffectPart) (consequences : List Consequence) : Bool :=
  parts.any fun part => (lastText? part consequences).isSome

end Consequence

namespace RuleEffect

/-- Reads the weight of an outcome, in any letter case. -/
def severity (errorType : Option String) : Except RuleFlaw Severity :=
  match errorType with
  | none => .error .noErrorType
  | some raw =>
    let word := String.ofList (Text.asciiUpper (Text.trim raw.toList))
    match [Severity.error, .warning].find? (·.code == word) with
    | some severity => .ok severity
    | none => .error (.unknownErrorType word)

/-- The effect that consequences ask for together. -/
def ofConsequences (found : List Consequence) : Except RuleFlaw RuleEffect :=
  let text (part : EffectPart) : String := (Consequence.lastText? part found).getD ""
  match found.contains .alarm, Consequence.mention [.guid, .actions] found,
    Consequence.mention [.errorType, .level, .message, .fieldPath] found with
  | true, false, false => .ok .alarm
  | false, true, false =>
    if (text .guid).isEmpty then .error .noGuid
    else .ok (.custom (text .guid) (text .actions))
  | false, false, true => do
    let severity ← severity (Consequence.lastText? .errorType found)
    return .outcome severity (text .level) (text .message) (text .fieldPath)
  | false, false, false => .error .noConsequence
  | _, _, _ => .error .conflictingConsequences

/-- The effect that the lines after a condition ask for. -/
def ofLines (lines : List (List Char)) : Except RuleFlaw RuleEffect := do
  ofConsequences (← lines.mapM Consequence.read)

end RuleEffect

end FisheryRules
