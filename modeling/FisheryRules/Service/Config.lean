import FisheryRules.Number.Decimal
import FisheryRules.Response.Dispatch
import FisheryRules.Service.Failure

/-!
# Configuration

The settings of the module, read from environment variables whose names share a start.

## Main definitions

* `Environment` — the variables that are set.
* `Config`, `Config.read` — the settings, and their reader.
-/
namespace FisheryRules

/-- Environment that the module runs in. -/
inductive Deployment
  | development
  | staging
  | production
deriving DecidableEq

/-- Reads the name of an environment, in any letter case. Every other text stands for
development. -/
def Deployment.ofName (name : String) : Deployment :=
  let word := String.ofList (Text.asciiLower name.toList)
  if ["production", "prod"].contains word then production
  else if ["staging", "stage"].contains word then staging
  else development

/-- Settings of the module. -/
structure Config where
  deployment : Deployment := .development
  nodeName : String := "fishwatch-rules"
  logLevel : Option String := none
  /-- Seconds between refreshes of the rule sets; none disables them. -/
  refreshSeconds : Option Nat := none
  alwaysTicket : Bool := true
  systemUser : String := "UVMS"
  /-- File or directory with rule definitions. -/
  rulesPath : Option String := none
  /-- How long a vessel may stay silent, in seconds. -/
  silenceSeconds : Nat := 7200
deriving DecidableEq

/-- Environment variable with a value that cannot be read. -/
structure InvalidVariable where
  key : String
  value : String
deriving DecidableEq

def InvalidVariable.message (error : InvalidVariable) : String :=
  s!"invalid value for environment variable {error.key}: {error.value}"

def InvalidVariable.toModule (error : InvalidVariable) : ModuleError :=
  .configuration error.message

/-- The environment variables that are set, by name. -/
abbrev Environment := List (String × String)

namespace Config

/-- Reads a number below `2 ^ 64`, with blanks around it and perhaps a plus sign. -/
def number? (raw : String) : Option Nat :=
  let cs := Text.trim raw.toList
  let digits := if cs.head? == some '+' then cs.drop 1 else cs
  if digits.isEmpty || !digits.all Char.isDigit then none
  else
    let n := Decimal.ofDigits digits
    if n < 18446744073709551616 then some n else none

/-- Reads a switch, in any letter case and with blanks around it. -/
def switch? (raw : String) : Option Bool :=
  let word := String.ofList (Text.asciiLower (Text.trim raw.toList))
  if ["1", "true", "yes", "on"].contains word then some true
  else if ["0", "false", "no", "off"].contains word then some false
  else none

/-- Reads a variable that may be absent. -/
def readVariable {α : Type} (environment : Environment) (key : String) (default : α)
    (parse : String → Option α) : Except InvalidVariable α :=
  match environment.lookup key with
  | none => .ok default
  | some raw =>
    match parse raw with
    | some value => .ok value
    | none => .error ⟨key, raw⟩

/-- Reads the settings from the variables whose names begin with `start`. The first one that
cannot be read decides: the refresh period, the ticket switch, the silence threshold. -/
def read (start : String) (environment : Environment) : Except InvalidVariable Config := do
  let get (name : String) : Option String := environment.lookup (start ++ name)
  let refreshSeconds ← readVariable environment (start ++ "REFRESH_INTERVAL_SECS") none fun raw =>
    (number? raw).map fun n => if n = 0 then none else some n
  let alwaysTicket ← readVariable environment (start ++ "ALWAYS_TICKET_ON_FIRE") true switch?
  let silenceSeconds ← readVariable environment (start ++ "ASSET_SILENCE_THRESHOLD_SECS") 7200
    fun raw => (number? raw).filter (0 < ·)
  return {
    deployment := ((get "ENV").map Deployment.ofName).getD .development
    nodeName := (get "NODE_NAME").getD "fishwatch-rules"
    logLevel := get "LOG_LEVEL"
    refreshSeconds
    alwaysTicket
    systemUser := (get "SYSTEM_USER").getD "UVMS"
    rulesPath := (get "RULES_PATH").filter (!Text.isBlankText ·)
    silenceSeconds }

/-- What the names of the variables begin with. -/
def standardStart : String := "FISHWATCH_"

/-- Reads the settings from the variables of the standard names. -/
def load (environment : Environment) : Except ModuleError Config :=
  (read standardStart environment).mapError InvalidVariable.toModule

/-- The settings of the dispatch. -/
def dispatch (config : Config) : DispatchConfig where
  policy := .ofFlag config.alwaysTicket
  systemUser := config.systemUser
  silenceThreshold := config.silenceSeconds * 1000000000

end Config

end FisheryRules
