import FisheryRules.Registry.Cache

/-!
# Failures of the module

Why definitions could not be loaded or a rule set not be brought up to date, and how the module
reports that to its callers.

## Main definitions

* `RuleError` — the causes.
* `ModuleError`, `RuleError.toModule` — what callers of the module see.
-/
namespace FisheryRules

/-- Why definitions could not be loaded or a rule set not be brought up to date. -/
inductive RuleError
  | missingPath (path : String)
  | unreadable (path : String)
  | unparsable (path : String)
  | duplicateRule (id : String)
  | grammar (error : GrammarError)
  | refresh (error : RefreshError)
  | shuttingDown
deriving DecidableEq

def RuleError.message : RuleError → String
  | missingPath path => s!"rules path does not exist: {path}"
  | unreadable path => s!"failed to read rules from {path}"
  | unparsable path => s!"failed to parse rules from {path}"
  | duplicateRule id => s!"duplicate rule identifier detected: {id}"
  | grammar error => error.message
  | refresh error => error.message
  | shuttingDown => "refresh worker is shutting down"

/-- Failure of the module, as its callers see it. -/
inductive ModuleError
  | configuration (detail : String)
  | storeUnavailable (detail : String)
  | engine (detail : String)
deriving DecidableEq

def ModuleError.message : ModuleError → String
  | configuration detail => s!"configuration error: {detail}"
  | storeUnavailable detail => s!"rule store unavailable: {detail}"
  | engine detail => s!"rule engine error: {detail}"

/-- What callers of the module see of a failure. -/
def RuleError.toModule (error : RuleError) : ModuleError :=
  match error with
  | .refresh (.store _) => .storeUnavailable error.message
  | .grammar _ => .configuration error.message
  | _ => .engine error.message

end FisheryRules
