import FisheryRules.Service.Documents

/-!
# The checker

Compiles all rule definitions of a configuration, and counts those that would be left out of the
rule sets.

## Main definitions

* `Checker.problems` — the number of rules left out, and of sets that cannot be built.
* `Checker.check` — the whole check, from the environment variables on.
-/
namespace FisheryRules

/-- Why a check fails. -/
inductive CheckError
  | configuration (error : ModuleError)
  | seeding (error : ModuleError)
  | grammars (error : GrammarError)
  | problems (count : Nat)
deriving DecidableEq

def CheckError.message : CheckError → String
  | configuration error => s!"failed to load rules configuration: {error.message}"
  | seeding error => s!"failed to seed rule store: {error.message}"
  | grammars error => s!"failed to load rule templates: {error.message}"
  | problems count => s!"{count} rule problem(s) found"

namespace Checker

/-- Refreshes some categories one after the other. Counts the refreshes that fail, and the rules
that are left out. -/
def problems (cache : Cache) (store : RuleStore) : List RuleCategory → Nat
  | [] => 0
  | category :: others =>
    let (result, cache) := cache.refresh store category
    let failures :=
      match result with
      | .ok _ => 0
      | .error _ => 1
    failures + (cache.failedRules category).length + problems cache store others

/-- Checks the rule definitions that the environment variables point at. -/
def check (environment : Environment) (files : FileLookup) (ids : IdSupply) :
    Except CheckError Unit := do
  let config ← (Config.load environment).mapError .configuration
  let store ← (RuleStore.seed config files ids).mapError .seeding
  let compiler ← Compiler.bundled.mapError .grammars
  let count := problems { compiler } store RuleCategory.all
  if 0 < count then throw (.problems count)

end Checker

end FisheryRules
