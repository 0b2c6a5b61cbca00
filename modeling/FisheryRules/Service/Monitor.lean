import FisheryRules.Evaluation.Batch
import FisheryRules.Registry.RefreshWorker
import FisheryRules.Service.Config

/-!
# The monitor

The running module: it evaluates reports and messages against the published rule sets and carries
out what the firings ask for, while a worker keeps the rule sets up to date.

## Main definitions

* `Monitor`, `Monitor.start` — the state of the module.
* `Monitor.evaluate` — evaluation of facts, and dispatch of the firings.
* `Monitor.checkSilence` — the search for vessels that fell silent.
-/
namespace FisheryRules

/-- State of the running module. -/
structure Monitor where
  cache : Cache
  worker : RefreshWorker
  services : Services
  dispatch : DispatchConfig
  lookup : Option Lookup := none

/-- What came of a batch of facts. -/
structure BatchOutcome where
  report : Report
  dispatched : Summary

namespace Monitor

/-- Starts the module. A category that cannot be read stays empty until its next refresh. -/
def start (config : Config) (services : Services) (lookup : Option Lookup) :
    Except ModuleError Monitor := do
  let compiler ← Compiler.bundled.mapError fun error => (RuleError.grammar error).toModule
  let cache : Cache := { compiler }
  return {
    cache := (cache.refreshAll services.rules).2
    worker := .start config.refreshSeconds
    services
    dispatch := config.dispatch
    lookup }

/-- Evaluates facts in a category, and dispatches the firings. -/
def evaluate (monitor : Monitor) (category : RuleCategory) (facts : List Fact) :
    BatchOutcome × Monitor :=
  let report :=
    RuleSet.evaluate (monitor.cache.current category) monitor.services.now monitor.lookup facts
  let (dispatched, services) :=
    (Dispatch.dispatchAll monitor.dispatch report.firings).run monitor.services
  (⟨report, dispatched⟩, { monitor with services })

/-- Makes facts of contents, each with a new identifier. -/
def newFacts (ids : IdSupply) : List Payload → List Fact × IdSupply
  | [] => ([], ids)
  | payload :: others =>
    let (id, ids) := ids.draw
    let (facts, ids) := newFacts ids others
    ({ id, payload } :: facts, ids)

/-- Evaluates contents as new facts. -/
def evaluateNew (monitor : Monitor) (category : RuleCategory) (payloads : List Payload) :
    BatchOutcome × Monitor :=
  let (facts, ids) := newFacts monitor.services.ids payloads
  { monitor with services := { monitor.services with ids } }.evaluate category facts

/-- Evaluates reports as received against the sanity rules. -/
def validateReports (monitor : Monitor) (reports : List RawMovement) : BatchOutcome × Monitor :=
  monitor.evaluateNew .sanity (reports.map .rawMovement)

/-- Evaluates enriched reports against the custom rules. -/
def evaluateMovements (monitor : Monitor) (movements : List Movement) : BatchOutcome × Monitor :=
  monitor.evaluateNew .custom (movements.map .movement)

/-- Evaluates facts against the business rules. -/
def validateFacts (monitor : Monitor) (facts : List Fact) : BatchOutcome × Monitor :=
  monitor.evaluate .business facts

/-- Opens tickets for the vessels that have been silent too long. -/
def checkSilence (monitor : Monitor) (reports : List PreviousReport) : Summary × Monitor :=
  let (summary, services) :=
    (Dispatch.checkReports monitor.dispatch monitor.services.now reports).run monitor.services
  (summary, { monitor with services })

/-- Refreshes a category at once. -/
def refresh (monitor : Monitor) (category : RuleCategory) :
    Except ModuleError RefreshOutcome × Monitor :=
  let (result, cache) := monitor.cache.refresh monitor.services.rules category
  (result.mapError fun error => (RuleError.refresh error).toModule, { monitor with cache })

/-- Asks the worker for the refresh of a category. -/
def requestRefresh (monitor : Monitor) (category : RuleCategory) : Except ModuleError Monitor :=
  match monitor.worker.request? category with
  | some worker => .ok { monitor with worker }
  | none => .error RuleError.shuttingDown.toModule

/-- Lets the worker go on until it sleeps. -/
def settle (monitor : Monitor) : Monitor :=
  let (worker, cache) := monitor.worker.settle monitor.cache monitor.services.rules
  { monitor with worker, cache }

/-- Lets time pass for the worker. -/
def advance (monitor : Monitor) (seconds : Nat) : Monitor :=
  let (worker, cache) := monitor.worker.advance seconds monitor.cache monitor.services.rules
  { monitor with worker, cache }

/-- Stops the worker. -/
def shutdown (monitor : Monitor) : Monitor :=
  { monitor with worker := monitor.worker.shutdown }.settle

end Monitor

end FisheryRules
