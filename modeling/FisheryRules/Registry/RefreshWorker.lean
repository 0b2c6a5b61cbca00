import FisheryRules.Registry.Cache

/-!
# Refresh worker

A worker refreshes the rule sets in the background, on request and once in every period. It sleeps
until it is woken: a request marks its category and leaves a wake-up, which goes to the worker if
that sleeps and has none, and else is kept as a permit, of which there is at most one; a period that
has ended wakes it too. Once awake it makes a pass over all categories and refreshes those that are
marked, or all of them when a period has ended.

## Main definitions

* `RefreshWorker`, `RefreshWorker.start` — the worker, and how it begins.
* `RefreshWorker.step?`, `RefreshWorker.tick?` — its next step, and its waking at the end of a
  period.
* `RefreshWorker.request?`, `RefreshWorker.shutdown` — what others ask of it.
* `RefreshWorker.settle`, `RefreshWorker.advance` — steps until it sleeps, and time passing.
-/
namespace FisheryRules

/-- Where a worker is. -/
inductive WorkerPhase
  /-- About to look whether it has to stop. -/
  | starting
  /-- About to go to sleep. -/
  | tired
  /-- Asleep, with a wake-up that has come for it or without. -/
  | asleep (awoken : Bool)
  /-- Woken by a request, or because a period has ended. -/
  | woken (scheduled : Bool)
  /-- In a pass, with some categories left. -/
  | passing (scheduled : Bool) (left : List RuleCategory)
  | stopped
deriving DecidableEq

/-- Worker that refreshes rule sets. -/
structure RefreshWorker where
  phase : WorkerPhase := .starting
  pending : RuleCategory → Bool := fun _ => false
  /-- Whether a wake-up is kept for the next time that the worker goes to sleep. -/
  permit : Bool := false
  shuttingDown : Bool := false
  /-- Periods that have ended and have not woken the worker. -/
  ticks : Nat := 0
  /-- Passes that are complete. They are counted without a bound, where a counter of sixty-four bits
  would run over. -/
  passes : Nat := 0
  /-- Length of a period in seconds, if there are any. -/
  period : Option Nat := none
  /-- Seconds since the start. -/
  elapsed : Nat := 0

namespace RefreshWorker

/-- The seconds that the clock counts to. -/
def clockLimit : Nat := 9223372036854775807

/-- A worker that is about to go to sleep. One whose periods take no time, or end when the clock
has stopped, has stopped from the start. -/
def start (period : Option Nat) : RefreshWorker :=
  let isTold (seconds : Nat) : Bool := 0 < seconds && seconds < clockLimit
  { period, phase := if period.all isTold then .starting else .stopped }

def setPending (worker : RefreshWorker) (category : RuleCategory) (mark : Bool) : RefreshWorker :=
  { worker with
    pending := fun other => if other = category then mark else worker.pending other }

/-- Leaves a wake-up: for the worker if it sleeps and none has come, or else as the permit. -/
def notify (worker : RefreshWorker) : RefreshWorker :=
  match worker.phase with
  | .asleep false => { worker with phase := .asleep true }
  | _ => { worker with permit := true }

/-- Asks for the refresh of a category. A worker that shuts down takes no requests. -/
def request? (worker : RefreshWorker) (category : RuleCategory) : Option RefreshWorker :=
  if worker.shuttingDown then none else some (worker.setPending category true).notify

/-- Asks for the refresh of all categories. -/
def requestAll? (worker : RefreshWorker) : Option RefreshWorker :=
  RuleCategory.all.foldlM request? worker

/-- Tells the worker to stop. -/
def shutdown (worker : RefreshWorker) : RefreshWorker := { worker with shuttingDown := true }.notify

/-- The periods that end in the given number of seconds. -/
def ticksWithin (worker : RefreshWorker) (seconds : Nat) : Nat :=
  match worker.period with
  | some period => (worker.elapsed + seconds) / period - worker.elapsed / period
  | none => 0

/-- Lets time pass. -/
def elapse (worker : RefreshWorker) (seconds : Nat) : RefreshWorker :=
  { worker with
    ticks := worker.ticks + worker.ticksWithin seconds
    elapsed := worker.elapsed + seconds }

/-- A period that has ended wakes the worker. A wake-up that has come for it is given back. -/
def tick? (worker : RefreshWorker) : Option RefreshWorker :=
  match worker.phase, worker.ticks with
  | .asleep awoken, ticks + 1 =>
    some { worker with ticks, permit := worker.permit || awoken, phase := .woken true }
  | _, _ => none

/-- The next step of the worker, with the category whose refresh it starts, if it does. There is
none while it sleeps and nothing wakes it, and after it has stopped. -/
def step? (worker : RefreshWorker) : Option (Option RuleCategory × RefreshWorker) :=
  match worker.phase with
  | .starting =>
    some (none, { worker with phase := if worker.shuttingDown then .stopped else .tired })
  | .tired => some (none, { worker with permit := false, phase := .asleep worker.permit })
  | .asleep true => some (none, { worker with phase := .woken false })
  | .asleep false => worker.tick?.map (none, ·)
  | .woken scheduled =>
    let phase := if worker.shuttingDown then .stopped else .passing scheduled RuleCategory.all
    some (none, { worker with phase })
  | .passing scheduled (category :: left) =>
    let next := { worker.setPending category false with phase := .passing scheduled left }
    some (if worker.pending category || scheduled then some category else none, next)
  | .passing _ [] => some (none, { worker with passes := worker.passes + 1, phase := .starting })
  | .stopped => none

/-- Makes at most `bound` steps, with the refreshes that they start. -/
def steps : (bound : Nat) → RefreshWorker → Cache → RuleStore → RefreshWorker × Cache
  | 0, worker, cache, _ => (worker, cache)
  | bound + 1, worker, cache, store =>
    match worker.step? with
    | some (some category, worker) => steps bound worker (cache.refresh store category).2 store
    | some (none, worker) => steps bound worker cache store
    | none => (worker, cache)

/-- The most steps that the worker can make before it sleeps: it can be woken by its wake-up, the
permit and every tick, and goes to sleep again within eight steps. -/
def stepBound (worker : RefreshWorker) : Nat := 8 * (worker.ticks + 3)

/-- Lets the worker go on until it sleeps or stops. -/
def settle (worker : RefreshWorker) (cache : Cache) (store : RuleStore) : RefreshWorker × Cache :=
  worker.steps worker.stepBound cache store

/-- Lets time pass. The worker first deals with what it was asked for before. -/
def advance (worker : RefreshWorker) (seconds : Nat) (cache : Cache) (store : RuleStore) :
    RefreshWorker × Cache :=
  let (worker, cache) := worker.settle cache store
  (worker.elapse seconds).settle cache store

end RefreshWorker

end FisheryRules
