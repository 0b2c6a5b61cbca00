import FisheryRules.Registry.RefreshWorker

/-!
# Requests around a running worker

Requests for refreshes, the worker, time and one shutdown, each going on by its own steps and in any
order. A request looks whether the worker shuts down, marks its category and leaves a wake-up, and
other steps may come in between; the steps of a call that nothing comes between are those of
`RefreshWorker.request?` and `RefreshWorker.shutdown`.

## Main definitions

* `RefreshRequest`, `RefreshRequest.step` — a request, and its next step.
* `RequestTraffic`, `RequestTraffic.step`, `RequestTraffic.after` — all that goes on, what one event
  does, and what any events lead to.
-/
namespace FisheryRules

/-- How far a request has come. -/
inductive RequestPhase
  /-- Has not yet looked whether the worker shuts down. -/
  | made
  /-- May go on. -/
  | admitted
  /-- Has marked its category, at a time. -/
  | marked (time : Nat)
  /-- Has left its wake-up too, and succeeded. -/
  | accepted (time : Nat)
  | refused
deriving DecidableEq

/-- A request for the refresh of a category. -/
structure RefreshRequest where
  category : RuleCategory
  phase : RequestPhase := .made
deriving DecidableEq

namespace RefreshRequest

/-- When the request marked its category. -/
def markTime? (request : RefreshRequest) : Option Nat :=
  match request.phase with
  | .marked time | .accepted time => some time
  | .made | .admitted | .refused => none

def isAccepted (request : RefreshRequest) : Bool :=
  match request.phase with
  | .accepted _ => true
  | .made | .admitted | .marked _ | .refused => false

/-- The next step of a request, at a time. -/
def step (request : RefreshRequest) (worker : RefreshWorker) (time : Nat) :
    RefreshRequest × RefreshWorker :=
  match request.phase with
  | .made =>
    ({ request with phase := if worker.shuttingDown then .refused else .admitted }, worker)
  | .admitted =>
    ({ request with phase := .marked time }, worker.setPending request.category true)
  | .marked time => ({ request with phase := .accepted time }, worker.notify)
  | .accepted _ | .refused => (request, worker)

end RefreshRequest

/-- How far the shutdown has come. -/
inductive ShutdownPhase
  | ahead
  /-- The worker is told to stop. -/
  | begun
  /-- The worker has been woken, too. -/
  | waiting
  /-- The worker has stopped. -/
  | returned
deriving DecidableEq

/-- A refresh that the worker started. -/
structure RefreshStart where
  time : Nat
  category : RuleCategory

/-- What goes on around a worker. -/
structure RequestTraffic where
  worker : RefreshWorker
  requests : List RefreshRequest := []
  shutdown : ShutdownPhase := .ahead
  /-- The refreshes so far. -/
  starts : List RefreshStart := []
  /-- The number of events so far. -/
  clock : Nat := 0

/-- What may happen next. -/
inductive TrafficEvent
  /-- Somebody makes a request. -/
  | make (category : RuleCategory)
  /-- A request makes its next step. -/
  | request (index : Nat)
  /-- The worker makes its next step. -/
  | work
  /-- A period that has ended wakes the worker. -/
  | tick
  | elapse (seconds : Nat)
  /-- The shutdown makes its next step. -/
  | shutdown
deriving DecidableEq

namespace RequestTraffic

/-- The worker has made a step. -/
def worked (traffic : RequestTraffic) (started : Option RuleCategory) (worker : RefreshWorker) :
    RequestTraffic :=
  { traffic with
    worker
    starts := traffic.starts ++ started.toList.map (⟨traffic.clock, ·⟩) }

/-- The next step of the shutdown. It waits until the worker has stopped. -/
def shutdownStep (traffic : RequestTraffic) : RequestTraffic :=
  match traffic.shutdown with
  | .ahead =>
    { traffic with worker := { traffic.worker with shuttingDown := true }, shutdown := .begun }
  | .begun => { traffic with worker := traffic.worker.notify, shutdown := .waiting }
  | .waiting =>
    if traffic.worker.phase = .stopped then { traffic with shutdown := .returned } else traffic
  | .returned => traffic

/-- What an event does. One that cannot happen does nothing. -/
def act (traffic : RequestTraffic) : TrafficEvent → RequestTraffic
  | .make category => { traffic with requests := traffic.requests ++ [{ category }] }
  | .request index =>
    match traffic.requests[index]? with
    | some request =>
      let (request, worker) := request.step traffic.worker traffic.clock
      { traffic with requests := traffic.requests.set index request, worker }
    | none => traffic
  | .work =>
    match traffic.worker.step? with
    | some (started, worker) => traffic.worked started worker
    | none => traffic
  | .tick =>
    match traffic.worker.tick? with
    | some worker => traffic.worked none worker
    | none => traffic
  | .elapse seconds => { traffic with worker := traffic.worker.elapse seconds }
  | .shutdown => traffic.shutdownStep

def step (traffic : RequestTraffic) (event : TrafficEvent) : RequestTraffic :=
  { traffic.act event with clock := traffic.clock + 1 }

/-- What some events lead to, around a new worker. -/
def after (period : Option Nat) (events : List TrafficEvent) : RequestTraffic :=
  events.foldl step { worker := .start period }

end RequestTraffic

end FisheryRules
