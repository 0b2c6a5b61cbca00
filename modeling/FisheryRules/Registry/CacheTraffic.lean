import FisheryRules.Registry.Cache

/-!
# Refreshes that run at the same time

Any number of refreshes, each going on by its own steps, while the store changes. A refresh waits
for the lock of its category, asks the store, compares the answer with the published set and, when
they differ, builds and publishes a new set; other calls, readers and changes of the store may come
between any two steps. Who calls makes no difference: a refresh of all categories, and a pass of a
worker, are refreshes one after the other.

## Main definitions

* `Slot.compare?`, `Slot.finishBuild` — what a refresh does once it has an answer, and at the end of
  a build.
* `RefreshCall`, `CacheTraffic` — a refresh on its way, and all that goes on around a cache.
* `CacheTraffic.step`, `CacheTraffic.after` — what one event does, and what any events lead to.
-/
namespace FisheryRules

namespace Slot

/-- Compares the published set with the definitions that were listed. There is no outcome when a
new set has to be built. -/
def compare? (slot : Slot) (snapshot : Snapshot) : Option (RefreshOutcome × Slot) :=
  if snapshot.isEmpty then some (.emptied, slot.clear)
  else
    match slot.published with
    | some set =>
      if set.fingerprint == snapshot.fingerprint then some (.unchanged set.version, slot) else none
    | none => none

/-- Publishes a set that has been built, or goes back to a state. -/
def finishBuild (slot : Slot) (compiler : Compiler) (snapshot : Snapshot) (version : Nat)
    (previous : SlotState) : Except RefreshError RefreshOutcome × Slot :=
  match compiler.compile snapshot snapshot.fingerprint version with
  | .ok set => (.ok (.rebuilt version set.rules.length set.failed.length), slot.publish set)
  | .error error => (.error (.build snapshot.category error), { slot with state := previous })

end Slot

/-- How far a refresh has come. -/
inductive RefreshPhase
  /-- Waits for the lock. -/
  | waiting
  /-- Has the lock, and is about to ask the store. -/
  | asking
  /-- Has what the store listed at a time. -/
  | answered (readAt : Nat) (answer : Except StoreError Snapshot)
  /-- Builds a set of a version. The state was another one before. -/
  | building (readAt : Nat) (snapshot : Snapshot) (version : Nat) (previous : SlotState)
  /-- Has given back the lock. -/
  | returned (readAt settledAt : Nat) (result : Except RefreshError RefreshOutcome)

/-- A refresh of a category, begun at a time. -/
structure RefreshCall where
  category : RuleCategory
  begun : Nat
  phase : RefreshPhase := .waiting

/-- What goes on around a cache. -/
structure CacheTraffic where
  cache : Cache
  /-- What the store lists now. -/
  listing : Listing
  /-- The call that has the lock of a category. -/
  holder : RuleCategory → Option Nat := fun _ => none
  calls : List RefreshCall := []
  /-- The number of events so far. -/
  clock : Nat := 0

/-- What may happen next. -/
inductive CacheEvent
  /-- The store lists something else from now on. -/
  | change (listing : Listing)
  /-- Somebody calls for a refresh. -/
  | call (category : RuleCategory)
  /-- A call makes its next step. -/
  | proceed (index : Nat)

namespace CacheTraffic

/-- A call has come to a phase. -/
def setPhase (traffic : CacheTraffic) (index : Nat) (call : RefreshCall) (phase : RefreshPhase) :
    CacheTraffic :=
  { traffic with calls := traffic.calls.set index { call with phase } }

def setHolder (traffic : CacheTraffic) (category : RuleCategory) (holder : Option Nat) :
    CacheTraffic :=
  { traffic with
    holder := fun other => if other = category then holder else traffic.holder other }

def setSlot (traffic : CacheTraffic) (category : RuleCategory) (slot : Slot) : CacheTraffic :=
  { traffic with cache := traffic.cache.setSlot category slot }

/-- A call leaves its slot, gives back the lock and returns. -/
def settle (traffic : CacheTraffic) (index : Nat) (call : RefreshCall) (readAt : Nat)
    (result : Except RefreshError RefreshOutcome) (slot : Slot) : CacheTraffic :=
  ((traffic.setSlot call.category slot).setHolder call.category none).setPhase index call
    (.returned readAt traffic.clock result)

/-- The next step of a call. -/
def proceed (traffic : CacheTraffic) (index : Nat) (call : RefreshCall) : CacheTraffic :=
  let slot := traffic.cache.slots call.category
  match call.phase with
  | .waiting =>
    if (traffic.holder call.category).isNone then
      (traffic.setHolder call.category (some index)).setPhase index call .asking
    else traffic
  | .asking =>
    traffic.setPhase index call
      (.answered traffic.clock (traffic.listing.answer call.category))
  | .answered readAt (.error error) =>
    traffic.settle index call readAt (.error (.store error)) slot
  | .answered readAt (.ok snapshot) =>
    match slot.compare? snapshot with
    | some (outcome, next) => traffic.settle index call readAt (.ok outcome) next
    | none =>
      (traffic.setSlot call.category slot.beginBuild.2).setPhase index call
        (.building readAt snapshot slot.beginBuild.1 slot.state)
  | .building readAt snapshot version previous =>
    let (result, next) := slot.finishBuild traffic.cache.compiler snapshot version previous
    traffic.settle index call readAt result next
  | .returned _ _ _ => traffic

/-- What an event does. A step of a call that is not there, or cannot go on, does nothing. -/
def act (traffic : CacheTraffic) : CacheEvent → CacheTraffic
  | .change listing => { traffic with listing }
  | .call category =>
    { traffic with calls := traffic.calls ++ [{ category, begun := traffic.clock }] }
  | .proceed index =>
    match traffic.calls[index]? with
    | some call => traffic.proceed index call
    | none => traffic

def step (traffic : CacheTraffic) (event : CacheEvent) : CacheTraffic :=
  { traffic.act event with clock := traffic.clock + 1 }

/-- What some events lead to, around a new cache. -/
def after (compiler : Compiler) (listing : Listing) (events : List CacheEvent) : CacheTraffic :=
  events.foldl step { cache := { compiler }, listing }

end CacheTraffic

end FisheryRules
