import FisheryRules.Registry.RuleStore
import FisheryRules.RuleSet.Compiler
import FisheryRules.RuleSet.Fingerprint

/-!
# Rule set cache

The published rule set of every category. A refresh lists the definitions of a category and builds
a new set when their fingerprint differs from that of the published one. When it fails, the
published set stays in service.

## Main definitions

* `Slot`, `Slot.absorb` — what is published for one category, and how a store's answer changes it.
* `Cache`, `Cache.refresh`, `Cache.refreshAll` — the slots of all categories, and their refresh.
-/
namespace FisheryRules

inductive SlotState
  | empty
  | building
  | ready
deriving DecidableEq

/-- What is published for one category. -/
structure Slot where
  published : Option RuleSet := none
  state : SlotState := .empty
  /-- Counts on without a bound, where a counter of sixty-four bits would start again after as many
  builds as it can count. -/
  nextVersion : Nat := 1

/-- What a refresh did. -/
inductive RefreshOutcome
  /-- The definitions are those of the published set. -/
  | unchanged (version : Nat)
  | rebuilt (version rules failed : Nat)
  /-- There are no definitions, and nothing is published any more. -/
  | emptied
deriving DecidableEq

/-- Why a refresh failed. -/
inductive RefreshError
  | store (error : StoreError)
  | build (category : RuleCategory) (error : SourceError)
deriving DecidableEq

def RefreshError.message : RefreshError → String
  | store error => error.message
  | build category error => s!"failed to build {category.code} rule set: {error.message}"

namespace Slot

/-- Takes the published set out of service. -/
def clear (slot : Slot) : Slot := { slot with published := none, state := .empty }

/-- Draws the next version, for a build that begins. -/
def beginBuild (slot : Slot) : Nat × Slot :=
  (slot.nextVersion, { slot with state := .building, nextVersion := slot.nextVersion + 1 })

def publish (slot : Slot) (set : RuleSet) : Slot :=
  { slot with published := some set, state := .ready }

/-- Builds and publishes a set. When that fails the slot goes back to its state, but the version
is used up. -/
def rebuild (slot : Slot) (compiler : Compiler) (snapshot : Snapshot) (fingerprint : String) :
    Except RefreshError RefreshOutcome × Slot :=
  let (version, building) := slot.beginBuild
  match compiler.compile snapshot fingerprint version with
  | .ok set =>
    (.ok (.rebuilt version set.rules.length set.failed.length), building.publish set)
  | .error error =>
    (.error (.build snapshot.category error), { building with state := slot.state })

/-- Brings the slot up to date with the definitions that were listed. -/
def settle (slot : Slot) (compiler : Compiler) (snapshot : Snapshot) :
    Except RefreshError RefreshOutcome × Slot :=
  if snapshot.isEmpty then (.ok .emptied, slot.clear)
  else
    let fingerprint := snapshot.fingerprint
    match slot.published with
    | some set =>
      if set.fingerprint == fingerprint then (.ok (.unchanged set.version), slot)
      else slot.rebuild compiler snapshot fingerprint
    | none => slot.rebuild compiler snapshot fingerprint

/-- Brings the slot up to date with what the store answered. -/
def absorb (slot : Slot) (compiler : Compiler) :
    Except StoreError Snapshot → Except RefreshError RefreshOutcome × Slot
  | .error error => (.error (.store error), slot)
  | .ok snapshot => slot.settle compiler snapshot

end Slot

/-- The published rule sets. -/
structure Cache where
  compiler : Compiler
  slots : RuleCategory → Slot := fun _ => {}

namespace Cache

/-- The set in service for a category. -/
def current (cache : Cache) (category : RuleCategory) : Option RuleSet :=
  (cache.slots category).published

def state (cache : Cache) (category : RuleCategory) : SlotState := (cache.slots category).state

/-- The rules left out of the set in service. -/
def failedRules (cache : Cache) (category : RuleCategory) : List FailedRule :=
  ((cache.current category).map (·.failed)).getD []

def setSlot (cache : Cache) (category : RuleCategory) (slot : Slot) : Cache :=
  { cache with slots := fun other => if other = category then slot else cache.slots other }

/-- Brings a category up to date with a store. -/
def refresh (cache : Cache) (listing : Listing) (category : RuleCategory) :
    Except RefreshError RefreshOutcome × Cache :=
  let (result, slot) := (cache.slots category).absorb cache.compiler (listing.answer category)
  (result, cache.setSlot category slot)

/-- Brings some categories up to date, one after the other. Gives the first error, but goes on
after it. -/
def refreshEach (cache : Cache) (listing : Listing) :
    List RuleCategory → Except RefreshError Unit × Cache
  | [] => (.ok (), cache)
  | category :: others =>
    let (result, cache) := cache.refresh listing category
    let (rest, cache) := cache.refreshEach listing others
    match result with
    | .ok _ => (rest, cache)
    | .error error => (.error error, cache)

/-- Brings all categories up to date. Gives the first error, but goes on after it. -/
def refreshAll (cache : Cache) (listing : Listing) : Except RefreshError Unit × Cache :=
  cache.refreshEach listing RuleCategory.all

end Cache

end FisheryRules
