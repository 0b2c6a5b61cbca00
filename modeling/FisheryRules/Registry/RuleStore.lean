import FisheryRules.Registry.StoreError
import FisheryRules.Registry.Table
import FisheryRules.Rule.Serialized
import FisheryRules.RuleSet.Basic

/-!
# Rule stores

The definitions of all categories, each listed in the order of its key: sanity rules by name,
custom rules by guid, business rules by their id. While the store is offline its definitions can
be changed but not be read.

## Main definitions

* `Listing` — what a store answers when it is asked for the definitions in force.
* `RuleStore`, `RuleStore.list` — the type, and the definitions that a rule set is made from.
* `RuleStore.ofDocument` — a store with the definitions of a document.
-/
namespace FisheryRules

/-- Who changed a definition, and when. Without an author the definition keeps what it says. -/
structure Stamp where
  author : Option String
  time : Instant
deriving DecidableEq

def SanityRule.stamp (rule : SanityRule) (stamp : Stamp) : SanityRule :=
  if stamp.author.isNone then rule
  else { rule with updated := some stamp.time, updatedBy := stamp.author }

def CustomRule.stamp (rule : CustomRule) (stamp : Stamp) : CustomRule :=
  if stamp.author.isNone then rule
  else { rule with updated := some stamp.time, updatedBy := stamp.author }

def BusinessRule.stamp (rule : BusinessRule) (stamp : Stamp) : BusinessRule :=
  if stamp.author.isNone then rule
  else { rule with updated := some stamp.time, updatedBy := stamp.author }

/-- What a store answers when it is asked for the definitions in force: those of a category, or why
it cannot be read. -/
structure Listing where
  sanity : Except StoreError (List SanityRule)
  custom : Except StoreError (List CustomRule)
  business : Except StoreError (List BusinessRule)

/-- The answer for a category. -/
def Listing.answer (listing : Listing) : RuleCategory → Except StoreError Snapshot
  | .sanity => listing.sanity.map .sanity
  | .custom => listing.custom.map .custom
  | .business => listing.business.map .business

/-- Store of rule definitions. -/
structure RuleStore where
  sanity : Table SanityRule SanityRule.name := .empty
  custom : Table CustomRule CustomRule.guid := .empty
  business : Table BusinessRule BusinessRule.brId := .empty
  online : Bool := true

namespace RuleStore

/-- Adds a definition or replaces that of the same name. Gives what is stored. -/
def putSanity (store : RuleStore) (rule : SanityRule) (stamp : Stamp) : SanityRule × RuleStore :=
  let rule := rule.stamp stamp
  (rule, { store with sanity := store.sanity.put rule })

/-- Adds a definition or replaces that of the same guid. A blank guid is replaced by a new one.
Gives what is stored. -/
def putCustom (store : RuleStore) (ids : IdSupply) (rule : CustomRule) (stamp : Stamp) :
    CustomRule × RuleStore × IdSupply :=
  let (rule, ids) :=
    if Text.isBlankText rule.guid then
      let (id, ids) := ids.draw
      ({ rule with guid := id.toText }, ids)
    else (rule, ids)
  let rule := rule.stamp stamp
  (rule, { store with custom := store.custom.put rule }, ids)

/-- Adds a definition or replaces that of the same id. Gives what is stored. -/
def putBusiness (store : RuleStore) (rule : BusinessRule) (stamp : Stamp) :
    BusinessRule × RuleStore :=
  let rule := rule.stamp stamp
  (rule, { store with business := store.business.put rule })

/-- Removes a definition. Gives what was stored. -/
def removeSanity (store : RuleStore) (name : String) : Option SanityRule × RuleStore :=
  (store.sanity.find? name, { store with sanity := store.sanity.erase name })

/-- Removes a definition. Gives what was stored. -/
def removeBusiness (store : RuleStore) (brId : String) : Option BusinessRule × RuleStore :=
  (store.business.find? brId, { store with business := store.business.erase brId })

/-- Archives a custom rule, once, and notes who did. Gives what is stored. -/
def archive (store : RuleStore) (guid : String) (stamp : Stamp) :
    Except StoreError (CustomRule × RuleStore) :=
  match store.custom.find? guid with
  | none => .error (.notFound guid)
  | some rule =>
    if rule.archived then .ok (rule, store)
    else
      let rule := { rule with
        archived := true, updated := some stamp.time, updatedBy := stamp.author }
      .ok (rule, { store with custom := store.custom.put rule })

/-- Fails while the store is offline. -/
def checkOnline (store : RuleStore) : Except StoreError Unit :=
  if store.online then .ok () else .error (.unavailable "rule store offline")

/-- The definitions in force: all sanity rules, the runnable custom rules and the active business
rules. -/
def listing (store : RuleStore) : Listing where
  sanity := do
    store.checkOnline
    return store.sanity.rows
  custom := do
    store.checkOnline
    return store.custom.rows.filter (·.isRunnable)
  business := do
    store.checkOnline
    return store.business.rows.filter (·.active)

/-- A store stands for what it lists. -/
instance : Coe RuleStore Listing := ⟨listing⟩

/-- The definitions of a category that are in force. -/
def list (store : RuleStore) (category : RuleCategory) : Except StoreError Snapshot :=
  store.listing.answer category

/-- The custom rule with a guid. -/
def findCustom (store : RuleStore) (guid : String) : Except StoreError (Option CustomRule) := do
  store.checkOnline
  return store.custom.find? guid

/-- Notes when a custom rule fired last. -/
def markTriggered (store : RuleStore) (guid : String) (t : Instant) :
    Except StoreError RuleStore := do
  store.checkOnline
  match store.custom.find? guid with
  | none => throw (.notFound guid)
  | some rule =>
    return { store with custom := store.custom.put { rule with lastTriggered := some t } }

/-- Keeps what the definitions say of when and by whom they were changed. -/
def unstamped : Stamp := ⟨none, .epoch⟩

/-- Adds custom rules one after the other. -/
def putCustomAll (store : RuleStore) (ids : IdSupply) : List CustomRule → RuleStore × IdSupply
  | [] => (store, ids)
  | rule :: others =>
    let (_, store, ids) := store.putCustom ids rule unstamped
    putCustomAll store ids others

/-- A store with the definitions of a document. Of definitions with the same key the last one
counts. -/
def ofDocument (ids : IdSupply) (document : RuleDocument) : RuleStore × IdSupply :=
  let store : RuleStore := {
    sanity := document.sanityRules.foldl Table.put .empty
    business := document.businessRules.foldl Table.put .empty }
  store.putCustomAll ids document.customRules

end RuleStore

end FisheryRules
