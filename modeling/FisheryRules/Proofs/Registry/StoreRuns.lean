import FisheryRules.Proofs.Identifier
import FisheryRules.Proofs.Registry.CacheHits
import FisheryRules.Proofs.Registry.TableRows
import FisheryRules.Proofs.RuleSet.IdentityFlaws

/-!
# What becomes of a rule store

A store is made empty or from a document, and is then changed by one operation after the other.
Whatever the operations were, no custom rule has a blank guid, and listings are what they should be.
So no set that is compiled with the bundled grammars from what such stores list is without a rule
because of its id: `RuleStore.reachable_keeps_identities`.

## Main definitions

* `RuleStore.Operation`, `RuleStore.operate` — what can be done to a store.
* `RuleStore.Reachable` — the stores that operations lead to.
* `RuleStore.Orderly` — what holds of all of them.
-/
namespace FisheryRules

namespace RuleStore

/-! ## Operations -/

/-- What can be done to a store. -/
inductive Operation
  | putSanity (rule : SanityRule) (stamp : Stamp)
  | putCustom (rule : CustomRule) (stamp : Stamp)
  | putBusiness (rule : BusinessRule) (stamp : Stamp)
  | removeSanity (name : String)
  | removeBusiness (brId : String)
  | archive (guid : String) (stamp : Stamp)
  | setOffline (offline : Bool)
  | markTriggered (guid : String) (t : Instant)

/-- The store after an operation. One that fails leaves it as it is. -/
def operate (store : RuleStore) (ids : IdSupply) : Operation → RuleStore
  | .putSanity rule stamp => (store.putSanity rule stamp).2
  | .putCustom rule stamp => (store.putCustom ids rule stamp).2.1
  | .putBusiness rule stamp => (store.putBusiness rule stamp).2
  | .removeSanity name => (store.removeSanity name).2
  | .removeBusiness brId => (store.removeBusiness brId).2
  | .archive guid stamp =>
    match store.archive guid stamp with
    | .ok (_, changed) => changed
    | .error _ => store
  | .setOffline offline => { store with online := !offline }
  | .markTriggered guid t =>
    match store.markTriggered guid t with
    | .ok changed => changed
    | .error _ => store

/-- The stores that operations lead to, from an empty store or from that of a document. Every
operation may draw from any supply of identifiers. -/
inductive Reachable : RuleStore → Prop
  | empty : Reachable {}
  | seeded (ids : IdSupply) (document : RuleDocument) : Reachable (ofDocument ids document).1
  | operated {store : RuleStore} (before : Reachable store) (ids : IdSupply)
      (operation : Operation) : Reachable (store.operate ids operation)

/-! ## Guids -/

/-- No custom rule has a blank guid. -/
def Named (store : RuleStore) : Prop :=
  ∀ rule ∈ store.custom.rows, Text.isBlankText rule.guid = false

variable {store : RuleStore}

theorem Named.put (h : store.Named) {rule : CustomRule}
    (hrule : Text.isBlankText rule.guid = false) :
    Named { store with custom := store.custom.put rule } := by
  intro other hother
  obtain rfl | ⟨hmem, -⟩ := Table.mem_put.1 hother
  · exact hrule
  · exact h other hmem

theorem guid_stamp (rule : CustomRule) (stamp : Stamp) : (rule.stamp stamp).guid = rule.guid := by
  unfold CustomRule.stamp
  split <;> rfl

/-- A custom rule that is put into a store has a guid by then. -/
theorem exists_of_putCustom (store : RuleStore) (ids : IdSupply) (rule : CustomRule)
    (stamp : Stamp) : ∃ stored, Text.isBlankText stored.guid = false ∧
      (store.putCustom ids rule stamp).2.1 = { store with custom := store.custom.put stored } := by
  by_cases hblank : Text.isBlankText rule.guid = true
  · refine ⟨{ rule with guid := ids.draw.1.toText }.stamp stamp, ?_, ?_⟩
    · rw [guid_stamp]
      exact Uuid.not_isBlankText_toText _
    · simp [putCustom, hblank]
  · refine ⟨rule.stamp stamp, ?_, ?_⟩
    · rw [guid_stamp]
      simpa using hblank
    · simp [putCustom, hblank]

theorem exists_of_archive {guid : String} {stamp : Stamp} {rule : CustomRule} {changed : RuleStore}
    (h : store.archive guid stamp = .ok (rule, changed)) :
    changed = store ∨ ∃ found ∈ store.custom.rows, rule.guid = found.guid ∧
      changed = { store with custom := store.custom.put rule } := by
  unfold archive at h
  cases hfind : store.custom.find? guid with
  | none => simp [hfind] at h
  | some found =>
    simp only [hfind] at h
    split at h
    · cases h
      exact .inl rfl
    · cases h
      exact .inr ⟨found, (Table.find?_eq_some_iff.1 hfind).1, rfl, rfl⟩

/-- When a rule fired is noted in its row. -/
theorem exists_of_markTriggered {guid : String} {t : Instant} {changed : RuleStore}
    (h : store.markTriggered guid t = .ok changed) :
    ∃ rule, store.custom.find? guid = some rule ∧ changed =
      { store with custom := store.custom.put { rule with lastTriggered := some t } } := by
  obtain ⟨-, -, h⟩ := bind_eq_ok.1 h
  cases hfind : store.custom.find? guid with
  | none =>
    rw [hfind] at h
    cases h
  | some rule =>
    rw [hfind] at h
    cases h
    exact ⟨rule, rfl, rfl⟩

/-- No operation leaves a rule without a guid. -/
theorem Named.operate (h : store.Named) (ids : IdSupply) (operation : Operation) :
    (store.operate ids operation).Named := by
  cases operation with
  | putCustom rule stamp =>
    obtain ⟨stored, hstored, heq⟩ := store.exists_of_putCustom ids rule stamp
    rw [RuleStore.operate, heq]
    exact h.put hstored
  | archive guid stamp =>
    unfold RuleStore.operate
    dsimp only
    split
    · next rule changed harchive =>
      obtain rfl | ⟨found, hmem, hguid, rfl⟩ := exists_of_archive harchive
      · exact h
      · exact h.put (hguid ▸ h found hmem)
    · exact h
  | markTriggered guid t =>
    unfold RuleStore.operate
    dsimp only
    split
    · next changed hmark =>
      obtain ⟨rule, hfind, rfl⟩ := exists_of_markTriggered hmark
      exact h.put (h rule (Table.find?_eq_some_iff.1 hfind).1)
    · exact h
  | putSanity | putBusiness | removeSanity | removeBusiness | setOffline => exact h

theorem Named.putCustomAll (h : store.Named) (ids : IdSupply) (rules : List CustomRule) :
    (store.putCustomAll ids rules).1.Named := by
  induction rules generalizing store ids with
  | nil => exact h
  | cons rule others ih =>
    obtain ⟨stored, hstored, heq⟩ := store.exists_of_putCustom ids rule unstamped
    have hput : (store.putCustom ids rule unstamped).2.1.Named := heq ▸ h.put hstored
    exact ih hput _

/-- Every custom rule of a store that operations lead to has a guid. -/
theorem Reachable.named (h : store.Reachable) : store.Named := by
  induction h with
  | empty => exact List.forall_mem_nil _
  | seeded ids document =>
    refine Named.putCustomAll ?_ ids document.customRules
    exact List.forall_mem_nil _
  | operated _ ids operation ih => exact ih.operate ids operation

/-! ## Listings -/

/-- What holds of a store, whatever was done to it. -/
structure Orderly (store : RuleStore) : Prop where
  /-- Rules are found under their own keys, and under no others. These three hold of every store by
  the type of its tables: a table carries the proof that its keys ascend, and `Table.put` and
  `Table.erase` give that proof for the new rows. -/
  sanity : ∀ name rule, store.sanity.find? name = some rule ↔
    rule ∈ store.sanity.rows ∧ rule.name = name
  custom : ∀ guid rule, store.custom.find? guid = some rule ↔
    rule ∈ store.custom.rows ∧ rule.guid = guid
  business : ∀ brId rule, store.business.find? brId = some rule ↔
    rule ∈ store.business.rows ∧ rule.brId = brId
  named : store.Named
  answers : ∀ category, (∃ snapshot, store.list category = .ok snapshot) ↔ store.online = true
  /-- What is listed ascends by its keys, and is what is in force. -/
  sanityListed : ∀ rules, store.listing.sanity = .ok rules →
    (rules.map SanityRule.name).Pairwise (· < ·) ∧ ∀ rule, rule ∈ rules ↔ rule ∈ store.sanity.rows
  customListed : ∀ rules, store.listing.custom = .ok rules →
    (rules.map CustomRule.guid).Pairwise (· < ·) ∧
      ∀ rule, rule ∈ rules ↔
        rule ∈ store.custom.rows ∧ rule.active = true ∧ rule.archived = false
  businessListed : ∀ rules, store.listing.business = .ok rules →
    (rules.map BusinessRule.brId).Pairwise (· < ·) ∧
      ∀ rule, rule ∈ rules ↔ rule ∈ store.business.rows ∧ rule.active = true

theorem exists_list_iff {category : RuleCategory} :
    (∃ snapshot, store.list category = .ok snapshot) ↔ store.online = true := by
  cases category <;> cases honline : store.online <;>
    simp [list, listing, Listing.answer, checkOnline, honline, Except.map]

theorem Named.orderly (h : store.Named) : store.Orderly where
  sanity _ _ := Table.find?_eq_some_iff
  custom _ _ := Table.find?_eq_some_iff
  business _ _ := Table.find?_eq_some_iff
  named := h
  answers _ := exists_list_iff
  sanityListed rules hrules := by
    obtain ⟨-, -, hrules⟩ := bind_eq_ok.1 hrules
    cases hrules
    exact ⟨store.sanity.ascending, fun _ => .rfl⟩
  customListed rules hrules := by
    obtain ⟨-, -, hrules⟩ := bind_eq_ok.1 hrules
    cases hrules
    refine ⟨store.custom.ascending.sublist (List.filter_sublist.map _), fun rule => ?_⟩
    simp [CustomRule.isRunnable]
  businessListed rules hrules := by
    obtain ⟨-, -, hrules⟩ := bind_eq_ok.1 hrules
    cases hrules
    refine ⟨store.business.ascending.sublist (List.filter_sublist.map _), fun rule => ?_⟩
    simp

theorem Named.of_list (h : store.Named) {category : RuleCategory} {snapshot : Snapshot}
    (hlisted : store.list category = .ok snapshot) :
    ∀ definition ∈ snapshot.definitions, definition.Named := by
  cases category <;> obtain ⟨rules, hrules, rfl⟩ := map_eq_ok.1 hlisted <;>
    obtain ⟨-, -, hrules⟩ := bind_eq_ok.1 hrules <;> cases hrules <;>
    rintro _ hmem <;> obtain ⟨rule, hrule, rfl⟩ := List.mem_map.1 hmem
  · trivial
  · exact h rule (List.mem_filter.1 hrule).1
  · trivial

/-! ## Refreshes -/

theorem Reachable.not_blamesIdentity (h : store.Reachable) {category : RuleCategory}
    {snapshot : Snapshot} (hlisted : store.list category = .ok snapshot) {fingerprint : String}
    {version : Nat} {set : RuleSet}
    (hset : Bundled.compiler.compile snapshot fingerprint version = .ok set) :
    ∀ failed ∈ set.failed, ¬ failed.BlamesIdentity :=
  Bundled.not_blamesIdentity (ascending_of_list hlisted).nodup (h.named.of_list hlisted) hset

/-- A set that is built by a refresh is made of what the store lists. -/
theorem exists_of_rebuilt {cache : Cache} {listing : Listing} {category : RuleCategory}
    {version rules failures : Nat}
    (h : (cache.refresh listing category).1 = .ok (.rebuilt version rules failures)) :
    ∃ snapshot set, listing.answer category = .ok snapshot ∧
      cache.compiler.compile snapshot snapshot.fingerprint version = .ok set ∧
      (cache.refresh listing category).2.current category = some set := by
  have habsorbed := Slot.absorb_absorbed (cache.slots category) cache.compiler
    (listing.answer category)
  rw [← Cache.result_refresh, ← Cache.slots_refresh_self, h] at habsorbed
  rw [Cache.current]
  generalize listing.answer category = answer at habsorbed
  generalize (cache.refresh listing category).2.slots category = next at habsorbed
  cases habsorbed with
  | rebuilt _ _ compiled => exact ⟨_, _, rfl, compiled, rfl⟩

/-- Whatever was done to stores, their rules are in order, and no set that the bundled grammars make
of what they list is without a rule because the rule has no guid or another one has its id. -/
theorem reachable_keeps_identities :
    (∀ store : RuleStore, store.Reachable → store.Orderly) ∧
    ∀ compiler, Compiler.bundled = .ok compiler →
      (∀ (cache : Cache) (store : RuleStore) (category : RuleCategory)
        (version rules failures : Nat), cache.compiler = compiler → store.Reachable →
        (cache.refresh store category).1 = .ok (.rebuilt version rules failures) →
        ∀ failed ∈ (cache.refresh store category).2.failedRules category,
          ¬ failed.BlamesIdentity) ∧
      ∀ calls : List Cache.Call,
        (∀ call ∈ calls, ∃ store : RuleStore, store.Reachable ∧ call.listing = store) →
        ∀ category, ∀ failed ∈ (Cache.after compiler calls).failedRules category,
          ¬ failed.BlamesIdentity := by
  refine ⟨fun store h => h.named.orderly, fun compiler hcompiler => ?_⟩
  obtain rfl : Bundled.compiler = compiler :=
    Except.ok.inj (Bundled.bundled_eq_ok.symm.trans hcompiler)
  constructor
  · intro cache store category version rules failures hcache hreachable hrebuilt
    obtain ⟨snapshot, set, hlisted, hset, hcurrent⟩ := exists_of_rebuilt hrebuilt
    rw [Cache.failedRules, hcurrent]
    exact hreachable.not_blamesIdentity hlisted (hcache ▸ hset)
  · intro calls hcalls category
    unfold Cache.failedRules
    cases hcurrent : (Cache.after Bundled.compiler calls).current category with
    | none => exact List.forall_mem_nil _
    | some set =>
      obtain ⟨call, hcall, hlisted⟩ := Cache.exists_listed hcurrent
      obtain ⟨store, hreachable, hstore⟩ := hcalls call hcall
      rw [hstore] at hlisted
      exact hreachable.not_blamesIdentity hlisted
        ((Cache.sound_after Bundled.compiler calls category).compiled set hcurrent)

/-- A rule that is put without a guid and without segments is reported for the segments. -/
theorem reachable_keeps_identities_noSegments :
    let rule : CustomRule := { guid := " ", name := "Swedish" }
    let store := operate {} ⟨Uuid.ofNat, 0⟩ (.putCustom rule unstamped)
    let cache : Cache := { compiler := Bundled.compiler }
    let next := Cache.after Bundled.compiler [.refresh .custom store]
    store.Reachable ∧ store.Orderly ∧
      (cache.refresh store .custom).1 = .ok (.rebuilt 1 0 1) ∧
      next.failedRules .custom = [.ofFlaw "Swedish" .noSegments] ∧
      (∀ failed ∈ (cache.refresh store .custom).2.failedRules .custom, ¬ failed.BlamesIdentity) ∧
      ∀ failed ∈ next.failedRules .custom, ¬ failed.BlamesIdentity := by
  intro rule store cache next
  have hreachable : store.Reachable := .operated .empty _ _
  obtain ⟨horderly, hrefreshes⟩ := reachable_keeps_identities
  obtain ⟨hrefresh, hcalls⟩ := hrefreshes Bundled.compiler Bundled.bundled_eq_ok
  let named : CustomRule := { rule with guid := (Uuid.ofNat 0).toText }
  let snapshot : Snapshot := .custom [named]
  have hrows : store.custom.rows = [named] := by decide
  have hlisted : (store : Listing).answer .custom = .ok snapshot := by
    have hanswer : (store : Listing).answer .custom =
        .ok (.custom (store.custom.rows.filter (·.isRunnable))) := rfl
    rw [hanswer, hrows]
    rfl
  obtain ⟨set, hset, hrules, hfailed⟩ := compile_settles snapshot snapshot.fingerprint 1
  have hverdict : (Definition.custom named).verdict = .error .noSegments := by
    have hactions : named.actionList = "" := by
      simp [CustomRule.actionList, CustomRule.actionChars, CustomRule.sortedActions, Text.joinWith,
        named, rule]
    have hlines : checkLines [("name", named.name), ("guid", named.guid), ("actions", "")] =
        .ok () :=
      checkLines_eq_ok.2 (by decide)
    simp [Definition.verdict, hactions, hlines, CustomRule.conditionChars,
      CustomRule.sortedSegments, named, rule]
  have hsettled : Entry.settleFrom [] snapshot.rowOrder =
      [⟨.custom named, .error (.ofFlaw "Swedish" .noSegments)⟩] := by
    have hkeys : (snapshot.rowOrder.map Definition.key).Nodup := List.nodup_singleton _
    rw [Entry.settleFrom_eq_map hkeys (by simp)]
    simp [snapshot, Snapshot.rowOrder, hverdict, Except.mapError, Definition.label, named, rule]
  rw [hsettled] at hrules hfailed
  have hrefused : set.failed = [.ofFlaw "Swedish" .noSegments] := List.perm_singleton.1 hfailed
  have hnone : set.rules = [] := hrules
  have hslot : next.slots .custom = { published := some set, state := .ready, nextVersion := 2 } :=
    Cache.slots_after_refresh hlisted rfl hset
  have hnext : next.failedRules .custom = [.ofFlaw "Swedish" .noSegments] := by
    rw [Cache.failedRules, Cache.current, hslot]
    exact hrefused
  have hrebuilt : (cache.refresh store .custom).1 = .ok (.rebuilt 1 0 1) := by
    have hsome : snapshot.isEmpty = false := rfl
    rw [Cache.result_refresh, hlisted]
    simp [cache, Slot.absorb, Slot.settle, Slot.rebuild, Slot.beginBuild, hsome, hset, hnone,
      hrefused]
  refine ⟨hreachable, horderly store hreachable, hrebuilt, hnext,
    hrefresh cache store .custom 1 0 1 rfl hreachable hrebuilt, ?_⟩
  refine hcalls _ (fun call hcall => ⟨store, hreachable, ?_⟩) .custom
  obtain rfl := List.mem_singleton.1 hcall
  rfl

end RuleStore

end FisheryRules
