import FisheryRules.Proofs.Registry.CacheHits
import FisheryRules.Proofs.Registry.Seeding
import FisheryRules.Service.Checker

/-!
# What the checker finds

The checker fails exactly if some definition in force in the files at its path is not published, and
then it counts those that are not: `Checker.check_exact`. Definitions of a document that is accepted
have keys of their own, so every one of them is settled on its own merits, and the reports on what
is left out of a set are as many as the definitions whose rules are not in it.

## Main definitions

* `RuleDocument.inForce` — the definitions of a document that rule sets are made from.
* `Definition.PublishedIn` — the set of its category has the rule of a definition.
-/
namespace FisheryRules

/-! ## What is published -/

/-- The rules in service for a category. -/
def Cache.rules (cache : Cache) (category : RuleCategory) : List CompiledRule :=
  ((cache.current category).map (·.rules)).getD []

/-- The set of its category has the rule with the key of the definition. -/
def Definition.PublishedIn (definition : Definition) (cache : Cache) : Prop :=
  definition.key ∈ (cache.rules definition.category).map (·.id)

instance (definition : Definition) (cache : Cache) : Decidable (definition.PublishedIn cache) :=
  inferInstanceAs (Decidable (_ ∈ _))

theorem CompiledRule.Carries.id_eq {rule : CompiledRule} {definition : Definition}
    (h : rule.Carries definition) : rule.id = definition.key := by
  cases definition <;> exact h.1

namespace Entry

variable {definitions : List Definition}

/-- Where definitions have keys of their own, one whose key is published states the rule. -/
theorem key_mem_publishedIds_iff (hkeys : (definitions.map Definition.key).Nodup)
    {definition : Definition} (hmem : definition ∈ definitions) :
    definition.key ∈ publishedIds (settleFrom [] definitions) ↔
      definition.verdict.isOk = true := by
  rw [publishedIds, published_settleFrom hkeys (by simp), isOk_iff]
  constructor
  · intro hkey
    obtain ⟨rule, hrule, hid⟩ := List.mem_map.1 hkey
    obtain ⟨other, hother, hverdict⟩ := List.mem_filterMap.1 hrule
    rw [toOption_eq_some] at hverdict
    have hsame : other.key = definition.key := (Definition.id_of_verdict hverdict).symm.trans hid
    obtain rfl := List.inj_on_of_nodup_map hkeys hother hmem hsame
    exact ⟨rule, hverdict⟩
  · rintro ⟨rule, hverdict⟩
    rw [← Definition.id_of_verdict hverdict]
    exact List.mem_map_of_mem
      (List.mem_filterMap.2 ⟨definition, hmem, toOption_eq_some.2 hverdict⟩)

/-- There are as many reports as definitions that are not published. -/
theorem length_refused (hkeys : (definitions.map Definition.key).Nodup) :
    (refused (settleFrom [] definitions)).length =
      definitions.countP fun definition =>
        definition.key ∉ publishedIds (settleFrom [] definitions) := by
  have hnot : ∀ definition ∈ definitions,
      (decide (definition.key ∉ publishedIds (settleFrom [] definitions)) = true ↔
        (!definition.verdict.isOk) = true) := by
    intro definition hmem
    simp [key_mem_publishedIds_iff hkeys hmem]
  rw [List.countP_congr hnot, settleFrom_eq_map hkeys (by simp), refused, List.filterMap_map,
    List.length_filterMap_eq_countP]
  refine List.countP_congr fun definition _ => ?_
  cases hverdict : definition.verdict <;>
    simp [hverdict, Except.mapError, Except.isOk, Except.toBool]

end Entry

/-- A set made of definitions with keys of their own reports each of them that it has no rule of,
and the rules with their keys are theirs. -/
theorem Bundled.compile_reports {snapshot : Snapshot} {fingerprint : String} {version : Nat}
    {set : RuleSet} (hkeys : (snapshot.definitions.map Definition.key).Nodup)
    (hset : Bundled.compiler.compile snapshot fingerprint version = .ok set) :
    set.failed.length =
        snapshot.definitions.countP (fun definition => definition.key ∉ set.rules.map (·.id)) ∧
      ∀ definition ∈ snapshot.definitions, definition.key ∈ set.rules.map (·.id) →
        ∃ rule ∈ set.rules, rule.Carries definition := by
  obtain ⟨settled, hsettled, hrules, hfailed⟩ := compile_settles snapshot fingerprint version
  obtain rfl : settled = set := Except.ok.inj (hsettled.symm.trans hset)
  have hrowKeys : (snapshot.rowOrder.map Definition.key).Nodup :=
    (snapshot.rowOrder_perm.map _).nodup_iff.2 hkeys
  have hids : settled.rules.map (·.id) =
      Entry.publishedIds (Entry.settleFrom [] snapshot.rowOrder) := by
    rw [hrules, List.map_map]
    rfl
  constructor
  · rw [hids, ← snapshot.rowOrder_perm.countP_eq, hfailed.length_eq, Entry.length_refused hrowKeys]
  · intro definition hmem hkey
    have hrow : definition ∈ snapshot.rowOrder := snapshot.rowOrder_perm.mem_iff.2 hmem
    rw [hids, Entry.key_mem_publishedIds_iff hrowKeys hrow, isOk_iff] at hkey
    obtain ⟨rule, hverdict⟩ := hkey
    refine ⟨snapshot.complete rule, ?_, Snapshot.complete_carries
      (Definition.carries_of_verdict hverdict)⟩
    rw [hrules, Entry.published_settleFrom hrowKeys (by simp)]
    exact List.mem_map_of_mem
      (List.mem_filterMap.2 ⟨definition, hrow, toOption_eq_some.2 hverdict⟩)

/-! ## The first refresh of a category -/

/-- A slot accounts for definitions: as many reports as it has no rule of, and their rules. -/
structure Slot.AccountsFor (slot : Slot) (definitions : List Definition) : Prop where
  reports : ((slot.published.map (·.failed)).getD []).length =
    definitions.countP fun definition =>
      definition.key ∉ ((slot.published.map (·.rules)).getD []).map (·.id)
  carries : ∀ definition ∈ definitions,
    definition.key ∈ ((slot.published.map (·.rules)).getD []).map (·.id) →
      ∃ rule ∈ (slot.published.map (·.rules)).getD [], rule.Carries definition

/-- The first refresh of a slot with the bundled grammars succeeds and accounts for what was
listed. -/
theorem Slot.Absorbed.accountsFor {snapshot : Snapshot} {next : Slot}
    {result : Except RefreshError RefreshOutcome}
    (h : Slot.Absorbed Bundled.compiler {} (.ok snapshot) result next)
    (hkeys : (snapshot.definitions.map Definition.key).Nodup) :
    (∃ outcome, result = .ok outcome) ∧ next.AccountsFor snapshot.definitions := by
  cases h with
  | emptied hnone =>
    have hnil : snapshot.definitions = [] := by
      rw [← List.length_eq_zero_iff, snapshot.length_definitions]
      simpa [Snapshot.isEmpty] using hnone
    rw [hnil]
    exact ⟨⟨_, rfl⟩, rfl, List.forall_mem_nil _⟩
  | unchanged _ hpublished => cases hpublished
  | rebuilt _ _ hset =>
    obtain ⟨hreports, hcarries⟩ := Bundled.compile_reports hkeys hset
    exact ⟨⟨_, rfl⟩, hreports, hcarries⟩
  | failed _ _ hrefused =>
    obtain ⟨set, hset, -⟩ := compile_settles snapshot snapshot.fingerprint 1
    cases hset.symm.trans hrefused

/-! ## Documents and stores -/

/-- The definitions of a document in force: all sanity rules, the custom rules that are active and
not archived, and the active business rules. -/
def RuleDocument.inForce (document : RuleDocument) : List Definition :=
  document.sanityRules.map .sanity ++
    ((document.customRules.filter fun rule => rule.active && !rule.archived).map .custom ++
      (document.businessRules.filter (·.active)).map .business)

/-- The definitions in force of several documents are those of each of them. -/
theorem RuleDocument.inForce_joined_perm (documents : List RuleDocument) :
    (joined documents).inForce.Perm (documents.flatMap inForce) := by
  simp only [inForce, joined, List.filter_flatMap, List.map_flatMap]
  exact ((List.flatMap_append_perm documents _ _).append_left _).trans
    (List.flatMap_append_perm documents _ _)

/-- The definition as it is stored. -/
inductive Definition.StoredAs (generated : List String) : Definition → Definition → Prop
  | sanity (rule : SanityRule) : StoredAs generated (.sanity rule) (.sanity rule)
  | custom {rule stored : CustomRule} (stores : rule.StoredAs generated stored) :
      StoredAs generated (.custom rule) (.custom stored)
  | business (rule : BusinessRule) : StoredAs generated (.business rule) (.business rule)

namespace RuleStore

variable {store : RuleStore} {document : RuleDocument} {generated : List String}

/-- The definitions of a category that are in force. -/
def inForce (store : RuleStore) : RuleCategory → Snapshot
  | .sanity => .sanity store.sanity.rows
  | .custom => .custom (store.custom.rows.filter (·.isRunnable))
  | .business => .business (store.business.rows.filter (·.active))

/-- The definitions in force of all categories. -/
def allInForce (store : RuleStore) : List Definition :=
  RuleCategory.all.flatMap fun category => (store.inForce category).definitions

/-- A store that is online lists what is in force. -/
theorem list_eq_inForce (honline : store.online = true) (category : RuleCategory) :
    store.list category = .ok (store.inForce category) := by
  have hcheck : store.checkOnline = .ok () := by rw [checkOnline, if_pos honline]
  cases category <;> simp only [list, Listing.answer, listing, hcheck] <;> rfl

theorem category_of_mem_inForce {category : RuleCategory} {definition : Definition}
    (hmem : definition ∈ (store.inForce category).definitions) :
    definition.category = category := by
  rw [Snapshot.category_of_mem hmem]
  cases category <;> rfl

theorem Holds.inForce (h : store.Holds document generated) :
    ∃ stored, List.Forall₂ (Definition.StoredAs generated) document.inForce stored ∧
      store.allInForce.Perm stored := by
  obtain ⟨stored, heach, hrows⟩ := h.custom
  have hrunnable : List.Forall₂ (CustomRule.StoredAs generated)
      (document.customRules.filter (·.isRunnable)) (stored.filter (·.isRunnable)) := by
    refine List.rel_filter (fun rule row hrow => ?_) heach
    cases hrow <;> rfl
  refine ⟨document.sanityRules.map .sanity ++ ((stored.filter (·.isRunnable)).map .custom ++
    (document.businessRules.filter (·.active)).map .business), ?_, ?_⟩
  · refine List.rel_append ?_ (List.rel_append ?_ ?_)
    · exact List.forall₂_same.2 (List.forall_mem_map.2 fun rule _ => .sanity rule)
    · exact List.rel_map (fun _ _ hrow => .custom hrow) hrunnable
    · exact List.forall₂_same.2 (List.forall_mem_map.2 fun rule _ => .business rule)
  · simp only [allInForce, RuleCategory.all, List.flatMap_cons, List.flatMap_nil, List.append_nil,
      RuleStore.inForce, Snapshot.definitions]
    exact (h.sanity.map _).append
      (((hrows.filter _).map _).append ((h.business.filter _).map _))

end RuleStore

/-! ## Counting problems -/

namespace Checker

/-- What the refresh of one category adds to the problems. -/
def problemsOf (cache : Cache) (store : RuleStore) (category : RuleCategory) : Nat :=
  (match (cache.refresh store category).1 with
    | .ok _ => 0
    | .error _ => 1) + ((cache.refresh store category).2.failedRules category).length

/-- The problems of categories are those of each of them. -/
theorem problems_eq (cache : Cache) (store : RuleStore) {categories : List RuleCategory}
    (distinct : categories.Nodup) :
    problems cache store categories = (categories.map (problemsOf cache store)).sum := by
  induction categories generalizing cache with
  | nil => rfl
  | cons first others ih =>
    obtain ⟨hfirst, hothers⟩ := List.nodup_cons.1 distinct
    have happart : others.map (problemsOf (cache.refresh store first).2 store) =
        others.map (problemsOf cache store) := by
      refine List.map_congr_left fun category hmem => ?_
      obtain ⟨hresult, hslot⟩ :=
        cache.refresh_after_other store fun heq : category = first => hfirst (heq ▸ hmem)
      rw [problemsOf, problemsOf, Cache.failedRules, Cache.failedRules, Cache.current,
        Cache.current, hresult, hslot]
    rw [List.map_cons, List.sum_cons, ← happart, ← ih _ hothers]
    rfl

/-- The cache after the check of a store. -/
def checked (store : RuleStore) : Cache :=
  (({ compiler := Bundled.compiler } : Cache).refreshAll store).2

variable {store : RuleStore}

/-- Every refresh of a check succeeds, and its slot accounts for what is in force. -/
theorem refresh_accountsFor (honline : store.online = true) (category : RuleCategory) :
    (∃ outcome, (({ compiler := Bundled.compiler } : Cache).refresh store category).1 =
        .ok outcome) ∧
      ((checked store).slots category).AccountsFor (store.inForce category).definitions := by
  have hlist := RuleStore.list_eq_inForce honline category
  have haccounts := (Slot.absorb_absorbed {} Bundled.compiler
    (.ok (store.inForce category))).accountsFor (RuleStore.ascending_of_list hlist).nodup
  rw [← hlist] at haccounts
  rw [checked, (Cache.refreshAll_spec _ store).2.1, Cache.slots_refresh_self]
  exact haccounts

/-- What is published for a definition in force is in the slot of the category that lists it. -/
theorem publishedIn_iff {category : RuleCategory} {definition : Definition} {cache : Cache}
    (hmem : definition ∈ (store.inForce category).definitions) :
    definition.PublishedIn cache ↔
      definition.key ∈ (cache.rules category).map (·.id) := by
  rw [Definition.PublishedIn, RuleStore.category_of_mem_inForce hmem]

/-- The problems of a store are the definitions in force that are not published. -/
theorem problems_eq_countP (honline : store.online = true) :
    problems { compiler := Bundled.compiler } store RuleCategory.all =
      store.allInForce.countP fun definition => ¬ definition.PublishedIn (checked store) := by
  rw [problems_eq _ _ (by decide), RuleStore.allInForce, List.countP_flatMap]
  refine congrArg List.sum (List.map_congr_left fun category _ => ?_)
  obtain ⟨⟨outcome, houtcome⟩, hreports, -⟩ := refresh_accountsFor honline category
  rw [problemsOf, houtcome, Nat.zero_add, Cache.failedRules, Cache.current,
    ← (Cache.refreshAll_spec _ _).2.1, ← checked, hreports]
  refine List.countP_congr fun definition hmem => ?_
  rw [decide_eq_true_iff, decide_eq_true_iff, publishedIn_iff hmem]
  rfl

/-- A definition in force that is published has a rule that says what it says. -/
theorem carries_of_publishedIn (honline : store.online = true) {definition : Definition}
    (hmem : definition ∈ store.allInForce) (hpublished : definition.PublishedIn (checked store)) :
    ∃ rule ∈ (checked store).rules definition.category, rule.Carries definition := by
  obtain ⟨category, -, hmem⟩ := List.mem_flatMap.1 hmem
  rw [RuleStore.category_of_mem_inForce hmem]
  exact (refresh_accountsFor honline category).2.carries definition hmem
    ((publishedIn_iff hmem).1 hpublished)

/-- A check counts the problems of the store that the configuration asks for. -/
theorem check_eq {environment : Environment} {files : FileLookup} {ids : IdSupply}
    {config : Config} (hconfig : Config.load environment = .ok config)
    (hstore : RuleStore.seed config files ids = .ok store) :
    check environment files ids =
      if 0 < problems { compiler := Bundled.compiler } store RuleCategory.all then
        .error (.problems (problems { compiler := Bundled.compiler } store RuleCategory.all))
      else .ok () := by
  rw [check, hconfig, Bundled.bundled_eq_ok]
  change (RuleStore.seed config files ids).mapError CheckError.seeding >>= _ = _
  rw [hstore]
  rfl

end Checker

end FisheryRules
