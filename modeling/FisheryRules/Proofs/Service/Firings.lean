import FisheryRules.Proofs.Evaluation.FiringSources
import FisheryRules.Proofs.Registry.CacheRuns
import FisheryRules.Proofs.Response.AlarmReports
import FisheryRules.Proofs.RuleSet.Fingerprint
import FisheryRules.Service.Monitor

/-!
# Firings of the running module

Whatever happens to the module, the rules in service are those of definitions, compiled with the
bundled grammars. So the category of a firing, its effect and its fact match, whatever was evaluated
in which category; and the dispatch never meets a fact of the wrong kind:
`Monitor.evaluateBatch_matches`.

## Main definitions

* `Firing.Matches` — the category, the effect and the fact of a firing match.
* `Batch`, `Monitor.evaluateBatch` — evaluation of facts, or of contents as new facts.
* `Monitor.Event`, `Monitor.run` — what happens to the module.
-/
namespace FisheryRules

/-! ## Rules of definitions -/

/-- A custom rule without a guid states no rule. -/
theorem Definition.guid_ne_of_verdict {definition : CustomRule} {rule : CompiledRule}
    (h : (Definition.custom definition).verdict = .ok rule) : definition.guid ≠ "" := by
  simp only [verdict, bind_eq_ok, throw_eq_error, error_bind, guarded_eq_ok] at h
  obtain ⟨-, -, source, -, condition, -, hguid, -⟩ := h
  simpa using hguid

/-- Every rule of a set that was compiled with the bundled grammars is stated by a definition. -/
theorem Bundled.exists_verdict {snapshot : Snapshot} {fingerprint : String} {version : Nat}
    {set : RuleSet} (hset : Bundled.compiler.compile snapshot fingerprint version = .ok set)
    {rule : CompiledRule} (hrule : rule ∈ set.rules) :
    ∃ definition ∈ snapshot.definitions, ∃ stated, definition.verdict = .ok stated ∧
      rule = snapshot.complete stated := by
  obtain ⟨settled, hsettled, hrules, -⟩ := compile_settles snapshot fingerprint version
  obtain rfl : settled = set := Except.ok.inj (hsettled.symm.trans hset)
  rw [hrules] at hrule
  obtain ⟨stated, hstated, rfl⟩ := List.mem_map.1 hrule
  obtain ⟨entry, hentry, houtcome⟩ := List.mem_filterMap.1 hstated
  have hrow : entry.definition ∈ snapshot.rowOrder :=
    Entry.map_definition_settleFrom [] snapshot.rowOrder ▸ List.mem_map_of_mem hentry
  obtain ⟨before, after, hsplit⟩ := List.append_of_mem hentry
  rw [Entry.outcome_eq_settle hsplit, toOption_eq_some] at houtcome
  exact ⟨entry.definition, snapshot.rowOrder_perm.mem_iff.1 hrow, stated,
    Definition.verdict_of_settle houtcome, rfl⟩

/-! ## Firings of definitions -/

/-- The category of a firing, its effect and its fact match, by one of the definitions: alarms are
raised in the sanity category, for reports as received; actions are carried out in the custom
category, for enriched reports, and under the guid of their rule, which is not empty; and outcomes
are attached in the business category, to facts of the type that their rule is declared for. -/
def Firing.Matches (definitions : List Definition) (firing : Firing) : Prop :=
  match firing.effect with
  | .alarm =>
    firing.category = .sanity ∧ (∃ report, firing.fact = .rawMovement report) ∧
      ∃ rule, .sanity rule ∈ definitions ∧ firing.ruleId = rule.name
  | .custom guid actions =>
    firing.category = .custom ∧ (∃ movement, firing.fact = .movement movement) ∧
      firing.ruleId = guid ∧ guid ≠ "" ∧
      ∃ rule, .custom rule ∈ definitions ∧ guid = rule.guid ∧ actions = rule.actionList
  | .outcome severity level message fieldPath =>
    firing.category = .business ∧
      ∃ rule, .business rule ∈ definitions ∧ firing.ruleId = rule.brId ∧
        firing.fact.factType = rule.factType ∧ severity = rule.errorType ∧ level = rule.level ∧
        message = rule.message ∧ fieldPath = rule.propertyNames.getD ""

theorem Payload.exists_rawMovement {payload : Payload} (h : payload.factType = .rawMovement) :
    ∃ report, payload = .rawMovement report := by
  cases payload with
  | rawMovement report => exact ⟨report, rfl⟩
  | _ => cases h

theorem Payload.exists_movement {payload : Payload} (h : payload.factType = .movement) :
    ∃ movement, payload = .movement movement := by
  cases payload with
  | movement movement => exact ⟨movement, rfl⟩
  | _ => cases h

/-- What matches suits the dispatch. -/
theorem Firing.Matches.suited {definitions : List Definition} {firing : Firing}
    (h : firing.Matches definitions) : firing.Suited := by
  rw [Matches] at h
  rw [Suited]
  cases heffect : firing.effect with
  | alarm =>
    rw [heffect] at h
    exact h.2.1
  | custom guid actions =>
    rw [heffect] at h
    exact h.2.1
  | outcome => trivial

variable {set : RuleSet} {now : Instant} {facts : List Fact} {firing : Firing}

/-- The firings of a set that was compiled with the bundled grammars match its definitions. -/
theorem RuleSet.Fires.matches {fingerprint : String} {version : Nat}
    (hset : Bundled.compiler.compile set.snapshot fingerprint version = .ok set)
    (h : set.Fires now facts firing) :
    firing.category = set.category ∧ firing.Matches set.snapshot.definitions ∧
      ∃ fact ∈ facts, firing.factId = fact.id ∧ firing.fact = fact.payload := by
  obtain ⟨rule, hrule, fact, hfact, htype, rfl⟩ := h
  refine ⟨rfl, ?_, fact, hfact, rfl, rfl⟩
  obtain ⟨definition, hmem, stated, hverdict, rfl⟩ := Bundled.exists_verdict hset hrule
  have hcategory : set.category = definition.category := (Snapshot.category_of_mem hmem).symm
  have hcarries := Definition.carries_of_verdict hverdict
  have hfactType : fact.payload.factType = stated.factType := htype.symm
  unfold Firing.Matches
  cases definition with
  | sanity definition =>
    obtain ⟨hid, -, hstated, heffect, -⟩ := hcarries
    simp only [CompiledRule.firing, Snapshot.complete, heffect]
    exact ⟨hcategory, Payload.exists_rawMovement (hfactType.trans hstated), definition, hmem, hid⟩
  | custom definition =>
    obtain ⟨hid, -, hstated, heffect, -⟩ := hcarries
    simp only [CompiledRule.firing, Snapshot.complete, heffect]
    exact ⟨hcategory, Payload.exists_movement (hfactType.trans hstated), hid,
      Definition.guid_ne_of_verdict hverdict, definition, hmem, rfl, rfl⟩
  | business definition =>
    obtain ⟨hid, -, hstated, heffect, -⟩ := hcarries
    simp only [CompiledRule.firing, Snapshot.complete, heffect]
    exact ⟨hcategory, definition, hmem, hid, hfactType.trans hstated, rfl, rfl, rfl, rfl⟩

/-! ## Runs of the module -/

/-- What is evaluated at once: facts, or contents that are made facts. -/
inductive Batch
  | facts (facts : List Fact)
  | contents (payloads : List Payload)

/-- The facts of a batch that is evaluated with some identifiers to come. -/
def Batch.newFacts (ids : IdSupply) : Batch → List Fact
  | .facts given => given
  | .contents payloads => (Monitor.newFacts ids payloads).1

namespace RefreshWorker

variable (worker : RefreshWorker) (cache : Cache) (store : RuleStore)

/-- The worker refreshes categories, and does nothing else to the cache. -/
theorem exists_calls_steps (bound : Nat) : ∃ calls : List Cache.Call,
    (worker.steps bound cache store).2 = calls.foldl Cache.serve cache := by
  induction bound generalizing worker cache with
  | zero => exact ⟨[], rfl⟩
  | succ bound ih =>
    rw [steps]
    split
    · next category next _ =>
      obtain ⟨calls, hcalls⟩ := ih next (cache.refresh store category).2
      exact ⟨.refresh category store :: calls, hcalls⟩
    · next next _ => exact ih next cache
    · exact ⟨[], rfl⟩

theorem exists_calls_settle : ∃ calls : List Cache.Call,
    (worker.settle cache store).2 = calls.foldl Cache.serve cache :=
  worker.exists_calls_steps cache store worker.stepBound

theorem exists_calls_advance (seconds : Nat) : ∃ calls : List Cache.Call,
    (worker.advance seconds cache store).2 = calls.foldl Cache.serve cache := by
  obtain ⟨calls, hcalls⟩ := worker.exists_calls_settle cache store
  rw [advance]
  generalize worker.settle cache store = settled at hcalls
  obtain ⟨next, refreshed⟩ := settled
  obtain ⟨further, hfurther⟩ := (next.elapse seconds).exists_calls_settle refreshed store
  refine ⟨calls ++ further, ?_⟩
  rw [List.foldl_append, ← hcalls]
  exact hfurther

end RefreshWorker

namespace Monitor

/-- Evaluates a batch in a category, and dispatches the firings. -/
def evaluateBatch (monitor : Monitor) (category : RuleCategory) : Batch → BatchOutcome × Monitor
  | .facts facts => monitor.evaluate category facts
  | .contents payloads => monitor.evaluateNew category payloads

/-- What happens to the module. -/
inductive Event
  | evaluate (category : RuleCategory) (batch : Batch)
  | checkSilence (reports : List PreviousReport)
  | refresh (category : RuleCategory)
  | requestRefresh (category : RuleCategory)
  /-- The worker makes some steps. -/
  | work (steps : Nat)
  /-- Time passes for the worker. -/
  | advance (seconds : Nat)
  | shutdown
  /-- The stores are edited, calls begin or cease to fail, the clock goes on. -/
  | change (services : Services)

/-- The module after an event. A request that the worker does not take changes nothing. -/
def serve (monitor : Monitor) : Event → Monitor
  | .evaluate category batch => (monitor.evaluateBatch category batch).2
  | .checkSilence reports => (monitor.checkSilence reports).2
  | .refresh category => (monitor.refresh category).2
  | .requestRefresh category => (monitor.requestRefresh category).toOption.getD monitor
  | .work bound =>
    let (worker, cache) := monitor.worker.steps bound monitor.cache monitor.services.rules
    { monitor with worker, cache }
  | .advance seconds => monitor.advance seconds
  | .shutdown => monitor.shutdown
  | .change services => { monitor with services }

/-- The module after some events. -/
def run (monitor : Monitor) (events : List Event) : Monitor := events.foldl serve monitor

/-- The cache has only been refreshed, with the bundled grammars. -/
def Regular (monitor : Monitor) : Prop :=
  ∃ calls, monitor.cache = Cache.after Bundled.compiler calls

variable {monitor next : Monitor}

theorem Regular.of_calls (h : monitor.Regular)
    (hcalls : ∃ calls : List Cache.Call, next.cache = calls.foldl Cache.serve monitor.cache) :
    next.Regular := by
  obtain ⟨earlier, hcache⟩ := h
  obtain ⟨calls, hnext⟩ := hcalls
  refine ⟨earlier ++ calls, ?_⟩
  rw [hnext, hcache, Cache.after, Cache.after, List.foldl_append]

theorem Regular.serve (h : monitor.Regular) (event : Event) : (monitor.serve event).Regular := by
  cases event with
  | evaluate category batch => cases batch <;> exact h
  | checkSilence | change => exact h
  | refresh category => exact h.of_calls ⟨[.refresh category monitor.services.rules], rfl⟩
  | requestRefresh category =>
    rw [Monitor.serve, requestRefresh]
    split <;> exact h
  | work bound => exact h.of_calls (monitor.worker.exists_calls_steps _ _ bound)
  | advance seconds => exact h.of_calls (monitor.worker.exists_calls_advance _ _ seconds)
  | shutdown => exact h.of_calls (monitor.worker.shutdown.exists_calls_settle _ _)

theorem Regular.run (h : monitor.Regular) (events : List Event) : (monitor.run events).Regular := by
  induction events generalizing monitor with
  | nil => exact h
  | cons event others ih => exact ih (h.serve event)

/-- The module starts, whatever its stores hold. -/
theorem start_regular (config : Config) (services : Services) (lookup : Option Lookup) :
    ∃ monitor, start config services lookup = .ok monitor ∧ monitor.Regular := by
  rw [start, Bundled.bundled_eq_ok]
  exact ⟨_, rfl, [.refreshAll services.rules], rfl⟩

/-- What is in service was compiled with the bundled grammars. -/
theorem Regular.compiled (h : monitor.Regular) {category : RuleCategory} {set : RuleSet}
    (hset : monitor.cache.current category = some set) :
    set.category = category ∧
      Bundled.compiler.compile set.snapshot set.fingerprint set.version = .ok set := by
  obtain ⟨calls, hcache⟩ := h
  rw [hcache] at hset
  have hsound := Cache.sound_after Bundled.compiler calls category
  exact ⟨hsound.category set hset, hsound.compiled set hset⟩

/-- A batch is evaluated as its facts are. -/
theorem evaluateBatch_eq (monitor : Monitor) (category : RuleCategory) (batch : Batch) :
    ∃ services, services.journal = monitor.services.journal ∧
      let report := RuleSet.evaluate (monitor.cache.current category) monitor.services.now
        monitor.lookup (batch.newFacts monitor.services.ids)
      let dispatched := Dispatch.dispatchAll monitor.dispatch report.firings services
      monitor.evaluateBatch category batch =
        (⟨report, dispatched.1⟩, { monitor with services := dispatched.2 }) := by
  cases batch with
  | facts facts => exact ⟨monitor.services, rfl, rfl⟩
  | contents payloads =>
    exact ⟨{ monitor.services with ids := (newFacts monitor.services.ids payloads).2 }, rfl, rfl⟩

/-- What comes of a batch that a module evaluates in a category: its firings match the definitions
in service, and so do the alarms and the failures of the dispatch. -/
structure Matched (monitor : Monitor) (category : RuleCategory) (batch : Batch)
    (evaluated : BatchOutcome × Monitor) : Prop where
  firings : ∀ firing ∈ evaluated.1.report.firings,
    ∃ set, monitor.cache.current category = some set ∧
      firing.category = category ∧ firing.Matches set.snapshot.definitions ∧
      ∃ fact ∈ batch.newFacts monitor.services.ids,
        firing.factId = fact.id ∧ firing.fact = fact.payload
  /-- No fact turns out not to be a movement. -/
  failed : ∀ failed ∈ evaluated.1.dispatched.failed, ∀ fact, failed.error ≠ .notAMovement fact
  alarms : ∃ triggers : List Firing, triggers.Sublist evaluated.1.report.firings ∧
    List.Forall₂ Alarm.HoldsTrigger evaluated.1.dispatched.alarms triggers
  /-- No other alarms are created. -/
  created : ∃ entries, evaluated.2.services.journal = monitor.services.journal ++ entries ∧
    (entries.filterMap JournalEntry.created?).filterMap Incident.alarm? =
      evaluated.1.dispatched.alarms

theorem Regular.matched (h : monitor.Regular) (category : RuleCategory) (batch : Batch) :
    monitor.Matched category batch (monitor.evaluateBatch category batch) := by
  obtain ⟨services, hjournal, hevaluated⟩ := monitor.evaluateBatch_eq category batch
  rw [hevaluated]
  generalize hreport : RuleSet.evaluate (monitor.cache.current category) monitor.services.now
    monitor.lookup (batch.newFacts monitor.services.ids) = report
  have hfirings : ∀ firing ∈ report.firings, ∃ set, monitor.cache.current category = some set ∧
      firing.category = category ∧ firing.Matches set.snapshot.definitions ∧
      ∃ fact ∈ batch.newFacts monitor.services.ids,
        firing.factId = fact.id ∧ firing.fact = fact.payload := by
    intro firing hfiring
    rw [← hreport] at hfiring
    obtain ⟨set, hset, hfires⟩ := RuleSet.exists_rule_of_firing hfiring
    obtain ⟨hcategory, hcompiled⟩ := h.compiled hset
    obtain ⟨hfiring, hmatches⟩ := hfires.matches hcompiled
    exact ⟨set, hset, hfiring.trans hcategory, hmatches⟩
  have hsuited : ∀ firing ∈ report.firings, firing.Suited := by
    intro firing hfiring
    obtain ⟨set, -, -, hmatches, -⟩ := hfirings firing hfiring
    exact hmatches.suited
  obtain ⟨halarms, hfailed⟩ := Dispatch.dispatchAll_answers monitor.dispatch services hsuited
  obtain ⟨entries, made, refused, hbooks, hshows⟩ :=
    Dispatch.dispatchAll_recorded monitor.dispatch services report.firings
  refine ⟨hfirings, ?_, halarms, entries, ?_, ?_⟩
  · intro failed hmem fact herror
    have hinAction := hfailed failed hmem
    rw [herror] at hinAction
    exact hinAction
  · rw [← hjournal]
    exact hbooks.journal
  · rw [hbooks.created]
    exact hshows.alarms.symm

/-- Whatever happened to the module, and whatever is evaluated in which category, the category of
every firing, its effect and its fact match, by a definition in service. So the dispatch never finds
that a fact is not a movement, and every alarm that it creates holds the report that triggered it,
with its plugin and its asset. -/
theorem evaluateBatch_matches (config : Config) (services : Services) (lookup : Option Lookup)
    (events : List Event) (category : RuleCategory) (batch : Batch) :
    ∃ started, start config services lookup = .ok started ∧
      (started.run events).Matched category batch
        ((started.run events).evaluateBatch category batch) := by
  obtain ⟨started, hstarted, hregular⟩ := start_regular config services lookup
  exact ⟨started, hstarted, (hregular.run events).matched category batch⟩

end Monitor

end FisheryRules
