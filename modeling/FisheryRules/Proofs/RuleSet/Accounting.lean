import FisheryRules.Proofs.RuleSet.Settlement

/-!
# Accounting for definitions

Main statements about the compiler with the bundled grammars, for any snapshot whatsoever.

* `Compiler.bundled_accounts` — it gives a rule set in which every definition is accounted for
  once, published or excluded, on its own merits.
* `Compiler.bundled_carries` — every rule in the set says cell by cell what its definition says.
-/
namespace FisheryRules

/-! ## Containment -/

/-- The entries say of every definition of a snapshot what became of it in a rule set. -/
structure RuleSet.AccountedBy (set : RuleSet) (snapshot : Snapshot) (entries : List Entry) :
    Prop where
  /-- Every definition has one entry, in the order of the rows. -/
  definitions : entries.map (·.definition) = snapshot.rowOrder
  published : set.rules = (Entry.published entries).map snapshot.complete
  refused : set.failed.Perm (Entry.refused entries)
  /-- A definition is excluded under its own name. -/
  label : ∀ entry ∈ entries, ∀ failed, entry.outcome = .error failed →
    failed.name = entry.definition.label
  /-- The other definitions only matter by the ids that those before have taken. -/
  settled : ∀ before entry after, entries = before ++ entry :: after →
    entry.outcome = entry.definition.settle (Entry.publishedIds before)

theorem Definition.label_of_settle {definition : Definition} {ids : List String}
    {failed : FailedRule} (h : definition.settle ids = .error failed) :
    failed.name = definition.label := by
  unfold settle at h
  split at h
  · cases h
    rfl
  · split at h
    · cases h
      rfl
    · cases h

theorem Entry.settleFrom_label {ids : List String} {definitions : List Definition} :
    ∀ entry ∈ settleFrom ids definitions, ∀ failed, entry.outcome = .error failed →
      failed.name = entry.definition.label := by
  intro entry hentry failed hfailed
  obtain ⟨before, after, hsplit⟩ := List.append_of_mem hentry
  rw [outcome_eq_settle hsplit] at hfailed
  exact Definition.label_of_settle hfailed

/-- Definitions that are settled one after the other account for what is published. -/
theorem RuleSet.accountedBy_settleFrom {set : RuleSet} {snapshot : Snapshot}
    (hrules : set.rules =
      (Entry.published (Entry.settleFrom [] snapshot.rowOrder)).map snapshot.complete)
    (hfailed : set.failed.Perm (Entry.refused (Entry.settleFrom [] snapshot.rowOrder))) :
    set.AccountedBy snapshot (Entry.settleFrom [] snapshot.rowOrder) where
  definitions := Entry.map_definition_settleFrom [] snapshot.rowOrder
  published := hrules
  refused := hfailed
  label := Entry.settleFrom_label
  settled := fun _ _ _ hsplit => Entry.outcome_eq_settle hsplit

/-- The compiler with the bundled grammars compiles every snapshot. Published and excluded
definitions add up to all of them, no id is published twice, and whether a definition is published,
and as what, depends on the definition alone, or else its id was published before. -/
theorem Compiler.bundled_accounts :
    ∃ compiler, Compiler.bundled = .ok compiler ∧
      ∀ snapshot fingerprint version,
        ∃ set, compiler.compile snapshot fingerprint version = .ok set ∧
          set.rules.length + set.failed.length = snapshot.size ∧
          (set.rules.map (·.id)).Nodup ∧
          snapshot.rowOrder.Perm snapshot.definitions ∧
          ∃ entries, set.AccountedBy snapshot entries := by
  refine ⟨Bundled.compiler, Bundled.bundled_eq_ok, fun snapshot fingerprint version => ?_⟩
  obtain ⟨set, hcompile, hrules, hfailed⟩ := compile_settles snapshot fingerprint version
  refine ⟨set, hcompile, ?_, ?_, snapshot.rowOrder_perm, _,
    RuleSet.accountedBy_settleFrom hrules hfailed⟩
  · have hentries := Entry.map_definition_settleFrom [] snapshot.rowOrder
    calc set.rules.length + set.failed.length
        = (Entry.published (Entry.settleFrom [] snapshot.rowOrder)).length
          + (Entry.refused (Entry.settleFrom [] snapshot.rowOrder)).length := by
          rw [hrules, List.length_map, hfailed.length_eq]
      _ = (Entry.settleFrom [] snapshot.rowOrder).length :=
          Entry.length_published_add_refused _
      _ = snapshot.rowOrder.length := by
          rw [← List.length_map (f := Entry.definition), hentries]
      _ = snapshot.size := by
          rw [snapshot.rowOrder_perm.length_eq, snapshot.length_definitions]
  · have hnodup : ([] ++ Entry.publishedIds (Entry.settleFrom [] snapshot.rowOrder)).Nodup :=
      Entry.nodup_publishedIds List.nodup_nil
    rw [hrules, List.map_map]
    exact hnodup

/-! ## Faithfulness -/

/-- The rule says what the definition says. -/
def CompiledRule.Carries (rule : CompiledRule) : Definition → Prop
  | .sanity definition =>
    rule.id = definition.name ∧ rule.name = definition.name ∧ rule.factType = .rawMovement ∧
      rule.effect = .alarm ∧
      Condition.compile .rawMovement (Text.fold definition.expression.toList) =
        .ok rule.condition
  | .custom definition =>
    rule.id = definition.guid ∧ rule.name = definition.name ∧ rule.factType = .movement ∧
      rule.effect = .custom definition.guid definition.actionList ∧
      ∃ source, definition.conditionChars = .ok source ∧
        Condition.compile .movement source = .ok rule.condition
  | .business definition =>
    rule.id = definition.brId ∧ rule.name = definition.brId ∧
      rule.factType = definition.factType ∧
      rule.effect = .outcome definition.errorType definition.level definition.message
        (definition.propertyNames.getD "") ∧
      Condition.compile definition.factType (Text.fold definition.expression.toList) =
        .ok rule.condition

theorem Definition.conditionOf_eq_ok {factType : FactType} {source : List Char}
    {condition : Condition} (h : conditionOf factType source = .ok condition) :
    Condition.compile factType source = .ok condition := by
  rw [conditionOf, guarded_eq_ok] at h
  exact mapError_eq_ok.1 h.2

theorem Definition.carries_of_verdict {definition : Definition} {rule : CompiledRule}
    (h : definition.verdict = .ok rule) : rule.Carries definition := by
  cases definition with
  | sanity definition =>
    simp only [verdict, bind_eq_ok, pure_eq_ok, Except.ok.injEq] at h
    obtain ⟨-, -, condition, hcondition, rfl⟩ := h
    exact ⟨rfl, rfl, rfl, rfl, conditionOf_eq_ok hcondition⟩
  | custom definition =>
    simp only [verdict, bind_eq_ok, throw_eq_error, error_bind, guarded_eq_ok, pure_eq_ok,
      Except.ok.injEq] at h
    obtain ⟨-, -, source, hsource, condition, hcondition, -, rfl⟩ := h
    exact ⟨rfl, rfl, rfl, rfl, source, hsource, conditionOf_eq_ok hcondition⟩
  | business definition =>
    simp only [verdict, bind_eq_ok, pure_eq_ok, Except.ok.injEq] at h
    obtain ⟨-, -, condition, hcondition, rfl⟩ := h
    exact ⟨rfl, rfl, rfl, rfl, conditionOf_eq_ok hcondition⟩

theorem Definition.verdict_of_settle {definition : Definition} {rule : CompiledRule}
    {ids : List String} (h : definition.settle ids = .ok rule) :
    definition.verdict = .ok rule := by
  unfold settle at h
  split at h
  · cases h
  · rename_i hverdict
    rw [guarded_eq_ok] at h
    cases h.2
    exact hverdict

theorem Definition.carries_of_settle {definition : Definition} {rule : CompiledRule}
    {ids : List String} (h : definition.settle ids = .ok rule) : rule.Carries definition :=
  carries_of_verdict (verdict_of_settle h)

/-- Completing a rule leaves what its source says as it is. -/
theorem Snapshot.complete_carries {snapshot : Snapshot} {rule : CompiledRule}
    {definition : Definition} (h : rule.Carries definition) :
    (snapshot.complete rule).Carries definition := by
  cases definition <;> exact h

/-- The definitions that were published. -/
def Entry.sources (entries : List Entry) : List Definition :=
  entries.filterMap fun entry => entry.outcome.toOption.map fun _ => entry.definition

theorem Entry.sources_sublist (entries : List Entry) :
    (sources entries).Sublist (entries.map (·.definition)) := by
  induction entries with
  | nil => exact .slnil
  | cons entry others ih =>
    rw [sources, List.filterMap_cons]
    obtain ⟨definition, outcome⟩ := entry
    cases outcome with
    | error failed => exact ih.cons definition
    | ok rule => exact ih.cons_cons definition

/-- What holds of every rule that was published, when it is complete, and its definition. -/
theorem Entry.forall₂_sources {R : CompiledRule → Definition → Prop} {snapshot : Snapshot}
    {entries : List Entry}
    (h : ∀ entry ∈ entries, ∀ rule, entry.outcome = .ok rule →
      R (snapshot.complete rule) entry.definition) :
    List.Forall₂ R ((published entries).map snapshot.complete) (sources entries) := by
  induction entries with
  | nil => exact .nil
  | cons entry others ih =>
    obtain ⟨hentry, hothers⟩ := List.forall_mem_cons.1 h
    rw [published_cons, sources, List.filterMap_cons]
    obtain ⟨definition, outcome⟩ := entry
    cases outcome with
    | error failed => exact ih hothers
    | ok rule => exact .cons (hentry rule rfl) (ih hothers)

/-- The published rules come from definitions in the order of the rows. -/
theorem Entry.published_carries (snapshot : Snapshot) (ids : List String)
    (definitions : List Definition) :
    ∃ sources, sources.Sublist definitions ∧
      List.Forall₂ CompiledRule.Carries
        ((published (settleFrom ids definitions)).map snapshot.complete) sources := by
  refine ⟨sources (settleFrom ids definitions), ?_,
    forall₂_sources fun entry hentry rule hrule => ?_⟩
  · have hsublist := sources_sublist (settleFrom ids definitions)
    rwa [map_definition_settleFrom] at hsublist
  · obtain ⟨before, after, hsplit⟩ := List.append_of_mem hentry
    exact Snapshot.complete_carries
      (Definition.carries_of_settle ((outcome_eq_settle hsplit).symm.trans hrule))

/-- A definition that states a rule is published, unless its id is taken. -/
theorem Entry.id_mem_of_verdict {ids : List String} {definitions : List Definition}
    {definition : Definition} {rule : CompiledRule} (hmem : definition ∈ definitions)
    (hverdict : definition.verdict = .ok rule) :
    rule.id ∈ ids ++ publishedIds (settleFrom ids definitions) := by
  induction definitions generalizing ids with
  | nil => cases hmem
  | cons first others ih =>
    rw [settleFrom, publishedIds_cons, ← List.append_assoc]
    obtain rfl | hothers := List.mem_cons.1 hmem
    · refine List.mem_append_left _ ?_
      by_cases htaken : rule.id ∈ ids
      · exact List.mem_append_left _ htaken
      · have hsettle : definition.settle ids = .ok rule := by
          simp [Definition.settle, hverdict, htaken]
        refine List.mem_append_right _ ?_
        simp [hsettle]
    · exact ih hothers

/-- Whatever characters the cells of definitions have, every rule that the compiler with the
bundled grammars publishes says what the definition it comes from says, and every definition that
states a rule is published unless its id is taken. -/
theorem Compiler.bundled_carries :
    ∃ compiler, Compiler.bundled = .ok compiler ∧
      ∀ snapshot fingerprint version,
        ∃ set, compiler.compile snapshot fingerprint version = .ok set ∧
          ∃ sources, sources.Sublist snapshot.rowOrder ∧
            List.Forall₂ CompiledRule.Carries set.rules sources ∧
            ∀ definition ∈ snapshot.definitions, ∀ rule, definition.verdict = .ok rule →
              rule.id ∈ set.rules.map (·.id) := by
  refine ⟨Bundled.compiler, Bundled.bundled_eq_ok, fun snapshot fingerprint version => ?_⟩
  obtain ⟨set, hcompile, hrules, -⟩ := compile_settles snapshot fingerprint version
  obtain ⟨sources, hsublist, hcarries⟩ := Entry.published_carries snapshot [] snapshot.rowOrder
  refine ⟨set, hcompile, sources, hsublist, hrules ▸ hcarries, ?_⟩
  intro definition hmem rule hverdict
  have hrow : definition ∈ snapshot.rowOrder := snapshot.rowOrder_perm.mem_iff.2 hmem
  have hid : rule.id ∈ [] ++ Entry.publishedIds (Entry.settleFrom [] snapshot.rowOrder) :=
    Entry.id_mem_of_verdict hrow hverdict
  rw [hrules, List.map_map]
  exact hid

end FisheryRules
