import FisheryRules.Proofs.RuleSet.Definition
import FisheryRules.Proofs.RuleSet.SourceRules

/-!
# What becomes of definitions

Settled in the order of their rows, definitions are published unless they have a flaw or one before
them was published under the same id. `compile_settles` says that compiling a snapshot with the
bundled grammars comes to just that, although all definitions go through one source.
-/
namespace FisheryRules

open Text

/-- Definition with what became of it. -/
structure Entry where
  definition : Definition
  outcome : Except FailedRule CompiledRule

namespace Entry

/-- The rules that were published. -/
def published (entries : List Entry) : List CompiledRule :=
  entries.filterMap (·.outcome.toOption)

/-- The reports on the definitions that were excluded. -/
def refused (entries : List Entry) : List FailedRule :=
  entries.filterMap fun entry =>
    match entry.outcome with
    | .ok _ => none
    | .error failed => some failed

/-- The ids that were published. -/
def publishedIds (entries : List Entry) : List String := (published entries).map (·.id)

/-- Definitions with what becomes of them after rules with some ids were published. -/
def settleFrom (ids : List String) : List Definition → List Entry
  | [] => []
  | definition :: others =>
    let entry : Entry := ⟨definition, definition.settle ids⟩
    entry :: settleFrom (ids ++ publishedIds [entry]) others

variable {ids : List String} {definitions : List Definition}

@[simp] theorem published_ok (definition : Definition) (rule : CompiledRule) :
    published [⟨definition, .ok rule⟩] = [rule] := rfl

@[simp] theorem published_error (definition : Definition) (failed : FailedRule) :
    published [⟨definition, .error failed⟩] = [] := rfl

@[simp] theorem refused_ok (definition : Definition) (rule : CompiledRule) :
    refused [⟨definition, .ok rule⟩] = [] := rfl

@[simp] theorem refused_error (definition : Definition) (failed : FailedRule) :
    refused [⟨definition, .error failed⟩] = [failed] := rfl

@[simp] theorem publishedIds_ok (definition : Definition) (rule : CompiledRule) :
    publishedIds [⟨definition, .ok rule⟩] = [rule.id] := rfl

@[simp] theorem publishedIds_error (definition : Definition) (failed : FailedRule) :
    publishedIds [⟨definition, .error failed⟩] = [] := rfl

theorem map_definition_settleFrom (ids : List String) (definitions : List Definition) :
    (settleFrom ids definitions).map definition = definitions := by
  induction definitions generalizing ids with
  | nil => rfl
  | cons first others ih => simp [settleFrom, ih]

theorem published_cons (entry : Entry) (others : List Entry) :
    published (entry :: others) = published [entry] ++ published others :=
  List.filterMap_append (l := [entry])

theorem publishedIds_cons (entry : Entry) (others : List Entry) :
    publishedIds (entry :: others) = publishedIds [entry] ++ publishedIds others := by
  rw [publishedIds, published_cons, List.map_append]
  rfl

theorem refused_cons (entry : Entry) (others : List Entry) :
    refused (entry :: others) = refused [entry] ++ refused others :=
  List.filterMap_append (l := [entry])

/-- Every entry is either published or refused. -/
theorem length_published_add_refused (entries : List Entry) :
    (published entries).length + (refused entries).length = entries.length := by
  induction entries with
  | nil => rfl
  | cons entry others ih =>
    have hone : (published [entry]).length + (refused [entry]).length = 1 := by
      obtain ⟨definition, outcome⟩ := entry
      cases outcome <;> rfl
    rw [published_cons, refused_cons, List.length_append, List.length_append, List.length_cons]
    omega

theorem id_notMem_of_settle {rule : CompiledRule} {definition : Definition}
    (h : definition.settle ids = .ok rule) : rule.id ∉ ids := by
  unfold Definition.settle at h
  split at h
  · cases h
  · rw [guarded_eq_ok] at h
    obtain ⟨hnot, heq⟩ := h
    cases heq
    exact hnot

/-- No id is published twice. -/
theorem nodup_publishedIds (hids : ids.Nodup) :
    (ids ++ publishedIds (settleFrom ids definitions)).Nodup := by
  induction definitions generalizing ids with
  | nil => simpa [settleFrom, publishedIds, published] using hids
  | cons first others ih =>
    rw [settleFrom, publishedIds_cons, ← List.append_assoc]
    refine ih ?_
    cases hsettle : first.settle ids with
    | error failed => simpa using hids
    | ok rule =>
      have hnew : rule.id ∉ ids := id_notMem_of_settle hsettle
      rw [publishedIds_ok]
      refine List.nodup_append.2 ⟨hids, by simp, fun id hid other hother heq => hnew ?_⟩
      obtain rfl := List.mem_singleton.1 hother
      exact heq ▸ hid

/-- An entry depends on its definition and on the ids that were published before it. -/
theorem outcome_eq_settle {before after : List Entry} {entry : Entry}
    (h : settleFrom ids definitions = before ++ entry :: after) :
    entry.outcome = entry.definition.settle (ids ++ publishedIds before) := by
  induction before generalizing ids definitions with
  | nil =>
    cases definitions with
    | nil => cases h
    | cons first others =>
      obtain ⟨rfl, -⟩ := List.cons.inj h
      simp [publishedIds, published]
  | cons head before ih =>
    cases definitions with
    | nil => cases h
    | cons first others =>
      obtain ⟨rfl, hothers⟩ := List.cons.inj h
      rw [ih hothers, List.append_assoc, ← publishedIds_cons]

end Entry

/-! ## The source of definitions -/

namespace Definition

/-- The lines of a definition in a source. -/
def lines (definition : Definition) : List (List Char) :=
  match definition.row with
  | .ok row => RuleText.written (row.getD 0 []) definition.factType (row.getD 1 [])
      (definition.consequences row)
  | .error _ => []

/-- The rules of a source that a definition is read as. -/
def units (definition : Definition) : List RuleText :=
  match definition.row with
  | .ok row => [definition.unitOf row]
  | .error _ => []

/-- The report on a definition without a row. -/
def excluded (definition : Definition) : List FailedRule :=
  match definition.row with
  | .ok _ => []
  | .error failed => [failed]

theorem lines_oneLine (definition : Definition) : ∀ line ∈ definition.lines, OneLine line := by
  obtain ⟨flaw, -, hrow⟩ | ⟨row, hrow, hsound⟩ := definition.row_spec
  · simp [lines, hrow]
  · rw [lines, hrow]
    exact RuleText.written_oneLine hsound.name hsound.condition.oneLine hsound.consequences

theorem lines_splits (definition : Definition) :
    RuleText.Splits definition.lines definition.units := by
  obtain ⟨flaw, -, hrow⟩ | ⟨row, hrow, hsound⟩ := definition.row_spec
  · rw [lines, units, hrow]
    exact RuleText.splits_nil
  · rw [lines, units, hrow]
    exact RuleText.splits_written hsound.condition.trimmed hsound.consequences

end Definition

/-- The source has the definitions that have a row, and no others. -/
structure Rendered.Renders (rendered : Rendered) (definitions : List Definition) : Prop where
  source : ∃ lines, rendered.source = Grammar.unlines lines ∧ (∀ line ∈ lines, OneLine line) ∧
    RuleText.Splits lines (definitions.flatMap Definition.units)
  excluded : rendered.excluded = definitions.flatMap Definition.excluded

namespace Rendered

theorem renders_nil : Renders {} [] :=
  ⟨⟨[], rfl, List.forall_mem_nil _, RuleText.splits_nil⟩, rfl⟩

theorem Renders.append {first others : Rendered} {before after : List Definition}
    (hfirst : Renders first before) (hothers : Renders others after) :
    Renders ⟨first.source ++ others.source, first.excluded ++ others.excluded⟩
      (before ++ after) := by
  obtain ⟨⟨front, hfront, hfrontLines, hfrontSplits⟩, hfrontExcluded⟩ := hfirst
  obtain ⟨⟨back, hback, hbackLines, hbackSplits⟩, hbackExcluded⟩ := hothers
  refine ⟨⟨front ++ back, ?_, List.forall_mem_append.2 ⟨hfrontLines, hbackLines⟩, ?_⟩, ?_⟩
  · simp only [hfront, hback, Grammar.unlines_append]
  · rw [List.flatMap_append]
    exact hfrontSplits.append hbackSplits
  · simp only [hfrontExcluded, hbackExcluded, List.flatMap_append]

end Rendered

theorem excluded_map_row (definitions : List Definition) :
    RowResult.excluded (definitions.map Definition.row) =
      definitions.flatMap Definition.excluded := by
  induction definitions with
  | nil => rfl
  | cons first others ih =>
    rw [List.flatMap_cons, ← ih, List.map_cons]
    cases hrow : first.row with
    | ok row =>
      have hexcluded : first.excluded = [] := by simp [Definition.excluded, hrow]
      rw [hexcluded]
      rfl
    | error failed =>
      have hexcluded : first.excluded = [failed] := by simp [Definition.excluded, hrow]
      rw [hexcluded]
      rfl

/-- A grammar that writes rows as rules renders the definitions of one kind. -/
theorem Grammar.Writes.renders {grammar : Grammar} {factType : FactType}
    {consequences : Row → List (List Char)} (h : grammar.Writes factType consequences)
    {definitions : List Definition} (hkind : ∀ definition ∈ definitions,
      definition.factType = factType ∧ definition.consequences = consequences) :
    (Compiler.renderRows grammar (definitions.map Definition.row)).Renders definitions := by
  obtain ⟨preamble, hpreamble, hskipped⟩ := h.preamble
  have hrows : (RowResult.rows (definitions.map Definition.row)).flatMap
      (fun row => grammar.body.flatMap (Grammar.renderPiece row)) =
      Grammar.unlines (definitions.flatMap Definition.lines) := by
    induction definitions with
    | nil => rfl
    | cons first others ih =>
      obtain ⟨⟨hfactType, hconsequences⟩, hothers⟩ := List.forall_mem_cons.1 hkind
      rw [List.flatMap_cons, Grammar.unlines_append, ← ih hothers]
      cases hrow : first.row with
      | error failed =>
        simp [RowResult.rows, hrow, Except.toOption, Definition.lines, Grammar.unlines]
      | ok row =>
        simp [RowResult.rows, hrow, Except.toOption, Definition.lines, h.row, hfactType,
          hconsequences]
  refine ⟨⟨preamble ++ definitions.flatMap Definition.lines, ?_, ?_, ?_⟩, ?_⟩
  · rw [Compiler.renderRows, Grammar.render, hpreamble, hrows, Grammar.unlines_append]
  · refine List.forall_mem_append.2 ⟨fun line hline => (hskipped line hline).1, ?_⟩
    intro line hline
    obtain ⟨definition, -, hmem⟩ := List.mem_flatMap.1 hline
    exact definition.lines_oneLine line hmem
  · have hpreambleSplits : RuleText.Splits preamble [] :=
      RuleText.splits_skipped fun line hline => (hskipped line hline).2
    exact hpreambleSplits.append (.flatMap fun definition _ => definition.lines_splits)
  · exact excluded_map_row definitions

theorem Rendered.Renders.flatMap {α : Type} {xs : List α} {rendered : α → Rendered}
    {definitions : α → List Definition} (h : ∀ x ∈ xs, (rendered x).Renders (definitions x)) :
    Rendered.Renders ⟨(xs.map rendered).flatMap (·.source), (xs.map rendered).flatMap (·.excluded)⟩
      (xs.flatMap definitions) := by
  induction xs with
  | nil => exact Rendered.renders_nil
  | cons x xs ih =>
    obtain ⟨hx, hxs⟩ := List.forall_mem_cons.1 h
    exact hx.append (ih hxs)

/-- The bundled grammars render every definition of a snapshot that has a row. -/
theorem Bundled.render_renders (snapshot : Snapshot) :
    (Bundled.compiler.render snapshot).Renders snapshot.rowOrder := by
  cases snapshot with
  | sanity rules =>
    have hrows : rules.map SanityRule.row = (rules.map Definition.sanity).map Definition.row := by
      simp [Definition.row]
    rw [Compiler.render, hrows]
    exact sanityGrammar_writes.renders (by simp [Definition.factType, Definition.consequences])
  | custom rules =>
    have hrows : rules.map CustomRule.row = (rules.map Definition.custom).map Definition.row := by
      simp [Definition.row]
    rw [Compiler.render, hrows]
    exact customGrammar_writes.renders (by simp [Definition.factType, Definition.consequences])
  | business rules =>
    refine Rendered.Renders.flatMap fun factType _ => ?_
    unfold Compiler.renderGroup
    cases hgroup : rules.filter (·.factType == factType) with
    | nil => exact Rendered.renders_nil
    | cons first others =>
      have hrows : (first :: others).map BusinessRule.row =
          ((first :: others).map Definition.business).map Definition.row := by
        simp [Definition.row]
      have hkind : ∀ rule ∈ first :: others, rule.factType = factType := by
        intro rule hrule
        rw [← hgroup] at hrule
        simpa using (List.mem_filter.1 hrule).2
      simp only [Bundled.compiler, hrows]
      refine (businessGrammar_writes factType).renders (List.forall_mem_map.2 fun rule hrule => ?_)
      exact ⟨hkind rule hrule, rfl⟩

/-! ## The rules of the source -/

/-- A definition that has a row is added as it settles after the rules before it. -/
theorem Definition.RowSound.add_unitOf {definition : Definition} {row : Row}
    (h : definition.RowSound row) (compiled : CompiledRules) :
    compiled.add (definition.unitOf row) =
      match definition.settle (compiled.rules.map (·.id)) with
      | .ok rule => { compiled with rules := compiled.rules ++ [rule] }
      | .error failed => { compiled with failed := compiled.failed ++ [failed] } := by
  have hlabel : String.ofList (definition.unitOf row).name = definition.label := h.label
  rw [Definition.settle, ← h.verdict]
  cases htext : CompiledRule.ofText (definition.unitOf row) with
  | error flaw => rw [CompiledRules.add_flawed htext, hlabel]
  | ok rule =>
    by_cases htaken : rule.id ∈ compiled.rules.map (·.id)
    · rw [CompiledRules.add_duplicate htext htaken, hlabel]
      simp only [if_pos htaken]
    · rw [CompiledRules.add_kept htext htaken]
      simp only [if_neg htaken]

/-- Adding the rules that definitions are read as publishes and refuses what settling the
definitions does, except that those without a row were excluded before. -/
theorem CompiledRules.foldl_add_units (definitions : List Definition) (compiled : CompiledRules) :
    ∃ failed, (definitions.flatMap Definition.units).foldl add compiled =
        ⟨compiled.rules ++ Entry.published
            (Entry.settleFrom (compiled.rules.map (·.id)) definitions),
          compiled.failed ++ failed⟩ ∧
      (definitions.flatMap Definition.excluded ++ failed).Perm
        (Entry.refused (Entry.settleFrom (compiled.rules.map (·.id)) definitions)) := by
  induction definitions generalizing compiled with
  | nil =>
    refine ⟨[], ?_, .refl _⟩
    simp [Entry.settleFrom, Entry.published]
  | cons first others ih =>
    rw [Entry.settleFrom, Entry.published_cons, Entry.refused_cons, List.flatMap_cons,
      List.flatMap_cons, List.foldl_append]
    obtain ⟨flaw, hverdict, hrow⟩ | ⟨row, hrow, hsound⟩ := first.row_spec
    · have hsettle : first.settle (compiled.rules.map (·.id)) =
          .error (.ofFlaw first.label flaw) := by
        simp [Definition.settle, hverdict]
      have hunits : first.units = [] := by simp [Definition.units, hrow]
      have hexcluded : first.excluded = [.ofFlaw first.label flaw] := by
        simp [Definition.excluded, hrow]
      obtain ⟨failed, hfold, hperm⟩ := ih compiled
      rw [hsettle, hunits, hexcluded]
      refine ⟨failed, ?_, ?_⟩
      · simpa using hfold
      · simpa using hperm
    · have hunits : first.units = [first.unitOf row] := by simp [Definition.units, hrow]
      have hexcluded : first.excluded = [] := by simp [Definition.excluded, hrow]
      rw [hunits, hexcluded, List.foldl_cons, List.foldl_nil, hsound.add_unitOf]
      cases hsettle : first.settle (compiled.rules.map (·.id)) with
      | error report =>
        obtain ⟨failed, hfold, hperm⟩ := ih { compiled with failed := compiled.failed ++ [report] }
        refine ⟨report :: failed, ?_, ?_⟩
        · simpa using hfold
        · simpa using List.perm_middle.trans (hperm.cons report)
      | ok rule =>
        obtain ⟨failed, hfold, hperm⟩ := ih { compiled with rules := compiled.rules ++ [rule] }
        refine ⟨failed, ?_, ?_⟩
        · simpa using hfold
        · simpa using hperm

/-- Compiling a snapshot with the bundled grammars publishes and refuses what settling its
definitions does. -/
theorem compile_settles (snapshot : Snapshot) (fingerprint : String) (version : Nat) :
    ∃ set, Bundled.compiler.compile snapshot fingerprint version = .ok set ∧
      set.rules =
        (Entry.published (Entry.settleFrom [] snapshot.rowOrder)).map snapshot.complete ∧
      set.failed.Perm (Entry.refused (Entry.settleFrom [] snapshot.rowOrder)) := by
  obtain ⟨⟨lines, hsource, hlines, hsplits⟩, hexcluded⟩ := Bundled.render_renders snapshot
  obtain ⟨failed, hfold, hperm⟩ := CompiledRules.foldl_add_units snapshot.rowOrder {}
  have hcompiled : CompiledRules.ofSource (Bundled.compiler.render snapshot).source =
      .ok ⟨Entry.published (Entry.settleFrom [] snapshot.rowOrder), failed⟩ := by
    rw [CompiledRules.ofSource, hsource, hsplits.split hlines, Except.map, hfold]
    rfl
  rw [Compiler.compile, hcompiled, hexcluded]
  exact ⟨_, rfl, rfl, hperm⟩

end FisheryRules
