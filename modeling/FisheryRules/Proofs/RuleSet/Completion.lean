import FisheryRules.Proofs.RuleSet.Separation

/-!
# Descriptions and windows of published rules

Of what a definition says, the source has no description and no windows in it. Rules get them by
their ids, from all definitions of the snapshot, the excluded ones among them. So a rule has the
description and the windows of its own definition when the last definitions with the same id say the
same, and only then: `Compiler.bundled_completes`.

## Main definitions

* `Snapshot.IsLast` — the last definition with a property.
* `Snapshot.Undisputed` — the last definitions with the same id say the same.
-/
namespace FisheryRules

namespace Definition

/-- A rule may fire within its windows, or always when it has none. -/
def isActiveAt (t : Instant) : Definition → Bool
  | custom rule => rule.isActiveAt t
  | sanity _ | business _ => true

/-- The snapshot of one definition. -/
def alone : Definition → Snapshot
  | sanity rule => .sanity [rule]
  | custom rule => .custom [rule]
  | business rule => .business [rule]

end Definition

namespace Snapshot

/-- The definition is the last one of the snapshot with the property. -/
def IsLast (snapshot : Snapshot) (p : Definition → Prop) (definition : Definition) : Prop :=
  ∃ before after, snapshot.definitions = before ++ definition :: after ∧ p definition ∧
    ∀ other ∈ after, ¬ p other

/-- The last definition with the id that has a description has the same one, and the last one with
the id has the same windows. -/
structure Undisputed (snapshot : Snapshot) (definition : Definition) : Prop where
  description : ∀ other,
    snapshot.IsLast (fun d => d.key = definition.key ∧ d.description ≠ none) other →
      other.description = definition.description
  intervals : ∀ other, snapshot.IsLast (fun d => d.key = definition.key) other →
    other.intervals = definition.intervals

variable {snapshot : Snapshot} {definition : Definition} {id : String}

/-! ## The last definition with an id -/

theorem exists_isLast (p : Definition → Prop) (hmem : definition ∈ snapshot.definitions)
    (h : p definition) : ∃ last, snapshot.IsLast p last := by
  suffices hlast : ∀ definitions : List Definition, definition ∈ definitions →
      ∃ last before after, definitions = before ++ last :: after ∧ p last ∧
        ∀ other ∈ after, ¬ p other from hlast _ hmem
  intro definitions hmem
  induction definitions using List.reverseRecOn with
  | nil => cases hmem
  | append_singleton others final ih =>
    by_cases hfinal : p final
    · exact ⟨final, others, [], rfl, hfinal, List.forall_mem_nil _⟩
    · have hothers : definition ∈ others := by
        obtain hothers | hfinal' := List.mem_append.1 hmem
        · exact hothers
        · exact absurd (List.mem_singleton.1 hfinal' ▸ h) hfinal
      obtain ⟨last, before, after, rfl, hlast, hafter⟩ := ih hothers
      refine ⟨last, before, after ++ [final], by simp, hlast, ?_⟩
      exact List.forall_mem_append.2 ⟨hafter, List.forall_mem_singleton.2 hfinal⟩

theorem description?_eq (snapshot : Snapshot) (id : String) :
    snapshot.description? id =
      ((snapshot.definitions.filter (·.key == id)).filterMap Definition.description).getLast? := by
  cases snapshot <;>
    simp [description?, definitions, List.filter_map, List.filterMap_map, Definition.key,
      Definition.description, Function.comp_def]

theorem intervals_eq (snapshot : Snapshot) (id : String) :
    snapshot.intervals id =
      ((snapshot.definitions.filter (·.key == id)).map Definition.intervals).getLast?.getD [] := by
  cases snapshot with
  | custom rules =>
    simp [intervals, definitions, List.filter_map, Definition.key, Definition.intervals,
      Function.comp_def]
  | sanity rules | business rules =>
    simp only [intervals, definitions, List.filter_map, List.map_map, Definition.intervals,
      Function.comp_def, List.map_const', List.getLast?_replicate]
    split <;> rfl

/-- The description that is joined to an id is that of the last definition that has any. -/
theorem description?_of_isLast
    (h : snapshot.IsLast (fun d => d.key = id ∧ d.description ≠ none) definition) :
    snapshot.description? id = definition.description := by
  obtain ⟨before, after, hdefinitions, ⟨hkey, hsome⟩, hafter⟩ := h
  obtain ⟨text, htext⟩ := Option.ne_none_iff_exists'.1 hsome
  have hothers : (after.filter (·.key == id)).filterMap Definition.description = [] := by
    simpa [List.filterMap_eq_nil_iff] using hafter
  simp [description?_eq, hdefinitions, hkey, htext, hothers]

/-- The windows that are joined to an id are those of the last definition with it. -/
theorem intervals_of_isLast (h : snapshot.IsLast (fun d => d.key = id) definition) :
    snapshot.intervals id = definition.intervals := by
  obtain ⟨before, after, hdefinitions, hkey, hafter⟩ := h
  have hothers : after.filter (·.key == id) = [] := by simpa using hafter
  simp [intervals_eq, hdefinitions, hkey, hothers]

theorem description?_eq_none (h : ∀ d ∈ snapshot.definitions, d.key = id → d.description = none) :
    snapshot.description? id = none := by
  have hnone :
      (snapshot.definitions.filter (·.key == id)).filterMap Definition.description = [] := by
    simpa [List.filterMap_eq_nil_iff] using h
  rw [description?_eq, hnone, List.getLast?_nil]

/-- What is joined to the id of a definition is its own exactly when it is undisputed. -/
theorem undisputed_iff (hmem : definition ∈ snapshot.definitions) :
    snapshot.Undisputed definition ↔
      snapshot.description? definition.key = definition.description ∧
        snapshot.intervals definition.key = definition.intervals := by
  constructor
  · intro h
    constructor
    · by_cases hdescribed : ∃ d ∈ snapshot.definitions,
          d.key = definition.key ∧ d.description ≠ none
      · obtain ⟨d, hd, hdescription⟩ := hdescribed
        obtain ⟨last, hlast⟩ :=
          exists_isLast (fun d => d.key = definition.key ∧ d.description ≠ none) hd hdescription
        rw [description?_of_isLast hlast, h.description last hlast]
      · push Not at hdescribed
        rw [description?_eq_none hdescribed, hdescribed definition hmem rfl]
    · obtain ⟨last, hlast⟩ := exists_isLast (·.key = definition.key) hmem rfl
      rw [intervals_of_isLast hlast, h.intervals last hlast]
  · rintro ⟨hdescription, hintervals⟩
    exact {
      description := fun other hlast => (description?_of_isLast hlast).symm.trans hdescription
      intervals := fun other hlast => (intervals_of_isLast hlast).symm.trans hintervals }

/-- Definitions with ids of their own are undisputed. -/
theorem undisputed_of_nodup (hkeys : (snapshot.definitions.map Definition.key).Nodup)
    (hmem : definition ∈ snapshot.definitions) : snapshot.Undisputed definition := by
  have hsame : ∀ p : Definition → Prop, ∀ last, snapshot.IsLast p last →
      last.key = definition.key → last = definition := by
    rintro p last ⟨before, after, hdefinitions, -⟩ hkey
    exact List.inj_on_of_nodup_map hkeys (by simp [hdefinitions]) hmem hkey
  exact {
    description := fun last hlast => by
      obtain ⟨_, _, -, ⟨hkey, -⟩, -⟩ := id hlast
      rw [hsame _ last hlast hkey]
    intervals := fun last hlast => by
      obtain ⟨_, _, -, hkey, -⟩ := id hlast
      rw [hsame _ last hlast hkey] }

end Snapshot

/-! ## Definitions by themselves -/

namespace Definition

variable {definition : Definition} {rule : CompiledRule}

theorem definitions_alone (definition : Definition) :
    definition.alone.definitions = [definition] := by
  cases definition <;> rfl

theorem rowOrder_alone (definition : Definition) : definition.alone.rowOrder = [definition] := by
  have hperm := definition.alone.rowOrder_perm
  rwa [definitions_alone, List.perm_singleton] at hperm

/-- A rule that is compiled by itself has what its definition says. -/
theorem complete_alone (h : definition.verdict = .ok rule) :
    definition.alone.complete rule = { rule with
      description := definition.description
      intervals := definition.intervals } := by
  have hmem : definition ∈ definition.alone.definitions := by
    rw [definitions_alone]
    exact List.mem_singleton_self definition
  have hkeys : (definition.alone.definitions.map key).Nodup := by
    rw [definitions_alone]
    exact List.nodup_singleton _
  obtain ⟨hdescription, hintervals⟩ :=
    (Snapshot.undisputed_iff hmem).1 (Snapshot.undisputed_of_nodup hkeys hmem)
  rw [Snapshot.complete, id_of_verdict h, hdescription, hintervals]

theorem compile_alone (h : definition.verdict = .ok rule) (fingerprint : String) (version : Nat) :
    ∃ set, Bundled.compiler.compile definition.alone fingerprint version = .ok set ∧
      set.rules = [{ rule with
        description := definition.description
        intervals := definition.intervals }] := by
  obtain ⟨set, hcompile, hrules, -⟩ := compile_settles definition.alone fingerprint version
  refine ⟨set, hcompile, ?_⟩
  have hsettle : definition.settle [] = .ok rule := by simp [settle, h]
  rw [hrules, rowOrder_alone, ← complete_alone h]
  simp [Entry.settleFrom, hsettle]

/-- A definition whose id is taken is excluded. -/
theorem exists_settle_eq_error {ids : List String} (h : definition.key ∈ ids) :
    ∃ failed, definition.settle ids = .error failed := by
  cases hsettle : definition.settle ids with
  | error failed => exact ⟨failed, rfl⟩
  | ok rule =>
    rw [← id_of_verdict (verdict_of_settle hsettle)] at h
    exact absurd h (Entry.id_notMem_of_settle hsettle)

theorem isActiveAt_eq (definition : Definition) (t : Instant) :
    definition.isActiveAt t = TimeInterval.anyContains definition.intervals t := by
  cases definition <;> rfl

end Definition

/-! ## Published rules -/

/-- The compiler with the bundled grammars compiles every snapshot, and each rule it publishes says
what a definition of its own says, which accounts for it. The rule has the description and the
windows of this definition exactly when the definition is undisputed. It is then active at the same
instants, and the same as if no other definition had been there. -/
theorem Compiler.bundled_completes (snapshot : Snapshot) (fingerprint : String) (version : Nat) :
    ∃ compiler set entries, Compiler.bundled = .ok compiler ∧
      compiler.compile snapshot fingerprint version = .ok set ∧
      set.AccountedBy snapshot entries ∧
      List.Forall₂ (fun rule definition =>
        definition ∈ snapshot.definitions ∧ rule.Carries definition ∧
        (rule.description = definition.description ∧ rule.intervals = definition.intervals ↔
          snapshot.Undisputed definition) ∧
        (snapshot.Undisputed definition →
          (∀ t, rule.isActiveAt t = definition.isActiveAt t) ∧
          ∃ alone, compiler.compile definition.alone fingerprint version = .ok alone ∧
            alone.rules = [rule]))
        set.rules (Entry.sources entries) := by
  obtain ⟨set, hcompile, hrules, hfailed⟩ := compile_settles snapshot fingerprint version
  refine ⟨Bundled.compiler, set, _, Bundled.bundled_eq_ok, hcompile,
    RuleSet.accountedBy_settleFrom hrules hfailed, ?_⟩
  rw [hrules]
  refine Entry.forall₂_sources fun entry hentry rule hrule => ?_
  obtain ⟨before, after, hsplit⟩ := List.append_of_mem hentry
  have hsettle : entry.definition.settle ([] ++ Entry.publishedIds before) = .ok rule :=
    (Entry.outcome_eq_settle hsplit).symm.trans hrule
  have hverdict := Definition.verdict_of_settle hsettle
  have hmem : entry.definition ∈ snapshot.definitions := by
    rw [← snapshot.rowOrder_perm.mem_iff, ← Entry.map_definition_settleFrom [] snapshot.rowOrder]
    exact List.mem_map_of_mem hentry
  have hid : rule.id = entry.definition.key := Definition.id_of_verdict hverdict
  refine ⟨hmem, Snapshot.complete_carries (Definition.carries_of_verdict hverdict), ?_, ?_⟩
  · rw [Snapshot.undisputed_iff hmem, Snapshot.complete, hid]
  · intro hundisputed
    obtain ⟨hdescription, hintervals⟩ := (Snapshot.undisputed_iff hmem).1 hundisputed
    have hcomplete : snapshot.complete rule = { rule with
        description := entry.definition.description
        intervals := entry.definition.intervals } := by
      rw [Snapshot.complete, hid, hdescription, hintervals]
    rw [hcomplete]
    exact ⟨fun t => (entry.definition.isActiveAt_eq t).symm,
      Definition.compile_alone hverdict fingerprint version⟩

/-- Two rules share a guid, so the second one is excluded. The first one is published with the
description and the windows of the second, and is not active when its own windows say so. -/
theorem Compiler.bundled_completes_refused :
    let kept : CustomRule := {
      guid := "g-1"
      name := "Kept"
      description := some "Swedish vessels"
      segments := [{
        criteria := .asset
        subCriteria := .flagState
        condition := .eq
        value := "SWE" }] }
    let refused : CustomRule := {
      guid := "g-1"
      name := "Refused"
      description := some "Danish vessels"
      segments := [{
        criteria := .asset
        subCriteria := .flagState
        condition := .eq
        value := "DNK" }]
      intervals := [{ start := some ⟨1404172800, 0⟩ }] }
    ∃ compiler set rule, Compiler.bundled = .ok compiler ∧
      compiler.compile (.custom [kept, refused]) "" 1 = .ok set ∧ set.rules = [rule] ∧
      rule.Carries (.custom kept) ∧ ¬ rule.Carries (.custom refused) ∧
      rule.description = refused.description ∧ rule.description ≠ kept.description ∧
      rule.intervals = refused.intervals ∧ rule.intervals ≠ kept.intervals ∧
      rule.isActiveAt .epoch = false ∧ kept.isActiveAt .epoch = true := by
  intro kept refused
  let snapshot : Snapshot := .custom [kept, refused]
  obtain ⟨rule, hverdict⟩ : ∃ rule, (Definition.custom kept).verdict = .ok rule := by
    let condition : Condition :=
      .compare .eq (.field ⟨6, "flagState", .text, some .flagState⟩) (.literal (.text "SWE"))
    let source := "flagState == \"SWE\"".toList
    have hcheck : checkLines [("name", kept.name), ("guid", kept.guid),
        ("actions", kept.actionList)] = .ok () := by cbv
    have hchars : kept.conditionChars = .ok source := by cbv
    have hscan : Token.scan source = .ok [.word "flagState", .compare .eq, .text "SWE"] := by
      simp only [source, String.reduceToList]
      decide +kernel
    have hcompile : Condition.compile .movement source = .ok condition := by
      rw [Condition.compile, hscan]
      cbv
    have hcondition : Definition.conditionOf .movement source = .ok condition := by
      have hsome : source.isEmpty = false := by decide
      simp only [Definition.conditionOf, hcompile, hsome]
      rfl
    exact ⟨_, by simp only [Definition.verdict, hcheck, hchars, hcondition, ok_bind]; rfl⟩
  have hid : rule.id = "g-1" := Definition.id_of_verdict hverdict
  have hkept : (Definition.custom kept).settle [] = .ok rule := by
    simp [Definition.settle, hverdict]
  obtain ⟨failed, hrefused⟩ : ∃ failed,
      (Definition.custom refused).settle [rule.id] = .error failed :=
    Definition.exists_settle_eq_error (List.mem_singleton.2 hid.symm)
  obtain ⟨set, hcompile, hrules, -⟩ := compile_settles snapshot "" 1
  have hpublished : Entry.published (Entry.settleFrom [] snapshot.rowOrder) = [rule] := by
    have hrows : snapshot.rowOrder = [.custom kept, .custom refused] := rfl
    rw [hrows, Entry.settleFrom, Entry.published_cons, hkept, Entry.published_ok,
      Entry.publishedIds_ok, List.nil_append, Entry.settleFrom, Entry.settleFrom, hrefused,
      Entry.published_error, List.append_nil]
  rw [hpublished] at hrules
  have hlast : snapshot.IsLast (·.key = rule.id) (.custom refused) :=
    ⟨[.custom kept], [], rfl, hid.symm, List.forall_mem_nil _⟩
  have hdescribed : snapshot.IsLast (fun d => d.key = rule.id ∧ d.description ≠ none)
      (.custom refused) :=
    ⟨[.custom kept], [], rfl, ⟨hid.symm, by simp [Definition.description, refused]⟩,
      List.forall_mem_nil _⟩
  have hcarries : (snapshot.complete rule).Carries (.custom kept) :=
    Snapshot.complete_carries (Definition.carries_of_verdict hverdict)
  have hdescription : (snapshot.complete rule).description = refused.description :=
    Snapshot.description?_of_isLast hdescribed
  have hintervals : (snapshot.complete rule).intervals = refused.intervals :=
    Snapshot.intervals_of_isLast hlast
  refine ⟨Bundled.compiler, set, snapshot.complete rule, Bundled.bundled_eq_ok, hcompile, hrules,
    hcarries, ?_, hdescription, ?_, hintervals, ?_, ?_, rfl⟩
  · intro hrefuses
    exact absurd (hcarries.2.1.symm.trans hrefuses.2.1) (by decide)
  · rw [hdescription]
    decide
  · rw [hintervals]
    decide
  · rw [CompiledRule.isActiveAt, hintervals]
    decide

end FisheryRules
