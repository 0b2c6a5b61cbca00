import FisheryRules.Proofs.Registry.CacheRuns
import FisheryRules.Proofs.Rule.Order
import FisheryRules.Proofs.RuleSet.Fingerprint
import FisheryRules.Proofs.RuleSet.Settlement

/-!
# Rearranged definitions

Definitions may be listed in another order, and so may the segments and the actions of a custom
rule as long as their numbers say where they come. Nothing is made of the order at either level: the
condition, the action list and the fingerprint stay as they are, so a refresh that lists rearranged
definitions finds nothing changed. This is `Cache.refresh_rearranged`.

## Main definitions

* `Reordered` — numbered items in another order.
* `CustomRule.Rearranged`, `Snapshot.Rearranged` — a rule and a snapshot, rearranged.
-/
namespace FisheryRules

/-! ## Numbered items -/

/-- The items in another order. Unless they stand as before, no two of them have the same number. -/
structure Reordered {α : Type} (order : α → UInt32) (items others : List α) : Prop where
  perm : others.Perm items
  apart : others = items ∨ (items.map order).Nodup

/-- Items without a number in common are sorted in one way only. -/
theorem Reordered.mergeSort_eq {α : Type} {order : α → UInt32} {items others : List α}
    (h : Reordered order items others) :
    (others.mergeSort fun a b => order a ≤ order b) =
      items.mergeSort fun a b => order a ≤ order b := by
  obtain rfl | hapart := h.apart
  · rfl
  · exact mergeSort_eq_of_perm (fun a ha b hb => List.inj_on_of_nodup_map hapart ha hb) h.perm

/-! ## Custom rules -/

namespace CustomRule

/-- The rule with its segments and its actions in another order. -/
structure Rearranged (rule other : CustomRule) : Prop where
  segments : Reordered Segment.order rule.segments other.segments
  actions : Reordered RuleAction.order rule.actions other.actions
  otherwise : other = { rule with segments := other.segments, actions := other.actions }

variable {rule other : CustomRule}

theorem Rearranged.sortedSegments_eq (h : rule.Rearranged other) :
    other.sortedSegments = rule.sortedSegments :=
  h.segments.mergeSort_eq

theorem Rearranged.sortedActions_eq (h : rule.Rearranged other) :
    other.sortedActions = rule.sortedActions :=
  h.actions.mergeSort_eq

/-- The condition is made of the segments in the order of their numbers. -/
theorem Rearranged.conditionChars_eq (h : rule.Rearranged other) :
    other.conditionChars = rule.conditionChars := by
  rw [conditionChars, conditionChars, h.sortedSegments_eq]

theorem Rearranged.actionChars_eq (h : rule.Rearranged other) :
    other.actionChars = rule.actionChars := by
  rw [actionChars, actionChars, h.sortedActions_eq]

end CustomRule

namespace Definition

/-- A custom rule with its parts in another order; there are none in other definitions. -/
inductive Rearranged : Definition → Definition → Prop
  | custom {rule other : CustomRule} (parts : rule.Rearranged other) :
      Rearranged (.custom rule) (.custom other)
  | same (definition : Definition) : Rearranged definition definition

variable {definition other : Definition}

/-- Neither the signature nor the cells of a definition show how its parts are arranged. -/
theorem Rearranged.signature_eq (h : definition.Rearranged other) :
    other.signature = definition.signature := by
  cases h with
  | same => rfl
  | custom parts =>
    simp only [signature, CustomRule.signature, parts.sortedSegments_eq, parts.actionChars_eq]
    rw [parts.otherwise]

/-- The two definitions are compiled from the same cells; if they are custom rules their conditions
and their actions are spelled alike. -/
structure WrittenAlike (definition other : Definition) : Prop where
  row : other.row = definition.row
  parts : ∀ rule changed, definition = .custom rule → other = .custom changed →
    changed.conditionChars = rule.conditionChars ∧ changed.actionList = rule.actionList

theorem Rearranged.writtenAlike (h : definition.Rearranged other) :
    definition.WrittenAlike other := by
  cases h with
  | same =>
    refine ⟨rfl, ?_⟩
    rintro rule changed rfl ⟨⟩
    exact ⟨rfl, rfl⟩
  | @custom rule other parts =>
    have hactions : other.actionList = rule.actionList :=
      congrArg String.ofList parts.actionChars_eq
    constructor
    · simp only [row, CustomRule.row, parts.conditionChars_eq, parts.actionChars_eq, hactions]
      rw [parts.otherwise]
    · rintro _ _ ⟨⟩ ⟨⟩
      exact ⟨parts.conditionChars_eq, hactions⟩

end Definition

/-! ## Snapshots -/

namespace Snapshot

/-- The definitions in another order, and the parts of each in another order. -/
structure Rearranged (snapshot other : Snapshot) : Prop where
  category : other.category = snapshot.category
  definitions : ∃ rearranged, List.Forall₂ Definition.Rearranged snapshot.definitions rearranged ∧
    other.definitions.Perm rearranged

variable {snapshot other : Snapshot}

theorem Rearranged.map_signature_perm (h : snapshot.Rearranged other) :
    (other.definitions.map Definition.signature).Perm
      (snapshot.definitions.map Definition.signature) := by
  obtain ⟨rearranged, heach, hperm⟩ := h.definitions
  have hsame : rearranged.map Definition.signature =
      snapshot.definitions.map Definition.signature := by
    rw [← List.forall₂_eq_eq_eq, List.forall₂_map_left_iff, List.forall₂_map_right_iff]
    exact heach.flip.imp fun _ _ hone => hone.signature_eq
  exact hsame ▸ hperm.map Definition.signature

theorem signatures_ascending (snapshot : Snapshot) :
    snapshot.signatures.Pairwise fun a b => String.ofList a ≤ String.ofList b := by
  cases snapshot <;> exact ascending_mergeSort _

/-- Sorting leaves no trace of the order in which signatures come. -/
theorem signatures_eq_of_perm (h : (other.definitions.map Definition.signature).Perm
    (snapshot.definitions.map Definition.signature)) :
    other.signatures = snapshot.signatures := by
  refine List.Perm.eq_of_pairwise ?_ other.signatures_ascending snapshot.signatures_ascending
    (other.signatures_perm.trans (h.trans snapshot.signatures_perm.symm))
  intro a b _ _ hab hba
  exact String.ofList_injective (String.le_antisymm hab hba)

theorem Rearranged.fingerprint_eq (h : snapshot.Rearranged other) :
    other.fingerprint = snapshot.fingerprint := by
  rw [fingerprint, fingerprint, fingerprintChars, fingerprintChars, h.category,
    signatures_eq_of_perm h.map_signature_perm]

theorem Rearranged.isEmpty_eq (h : snapshot.Rearranged other) :
    other.isEmpty = snapshot.isEmpty := by
  have hlength := h.map_signature_perm.length_eq
  simp only [List.length_map, length_definitions] at hlength
  rw [isEmpty, isEmpty, hlength]

end Snapshot

/-! ## Refreshes -/

namespace Cache

/-- With the bundled grammars, a refresh that lists any definitions leaves a set in service. -/
theorem exists_version_of_bundled {cache : Cache} (hcompiler : cache.compiler = Bundled.compiler)
    {listing : Listing} {category : RuleCategory} {snapshot : Snapshot}
    (hlisted : listing.answer category = .ok snapshot) (hsome : snapshot.isEmpty = false) :
    ∃ version, (cache.refresh listing category).1 = .ok (.unchanged version) ∨
      ∃ rules failed,
        (cache.refresh listing category).1 = .ok (.rebuilt version rules failed) := by
  have habsorbed := Slot.absorb_absorbed (cache.slots category) cache.compiler
    (listing.answer category)
  rw [← result_refresh, hlisted] at habsorbed
  generalize (cache.refresh listing category).1 = result at habsorbed ⊢
  generalize ((cache.slots category).absorb cache.compiler (.ok snapshot)).2 = after at habsorbed
  cases habsorbed with
  | emptied hnone => simp [hsome] at hnone
  | unchanged => exact ⟨_, .inl rfl⟩
  | rebuilt => exact ⟨_, .inr ⟨_, _, rfl⟩⟩
  | failed _ _ hrefused =>
    obtain ⟨set, hset, -⟩ := compile_settles snapshot snapshot.fingerprint
      (cache.slots category).nextVersion
    rw [hcompiler, hset] at hrefused
    cases hrefused

/-- Definitions that are rearranged have the same fingerprint and are compiled from the same cells.
When they are listed next, the refresh finds nothing changed and publishes nothing: the set that the
refresh before it left in service stays, or there were no definitions and there are none. With the
bundled grammars these are all cases. -/
theorem refresh_rearranged {snapshot other : Snapshot} (rearranged : snapshot.Rearranged other) :
    other.fingerprint = snapshot.fingerprint ∧
    (∃ definitions, List.Forall₂ Definition.WrittenAlike snapshot.definitions definitions ∧
      other.definitions.Perm definitions) ∧
    ∀ (cache : Cache) (listing next : Listing) (category : RuleCategory),
      listing.answer category = .ok snapshot → next.answer category = .ok other →
      let result := (cache.refresh listing category).1
      let refreshed := (cache.refresh listing category).2
      (∀ version, (result = .ok (.unchanged version) ∨
          ∃ rules failed, result = .ok (.rebuilt version rules failed)) →
        refreshed.refresh next category = (.ok (.unchanged version), refreshed)) ∧
      (snapshot.isEmpty = true →
        refreshed.refresh next category = (.ok .emptied, refreshed) ∧
          refreshed.current category = none) ∧
      (snapshot.isEmpty = false → Compiler.bundled = .ok cache.compiler →
        ∃ version, result = .ok (.unchanged version) ∨
          ∃ rules failed, result = .ok (.rebuilt version rules failed)) := by
  have hfingerprint := rearranged.fingerprint_eq
  refine ⟨hfingerprint, ?_, ?_⟩
  · obtain ⟨definitions, heach, hperm⟩ := rearranged.definitions
    exact ⟨definitions, heach.imp fun _ _ hone => hone.writtenAlike, hperm⟩
  intro cache listing next category hlisted hnext result refreshed
  refine ⟨fun version hresult => ?_, fun hnone => ?_, fun hsome hbundled => ?_⟩
  · have habsorbed := Slot.absorb_absorbed (cache.slots category) cache.compiler
      (listing.answer category)
    rw [← slots_refresh_self, ← result_refresh] at habsorbed
    obtain ⟨listed, set, hanswer, hsome, hpublished, hlabel, hversion⟩ :=
      habsorbed.labelled hresult
    obtain rfl : listed = snapshot := Except.ok.inj (hanswer.symm.trans hlisted)
    apply refresh_of_absorb
    rw [hnext, Slot.absorb, ← hversion]
    exact Slot.settle_of_fingerprint _ (rearranged.isEmpty_eq.trans hsome) hpublished
      (hlabel.trans hfingerprint.symm)
  · have hslot : refreshed.slots category = (cache.slots category).clear := by
      simp [refreshed, hlisted, Slot.absorb, Slot.settle, hnone]
    refine ⟨?_, by rw [current, hslot, Slot.clear]⟩
    apply refresh_of_absorb
    rw [hnext, Slot.absorb, Slot.settle, rearranged.isEmpty_eq, hnone, hslot]
    rfl
  · obtain hcompiler := Except.ok.inj (hbundled.symm.trans Bundled.bundled_eq_ok)
    exact exists_version_of_bundled hcompiler hlisted hsome

/-- Two rules change places, and the segments and the actions of one of them do. -/
theorem refresh_rearranged_twoRules :
    let flag : Segment := {
      criteria := .asset
      subCriteria := .flagState
      condition := .eq
      value := "SWE"
      logicOperator := .and }
    let area : Segment := {
      criteria := .area
      subCriteria := .areaCode
      condition := .eq
      value := "DNK"
      order := 1 }
    let mail : RuleAction := { action := .email, value := some "a@b.com", order := 1 }
    let ticket : RuleAction := { action := .ticket }
    let plain : CustomRule := { guid := "g-1", name := "Swedish", segments := [flag] }
    let rule : CustomRule := {
      guid := "g-2"
      name := "SWE in DNK"
      segments := [flag, area]
      actions := [mail, ticket] }
    let changed : CustomRule := { rule with segments := [area, flag], actions := [ticket, mail] }
    let snapshot : Snapshot := .custom [plain, rule]
    let other : Snapshot := .custom [changed, plain]
    let cache : Cache := { compiler := Bundled.compiler }
    let refreshed := (cache.refresh ⟨.ok [], .ok [plain, rule], .ok []⟩ .custom).2
    snapshot.Rearranged other ∧ other ≠ snapshot ∧ other.fingerprint = snapshot.fingerprint ∧
      ∃ version, refreshed.refresh ⟨.ok [], .ok [changed, plain], .ok []⟩ .custom =
        (.ok (.unchanged version), refreshed) := by
  intro flag area mail ticket plain rule changed snapshot other cache refreshed
  have hparts : rule.Rearranged changed :=
    { segments := ⟨.swap flag area [], .inr (by decide)⟩
      actions := ⟨.swap mail ticket [], .inr (by decide)⟩
      otherwise := rfl }
  have hrearranged : snapshot.Rearranged other :=
    { category := rfl
      definitions := ⟨[.custom plain, .custom changed],
        .cons (.same _) (.cons (.custom hparts) .nil), .swap _ _ []⟩ }
  obtain ⟨hfingerprint, -, hrefresh⟩ := refresh_rearranged hrearranged
  obtain ⟨hunchanged, -, hbuilt⟩ := hrefresh cache ⟨.ok [], .ok [plain, rule], .ok []⟩
    ⟨.ok [], .ok [changed, plain], .ok []⟩ .custom rfl rfl
  obtain ⟨version, hresult⟩ := hbuilt rfl Bundled.bundled_eq_ok
  exact ⟨hrearranged, by decide, hfingerprint, version, hunchanged version hresult⟩

/-- No definitions are a rearrangement of no definitions, but listing them once more is answered by
their absence: no version is in service that could be unchanged. -/
theorem refresh_rearranged_none :
    let snapshot : Snapshot := .sanity []
    let cache : Cache := { compiler := Bundled.compiler }
    let listing : Listing := ⟨.ok [], .ok [], .ok []⟩
    let refreshed := (cache.refresh listing .sanity).2
    Compiler.bundled = .ok cache.compiler ∧ listing.answer .sanity = .ok snapshot ∧
      snapshot.Rearranged snapshot ∧ (refreshed.refresh listing .sanity).1 = .ok .emptied ∧
      ∀ version, (refreshed.refresh listing .sanity).1 ≠ .ok (.unchanged version) := by
  intro snapshot cache listing refreshed
  have hanswer : (refreshed.refresh listing .sanity).1 = .ok .emptied := rfl
  have hrearranged : snapshot.Rearranged snapshot :=
    { category := rfl
      definitions := ⟨[], .nil, .refl _⟩ }
  refine ⟨Bundled.bundled_eq_ok, rfl, hrearranged, hanswer, fun version hunchanged => ?_⟩
  rw [hanswer] at hunchanged
  cases hunchanged

end Cache

end FisheryRules
