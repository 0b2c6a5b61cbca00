import FisheryRules.Proofs.RuleSet.Wording

/-!
# Rules that are refused for their identity

A rule that compiles is refused when it has no guid or when another rule has its id. Definitions
with keys of their own, where custom rules have a guid, are never refused for that, and no report on
what else is wrong with them reads as if they were: `Bundled.not_blamesIdentity`.

## Main definitions

* `FailedRule.BlamesIdentity` — the report is one on a missing guid or a repeated id.
* `RuleFlaw.OfContent` — the flaw lies in the cells of a definition.
* `FailsOnly` — a computation fails with certain errors only.
-/
namespace FisheryRules

/-! ## Reports -/

namespace RuleFlaw

/-- What is reported of a flaw, under the name of the rule. -/
def text (flaw : RuleFlaw) : String := flaw.kind.label ++ flaw.detail

/-- The columns of the three tables that are checked for line breaks. -/
def columns : List String :=
  ["name", "guid", "actions", "brId", "message", "level", "propertyNames"]

/-- The flaw lies in what a definition says, not in how it is told from others. -/
def OfContent : RuleFlaw → Prop
  | condition _ | noSegments | badMarker _ | nestsTooDeep _ | closesUnopened _ | leftOpen _
  | notJoined _ | foreignCriteria .. | noField .. | notANumber .. | notABoolean ..
  | emptyCondition => True
  | lineBreak column => column ∈ columns
  | _ => False

theorem message_inj {name : String} {flaw other : RuleFlaw} :
    flaw.message name = other.message name ↔ flaw.text = other.text := by
  have hmessage (flaw : RuleFlaw) :
      flaw.message name = "rule " ++ (name ++ (": " ++ flaw.text)) := by
    simp only [message, text, toString, String.append_assoc]
  simp [hmessage]

/-- The text starts with a character. -/
def Opens (c : Char) (s : String) : Prop := s.toList.head? = some c

instance (c : Char) (s : String) : Decidable (Opens c s) := inferInstanceAs (Decidable (_ = _))

theorem Opens.append {c : Char} {s : String} (h : Opens c s) (t : String) : Opens c (s ++ t) := by
  rw [Opens, String.toList_append, List.head?_append, h, Option.some_or]

/-- Some flaws are reported without a label. -/
theorem opens_text {c : Char} (flaw : RuleFlaw) (hlabel : flaw.kind.label = "")
    (h : Opens c flaw.detail) : Opens c flaw.text := by
  rwa [text, hlabel, String.empty_append]

theorem opens_malformed : Opens 's' FlawKind.malformed.label := by decide

theorem opens_illTyped : Opens 't' FlawKind.illTyped.label := by decide

theorem opens_grouping : Opens 'u' FlawKind.grouping.label := by decide

theorem opens_segment : Opens 's' "segment " := by decide

theorem opens_unknown : Opens 'u' "unknown field `" := by decide

/-- Reports on the content of a rule do not start as those on its identity do, but for one. -/
theorem OfContent.opens {flaw : RuleFlaw} (h : flaw.OfContent) :
    flaw = .noSegments ∨ ∃ c, Opens c flaw.text ∧ c ≠ 'd' ∧ c ≠ 'r' := by
  cases flaw with
  | noSegments => exact .inl rfl
  | condition error =>
    refine .inr ?_
    cases error with
    | scan error => exact ⟨'s', opens_malformed.append _, by decide, by decide⟩
    | type error => exact ⟨'t', opens_illTyped.append _, by decide, by decide⟩
    | parse error =>
      cases error with
      | unknownField factType name =>
        refine ⟨'u', opens_text _ rfl ?_, by decide, by decide⟩
        exact ((opens_unknown.append name).append _).append _
      | _ => exact ⟨'s', opens_malformed.append _, by decide, by decide⟩
  | badMarker | nestsTooDeep | closesUnopened | leftOpen =>
    exact .inr ⟨'u', opens_grouping.append _, by decide, by decide⟩
  | notANumber | notABoolean => exact .inr ⟨'t', opens_illTyped.append _, by decide, by decide⟩
  | emptyCondition => exact .inr ⟨'s', opens_malformed.append _, by decide, by decide⟩
  | noField factType subCriteria =>
    refine .inr ⟨'u', opens_text _ rfl ?_, by decide, by decide⟩
    exact ((opens_unknown.append subCriteria.title).append _).append _
  | notJoined order =>
    refine .inr ⟨'s', opens_text _ rfl ?_, by decide, by decide⟩
    exact (opens_segment.append _).append _
  | foreignCriteria order subCriteria criteria =>
    refine .inr ⟨'s', opens_text _ rfl ?_, by decide, by decide⟩
    exact ((((opens_segment.append _).append _).append _).append _).append _
  | lineBreak column =>
    refine .inr ?_
    obtain ⟨c, hopens, hc⟩ : ∃ c, Opens c column ∧ c ≠ 'd' ∧ c ≠ 'r' := by
      have hcolumns : ∀ column ∈ columns,
          column.toList.head?.any fun c => c ≠ 'd' ∧ c ≠ 'r' := by decide
      simpa [Opens, Option.any_eq_true] using hcolumns column h
    exact ⟨c, opens_text _ rfl (hopens.append _), hc⟩
  | _ => cases h

/-- A report on the content of a rule is not one on its identity. -/
theorem OfContent.text_ne {flaw : RuleFlaw} (h : flaw.OfContent) :
    flaw.text ≠ noGuid.text ∧ ∀ id, flaw.text ≠ (duplicateId id).text := by
  have hguid : Opens 'r' noGuid.text := by decide
  have hduplicate (id : String) : Opens 'd' (duplicateId id).text :=
    opens_text _ rfl ((show Opens 'd' "duplicate rule id " by decide).append id)
  have hapart {c c' : Char} {s t : String} (hs : Opens c s) (ht : Opens c' t) (hne : c ≠ c') :
      s ≠ t := by
    rintro rfl
    exact hne (Option.some.inj (hs.symm.trans ht))
  obtain rfl | ⟨c, hopens, hd, hr⟩ := h.opens
  · exact ⟨by decide, fun id => hapart (show Opens 'r' noSegments.text by decide)
      (hduplicate id) (by decide)⟩
  · exact ⟨hapart hopens hguid hr, fun id => hapart hopens (hduplicate id) hd⟩

end RuleFlaw

/-- The report is that a rule has no guid, or that there is another rule with its id. -/
def FailedRule.BlamesIdentity (failed : FailedRule) : Prop :=
  failed = .ofFlaw failed.name .noGuid ∨ ∃ id, failed = .ofFlaw failed.name (.duplicateId id)

theorem RuleFlaw.OfContent.not_blamesIdentity {flaw : RuleFlaw} (h : flaw.OfContent)
    (name : String) : ¬ (FailedRule.ofFlaw name flaw).BlamesIdentity := by
  obtain ⟨hguid, hduplicate⟩ := h.text_ne
  rintro (heq | ⟨id, heq⟩)
  · exact hguid (message_inj.1 (congrArg FailedRule.reason heq))
  · exact hduplicate id (message_inj.1 (congrArg FailedRule.reason heq))

/-! ## Flaws of definitions -/

section Failures

variable {ε α β : Type} {P : ε → Prop}

/-- The computation fails with errors of one kind only. -/
def FailsOnly (P : ε → Prop) (x : Except ε α) : Prop := ∀ error, x = .error error → P error

theorem failsOnly_ok (a : α) : FailsOnly P (.ok a) := by
  intro _ h
  cases h

theorem failsOnly_error {error : ε} (h : P error) : FailsOnly P (.error error : Except ε α) := by
  rintro _ ⟨⟩
  exact h

theorem FailsOnly.bind {x : Except ε α} {f : α → Except ε β} (hx : FailsOnly P x)
    (hf : ∀ a, x = .ok a → FailsOnly P (f a)) : FailsOnly P (x >>= f) := by
  cases hxs : x with
  | error error => exact failsOnly_error (hx error hxs)
  | ok a => exact hf a hxs

end Failures

namespace Segment

theorem groups_failsOnly (marker : String) (bracket : Char) :
    FailsOnly RuleFlaw.OfContent (groups marker bracket) := by
  unfold groups
  dsimp only
  split
  · exact failsOnly_ok _
  · exact failsOnly_error trivial

theorem literal_failsOnly (segment : Segment) (field : FieldRef) :
    FailsOnly RuleFlaw.OfContent (segment.literal field) := by
  unfold literal
  dsimp only
  repeat' split
  all_goals first
    | exact failsOnly_ok _
    | exact failsOnly_error trivial

theorem comparison_failsOnly (segment : Segment) :
    FailsOnly RuleFlaw.OfContent segment.comparison := by
  unfold comparison
  dsimp only
  split
  · exact failsOnly_error trivial
  · split
    · exact failsOnly_error trivial
    · exact (literal_failsOnly segment _).bind fun _ _ => failsOnly_ok _

theorem connective_failsOnly (segment : Segment) :
    FailsOnly RuleFlaw.OfContent segment.connective := by
  unfold connective
  split
  · exact failsOnly_ok _
  · exact failsOnly_ok _
  · exact failsOnly_error trivial

theorem chars_failsOnly (depth : Nat) (segments : List Segment) :
    FailsOnly RuleFlaw.OfContent (chars depth segments) := by
  induction segments generalizing depth with
  | nil =>
    unfold chars
    split
    · exact failsOnly_ok _
    · exact failsOnly_error trivial
  | cons segment others ih =>
    unfold chars
    refine (groups_failsOnly _ _).bind fun opening _ => ?_
    refine (groups_failsOnly _ _).bind fun closing _ => ?_
    dsimp only
    split
    · exact failsOnly_error trivial
    refine (comparison_failsOnly segment).bind fun comparison _ => ?_
    split
    · exact failsOnly_error trivial
    have hrest (joint : List Char) : FailsOnly RuleFlaw.OfContent (do
        let rest ← chars (depth + opening - closing) others
        return List.replicate opening '(' ++ comparison ++ List.replicate closing ')' ++ joint ++
          rest) :=
      (ih _).bind fun _ _ => failsOnly_ok _
    split
    · exact hrest []
    · exact (connective_failsOnly segment).bind fun joint _ => hrest joint

end Segment

theorem CustomRule.conditionChars_failsOnly (rule : CustomRule) :
    FailsOnly RuleFlaw.OfContent rule.conditionChars := by
  unfold conditionChars
  split
  · exact failsOnly_error trivial
  · exact Segment.chars_failsOnly _ _

theorem checkLines_failsOnly {cells : List (String × String)}
    (h : ∀ cell ∈ cells, cell.1 ∈ RuleFlaw.columns) :
    FailsOnly RuleFlaw.OfContent (checkLines cells) := by
  induction cells with
  | nil => exact failsOnly_ok _
  | cons cell others ih =>
    obtain ⟨hcell, hothers⟩ := List.forall_mem_cons.1 h
    unfold checkLines
    split
    · exact failsOnly_error hcell
    · exact ih hothers

namespace Definition

theorem conditionOf_failsOnly (factType : FactType) (source : List Char) :
    FailsOnly RuleFlaw.OfContent (conditionOf factType source) := by
  unfold conditionOf
  split
  · exact failsOnly_error trivial
  · cases Condition.compile factType source with
    | ok => exact failsOnly_ok _
    | error => exact failsOnly_error trivial

/-- A custom rule has a guid that can be seen. -/
def Named : Definition → Prop
  | custom rule => Text.isBlankText rule.guid = false
  | sanity _ | business _ => True

/-- What is wrong with a definition that has a key is wrong with its content. -/
theorem Named.verdict_failsOnly {definition : Definition} (h : definition.Named) :
    FailsOnly RuleFlaw.OfContent definition.verdict := by
  cases definition with
  | sanity rule =>
    refine (checkLines_failsOnly (by simp [RuleFlaw.columns])).bind fun _ _ => ?_
    exact (conditionOf_failsOnly _ _).bind fun _ _ => failsOnly_ok _
  | business rule =>
    refine (checkLines_failsOnly (by simp [RuleFlaw.columns])).bind fun _ _ => ?_
    exact (conditionOf_failsOnly _ _).bind fun _ _ => failsOnly_ok _
  | custom rule =>
    have hguid : rule.guid.isEmpty = false := by
      cases hempty : rule.guid.isEmpty with
      | false => rfl
      | true =>
        rw [Named, String.isEmpty_iff.1 hempty] at h
        cases h
    refine (checkLines_failsOnly (by simp [RuleFlaw.columns])).bind fun _ _ => ?_
    refine rule.conditionChars_failsOnly.bind fun _ _ => ?_
    refine (conditionOf_failsOnly _ _).bind fun _ _ => ?_
    rw [if_neg (by simp [hguid])]
    exact failsOnly_ok _

end Definition

/-! ## Sets -/

/-- The bundled grammars refuse no rule for its identity when keys are not shared and guids not
blank. -/
theorem Bundled.not_blamesIdentity {snapshot : Snapshot}
    (hkeys : (snapshot.definitions.map Definition.key).Nodup)
    (hnamed : ∀ definition ∈ snapshot.definitions, definition.Named) {fingerprint : String}
    {version : Nat} {set : RuleSet}
    (hset : Bundled.compiler.compile snapshot fingerprint version = .ok set) :
    ∀ failed ∈ set.failed, ¬ failed.BlamesIdentity := by
  obtain ⟨settled, hsettled, -, hrefused⟩ := compile_settles snapshot fingerprint version
  obtain rfl : settled = set := Except.ok.inj (hsettled.symm.trans hset)
  have hrowKeys : (snapshot.rowOrder.map Definition.key).Nodup :=
    (snapshot.rowOrder_perm.map _).nodup_iff.2 hkeys
  intro failed hfailed
  rw [hrefused.mem_iff, Entry.settleFrom_eq_map hrowKeys (by simp), Entry.refused] at hfailed
  obtain ⟨entry, hentry, hfailed⟩ := List.mem_filterMap.1 hfailed
  obtain ⟨definition, hmem, rfl⟩ := List.mem_map.1 hentry
  have hcontent := (hnamed definition (snapshot.rowOrder_perm.mem_iff.1 hmem)).verdict_failsOnly
  cases hverdict : definition.verdict with
  | ok rule => simp [hverdict, Except.mapError] at hfailed
  | error flaw =>
    obtain rfl : FailedRule.ofFlaw definition.label flaw = failed := by
      simpa [hverdict, Except.mapError] using hfailed
    exact (hcontent flaw hverdict).not_blamesIdentity _

end FisheryRules
