import FisheryRules.Proofs.Results
import FisheryRules.Proofs.Source.RuleLines
import FisheryRules.RuleSet.OfSource

/-!
# Accounting for source texts

What becomes of any text that is compiled as a source. Every rule of the text is settled on its
own, in the order in which the text names them: it is kept, or it fails, for a flaw or because a
rule with its id was kept before. `CompiledRules.Settles` has one case for each.

`CompiledRules.ofSource_accounts` is the main statement: a text either has a stray line, and the
first one is reported, or every line in it that names a rule is accounted for once.
-/
namespace FisheryRules

/-- A compiled rule has the name that its text gives. -/
theorem CompiledRule.name_of_ofText {text : RuleText} {rule : CompiledRule}
    (h : ofText text = .ok rule) : rule.name.toList = text.name := by
  simp only [ofText, bind_eq_ok, pure_eq_ok, Except.ok.injEq] at h
  obtain ⟨-, -, -, -, -, -, rfl⟩ := h
  exact String.toList_ofList

namespace CompiledRules

/-- The rules of a source, in the order in which it names them, come to the compiled rules. -/
inductive Settles : List RuleText → CompiledRules → Prop
  | nil : Settles [] {}
  /-- A rule without a flaw whose id is new is kept. -/
  | kept {texts compiled text rule} (earlier : Settles texts compiled)
      (hrule : CompiledRule.ofText text = .ok rule) (hnew : rule.id ∉ compiled.rules.map (·.id)) :
      Settles (texts ++ [text]) { compiled with rules := compiled.rules ++ [rule] }
  /-- A rule with a flaw fails under its own name. -/
  | flawed {texts compiled text flaw} (earlier : Settles texts compiled)
      (hflaw : CompiledRule.ofText text = .error flaw) :
      Settles (texts ++ [text])
        { compiled with
          failed := compiled.failed ++ [.ofFlaw (String.ofList text.name) flaw] }
  /-- A rule with the id of one that was kept before fails under its own name. -/
  | duplicate {texts compiled text rule} (earlier : Settles texts compiled)
      (hrule : CompiledRule.ofText text = .ok rule) (htaken : rule.id ∈ compiled.rules.map (·.id)) :
      Settles (texts ++ [text])
        { compiled with
          failed := compiled.failed ++
            [.ofFlaw (String.ofList text.name) (.duplicateId rule.id)] }

variable {texts : List RuleText} {compiled : CompiledRules}

theorem any_id_eq_iff {id : String} :
    compiled.rules.any (·.id == id) = true ↔ id ∈ compiled.rules.map (·.id) := by
  simp only [List.any_eq_true, beq_iff_eq, List.mem_map]

theorem add_flawed {text : RuleText} {flaw : RuleFlaw}
    (hflaw : CompiledRule.ofText text = .error flaw) :
    compiled.add text =
      { compiled with
        failed := compiled.failed ++ [.ofFlaw (String.ofList text.name) flaw] } := by
  rw [CompiledRules.add, hflaw]
  rfl

theorem add_kept {text : RuleText} {rule : CompiledRule}
    (hrule : CompiledRule.ofText text = .ok rule) (hnew : rule.id ∉ compiled.rules.map (·.id)) :
    compiled.add text = { compiled with rules := compiled.rules ++ [rule] } := by
  rw [CompiledRules.add, hrule, ok_bind, if_neg (mt any_id_eq_iff.1 hnew)]
  rfl

theorem add_duplicate {text : RuleText} {rule : CompiledRule}
    (hrule : CompiledRule.ofText text = .ok rule) (htaken : rule.id ∈ compiled.rules.map (·.id)) :
    compiled.add text =
      { compiled with
        failed := compiled.failed ++
          [.ofFlaw (String.ofList text.name) (.duplicateId rule.id)] } := by
  rw [CompiledRules.add, hrule, ok_bind, if_pos (any_id_eq_iff.2 htaken)]
  rfl

/-- Adding one rule settles it after the others. -/
theorem Settles.add (h : Settles texts compiled) (text : RuleText) :
    Settles (texts ++ [text]) (compiled.add text) := by
  cases htext : CompiledRule.ofText text with
  | error flaw =>
    rw [add_flawed htext]
    exact h.flawed htext
  | ok rule =>
    by_cases htaken : rule.id ∈ compiled.rules.map (·.id)
    · rw [add_duplicate htext htaken]
      exact h.duplicate htext htaken
    · rw [add_kept htext htaken]
      exact h.kept htext htaken

/-- Adding rules one after the other settles them all. -/
theorem settles_foldl_add (texts : List RuleText) : Settles texts (texts.foldl add {}) := by
  induction texts using List.reverseRecOn with
  | nil => exact .nil
  | append_singleton texts text ih =>
    rw [List.foldl_append]
    exact ih.add text

namespace Settles

/-- Every rule of the source is kept or fails, once. -/
theorem length_rules_add_failed (h : Settles texts compiled) :
    compiled.rules.length + compiled.failed.length = texts.length := by
  induction h with
  | nil => rfl
  | kept | flawed | duplicate =>
    simp only [List.length_append, List.length_singleton]
    omega

/-- No two rules with the same id are kept. -/
theorem nodup_ids (h : Settles texts compiled) : (compiled.rules.map (·.id)).Nodup := by
  induction h with
  | nil => exact List.nodup_nil
  | kept _ _ hnew ih =>
    rw [List.map_append, List.map_singleton]
    exact List.nodup_append.2
      ⟨ih, List.nodup_singleton _, fun id hid other hother heq =>
        hnew (List.mem_singleton.1 hother ▸ heq ▸ hid)⟩
  | flawed _ _ ih => exact ih
  | duplicate _ _ _ ih => exact ih

/-- The rules are kept in the order in which the source names them. -/
theorem exists_sublist (h : Settles texts compiled) :
    ∃ sources : List RuleText, sources.Sublist texts ∧
      List.Forall₂ (fun rule text => CompiledRule.ofText text = .ok rule) compiled.rules
        sources := by
  induction h with
  | nil => exact ⟨[], .slnil, .nil⟩
  | @kept _ _ text _ _ hrule _ ih =>
    obtain ⟨sources, hsublist, hsources⟩ := ih
    exact ⟨sources ++ [text], hsublist.append (.refl _),
      List.rel_append hsources (.cons hrule .nil)⟩
  | flawed _ _ ih | duplicate _ _ _ ih =>
    obtain ⟨sources, hsublist, hsources⟩ := ih
    exact ⟨sources, hsublist.trans (List.sublist_append_left _ _), hsources⟩

end Settles

/-! ## Source texts -/

/-- The names of compiled rules, in order, are some of the names in the lines that name rules. -/
theorem Settles.names_sublist {lines : List (List Char)}
    (h : Settles (RuleText.units lines) compiled) :
    (compiled.rules.map (·.name.toList)).Sublist
      ((lines.filter RuleText.startsRule).map RuleText.headerName) := by
  obtain ⟨sources, hsublist, hsources⟩ := h.exists_sublist
  have hnames : List.Forall₂ (· = ·) (compiled.rules.map (·.name.toList))
      (sources.map RuleText.name) := by
    rw [List.forall₂_map_left_iff, List.forall₂_map_right_iff]
    exact hsources.imp fun _ _ hrule => CompiledRule.name_of_ofText hrule
  rw [List.forall₂_eq_eq_eq] at hnames
  rw [hnames, ← RuleText.map_name_units]
  exact hsublist.map RuleText.name

/-- Without a stray line, the rules that the lines name are settled. -/
theorem ofSource_settles {source : List Char}
    (h : ∀ i, ¬ RuleText.IsStray (Text.lines source) i) :
    ∃ compiled, ofSource source = .ok compiled ∧
      Settles (RuleText.units (Text.lines source)) compiled := by
  rw [ofSource, RuleText.split_of_forall_not h]
  exact ⟨_, rfl, settles_foldl_add _⟩

/-- With a stray line, the first one is reported. -/
theorem ofSource_of_isLeast {source : List Char} {i : Nat}
    (h : IsLeast {i | RuleText.IsStray (Text.lines source) i} i) :
    ∃ line, (Text.lines source)[i]? = some line ∧
      ofSource source = .error (RuleText.strayError (i + 1) line) := by
  obtain ⟨line, hline, hsplit⟩ := RuleText.split_of_isLeast h
  exact ⟨line, hline, by rw [ofSource, hsplit]; rfl⟩

/-- Compiling accounts for any text whatsoever. It fails when the text has a stray line, with the
first such line and its number. Otherwise every line that names a rule stands for one rule, which
reaches up to the next line that ends it or names another; each of them is kept or fails, as it
settles after those before it, so the rules are kept in the order of the lines that name them and
no two with the same id. -/
theorem ofSource_accounts (source : List Char) :
    ((∃ error, ofSource source = .error error) ↔
      ∃ i, RuleText.IsStray (Text.lines source) i) ∧
    (∀ error, ofSource source = .error error →
      ∃ i line, IsLeast {i | RuleText.IsStray (Text.lines source) i} i ∧
        (Text.lines source)[i]? = some line ∧ error = RuleText.strayError (i + 1) line) ∧
    ∀ compiled, ofSource source = .ok compiled →
      compiled.rules.length + compiled.failed.length =
        (Text.lines source).countP RuleText.startsRule ∧
      (compiled.rules.map (·.name.toList)).Sublist
        (((Text.lines source).filter RuleText.startsRule).map RuleText.headerName) ∧
      (compiled.rules.map (·.id)).Nodup ∧
      Settles (RuleText.units (Text.lines source)) compiled := by
  by_cases hstray : ∃ i, RuleText.IsStray (Text.lines source) i
  · classical
    have hleast := Nat.isLeast_find hstray
    obtain ⟨line, hline, hsource⟩ := ofSource_of_isLeast hleast
    refine ⟨⟨fun _ => hstray, fun _ => ⟨_, hsource⟩⟩, fun error herror => ?_,
      fun compiled hcompiled => ?_⟩
    · cases hsource.symm.trans herror
      exact ⟨_, line, hleast, hline, rfl⟩
    · cases hsource.symm.trans hcompiled
  · obtain ⟨settled, hsource, hsettles⟩ := ofSource_settles (not_exists.1 hstray)
    refine ⟨⟨fun ⟨error, herror⟩ => ?_, fun h => absurd h hstray⟩, fun error herror => ?_,
      fun compiled hcompiled => ?_⟩
    · cases hsource.symm.trans herror
    · cases hsource.symm.trans herror
    · cases hsource.symm.trans hcompiled
      exact ⟨hsettles.length_rules_add_failed.trans (RuleText.length_units _),
        hsettles.names_sublist, hsettles.nodup_ids, hsettles⟩

/-- A rule without an end, a rule, and the same rule again. Another line that ends no rule is
stray. -/
theorem ofSource_accounts_disorderly :
    let lines := ["rule \"Flag\"", "on RawMovement", "rule \"Flag\"", "on RawMovement",
      "when flagState == \"SWE\"", "then alarm", "end", "rule \"Flag\"", "on RawMovement",
      "when flagState == \"SWE\"", "then alarm", "end"].map String.toList
    (∃ compiled, ofSource (Grammar.unlines lines) = .ok compiled ∧
      compiled.rules.map (·.id) = ["Flag"] ∧ compiled.failed.length = 2) ∧
    ∃ error, ofSource (Grammar.unlines (lines ++ ["end".toList])) = .error error := by
  intro lines
  let cut : RuleText := ⟨"Flag".toList, ["on RawMovement".toList], false⟩
  let whole : RuleText := ⟨"Flag".toList, ["on RawMovement".toList,
    "when flagState == \"SWE\"".toList, "then alarm".toList], true⟩
  have hlines : ∀ line ∈ lines ++ ["end".toList], Text.OneLine line := by
    simp only [lines, List.map, String.reduceToList]
    decide
  have hread : Text.lines (Grammar.unlines lines) = lines :=
    Text.lines_unlines (List.forall_mem_append.1 hlines).1
  constructor
  · have hcut : CompiledRule.ofText cut = .error .missingEnd := rfl
    obtain ⟨rule, hwhole, hid⟩ :
        ∃ rule, CompiledRule.ofText whole = .ok rule ∧ rule.id = "Flag" := by
      let source := "flagState == \"SWE\"".toList
      let condition : Condition :=
        .compare .eq (.field ⟨7, "flagState", .text, some .flagState⟩) (.literal (.text "SWE"))
      have hclauses : whole.clauses = .ok ⟨.rawMovement, source, ["alarm".toList]⟩ := by
        simp only [whole, source, String.reduceToList]
        cbv
      have hscan : Token.scan source = .ok [.word "flagState", .compare .eq, .text "SWE"] := by
        simp only [source, String.reduceToList]
        decide +kernel
      have hcondition : Condition.compile .rawMovement source = .ok condition := by
        rw [Condition.compile, hscan]
        cbv
      rw [CompiledRule.ofText, hclauses, ok_bind, hcondition, RuleEffect.ofLines_alarm]
      exact ⟨_, rfl, String.ofList_toList⟩
    have hsplit : RuleText.split (Grammar.unlines lines) = .ok [cut, whole, whole] := by
      rw [RuleText.split, hread]
      simp only [lines, cut, whole, List.map, String.reduceToList]
      cbv
    have hsource : ofSource (Grammar.unlines lines) = .ok ⟨[rule],
        [.ofFlaw "Flag" .missingEnd, .ofFlaw "Flag" (.duplicateId rule.id)]⟩ := by
      rw [ofSource, hsplit, Except.map, List.foldl_cons, add_flawed hcut, List.foldl_cons,
        add_kept hwhole List.not_mem_nil, List.foldl_cons,
        add_duplicate hwhole (List.mem_singleton_self _)]
      rfl
    have hcount : lines.countP RuleText.startsRule = 3 := by
      simp only [lines, List.map, String.reduceToList]
      decide +kernel
    have haccounts := ((ofSource_accounts _).2.2 _ hsource).1
    rw [hread, hcount] at haccounts
    exact ⟨_, hsource, by simpa using hid, Nat.add_left_cancel haccounts⟩
  · rw [(ofSource_accounts _).1, Text.lines_unlines hlines]
    refine ⟨12, RuleText.isStray_iff.2 ⟨"end".toList, rfl, ?_⟩⟩
    simp only [lines, List.map, String.reduceToList]
    decide +kernel

end CompiledRules

end FisheryRules
