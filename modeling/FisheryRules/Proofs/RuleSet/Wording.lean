import FisheryRules.Proofs.Evaluation.Behaviour
import FisheryRules.Proofs.Keys
import FisheryRules.Proofs.RuleSet.Accounting
import FisheryRules.Proofs.RuleSet.Fingerprint

/-!
# Definitions that are worded alike

What the rules of a set do is given by the definitions one by one. Definitions with the same parts
of their signatures lead to the same behaviour when their conditions have the same tokens; with
grammars of one's own their conditions and their names have to be spelled in the same letter case.

## Main definitions

* `Definition.behaviour?` — what the rule does that a definition states.
* `Definition.tokens?`, `Definition.wording` — the tokens and the spelling of the condition.
-/
namespace FisheryRules

open Text

namespace Definition

/-- What tells a definition from the others of its category. -/
def key : Definition → String
  | sanity rule => rule.name
  | custom rule => rule.guid
  | business rule => rule.brId

/-- The tokens of the condition, if it consists of tokens. -/
def tokens? : Definition → Option (List Token)
  | sanity rule => (Token.scan (fold rule.expression.toList)).toOption
  | custom rule =>
    rule.conditionChars.toOption.bind fun condition => (Token.scan condition).toOption
  | business rule => (Token.scan (fold rule.expression.toList)).toOption

/-- The spelling of the condition. -/
def wording : Definition → String ⊕ List Segment
  | sanity rule => .inl rule.expression
  | custom rule => .inr rule.sortedSegments
  | business rule => .inl rule.expression

/-- What the rule does that a definition states. -/
def behaviour? (definition : Definition) : Option Behaviour :=
  definition.verdict.toOption.map fun rule =>
    { rule.behaviour with intervals := definition.intervals }

theorem id_of_verdict {definition : Definition} {rule : CompiledRule}
    (h : definition.verdict = .ok rule) : rule.id = definition.key := by
  have hcarries := carries_of_verdict h
  cases definition <;> exact hcarries.1

end Definition

/-! ## The rules of the bundled grammars -/

/-- Definitions with keys of their own are settled each on its own merits. -/
theorem Entry.settleFrom_eq_map {ids : List String} {definitions : List Definition}
    (hkeys : (definitions.map Definition.key).Nodup)
    (hids : ∀ definition ∈ definitions, definition.key ∉ ids) :
    settleFrom ids definitions = definitions.map fun definition =>
      ⟨definition, definition.verdict.mapError (.ofFlaw definition.label)⟩ := by
  induction definitions generalizing ids with
  | nil => rfl
  | cons first others ih =>
    obtain ⟨hfirst, hothers⟩ := List.nodup_cons.1 hkeys
    obtain ⟨hfirstIds, hothersIds⟩ := List.forall_mem_cons.1 hids
    rw [settleFrom, List.map_cons]
    cases hverdict : first.verdict with
    | error flaw =>
      have hsettle : first.settle ids = .error (.ofFlaw first.label flaw) := by
        simp [Definition.settle, hverdict]
      simp only [hsettle, publishedIds_error, List.append_nil]
      rw [ih hothers hothersIds]
      rfl
    | ok rule =>
      have hid := Definition.id_of_verdict hverdict
      have hsettle : first.settle ids = .ok rule := by
        simp [Definition.settle, hverdict, hid, hfirstIds]
      simp only [hsettle, publishedIds_ok]
      rw [ih hothers fun definition hmem => ?_]
      · rfl
      · rw [List.mem_append, List.mem_singleton, hid, not_or]
        exact ⟨hothersIds definition hmem,
          fun heq => hfirst (heq ▸ List.mem_map_of_mem hmem)⟩

theorem Entry.published_settleFrom {ids : List String} {definitions : List Definition}
    (hkeys : (definitions.map Definition.key).Nodup)
    (hids : ∀ definition ∈ definitions, definition.key ∉ ids) :
    published (settleFrom ids definitions) =
      definitions.filterMap fun definition => definition.verdict.toOption := by
  rw [settleFrom_eq_map hkeys hids, published, List.filterMap_map]
  simp only [Function.comp_def, toOption_mapError]

/-- The windows of a rule are those of the one definition with its key. -/
theorem Snapshot.intervals_of_mem {snapshot : Snapshot} {definition : Definition}
    (hkeys : (snapshot.definitions.map Definition.key).Nodup)
    (hmem : definition ∈ snapshot.definitions) :
    snapshot.intervals definition.key = definition.intervals := by
  cases snapshot with
  | sanity rules =>
    obtain ⟨rule, -, rfl⟩ := List.mem_map.1 hmem
    rfl
  | business rules =>
    obtain ⟨rule, -, rfl⟩ := List.mem_map.1 hmem
    rfl
  | custom rules =>
    obtain ⟨rule, hrule, rfl⟩ := List.mem_map.1 hmem
    have hguids : (rules.map (·.guid)).Nodup := by
      simpa [definitions, Function.comp_def, Definition.key] using hkeys
    have hfilter := filter_key_eq_singleton hguids hrule
    simp [intervals, Definition.key, hfilter, Definition.intervals]

/-- The rules of a set do what its definitions state. -/
theorem Bundled.behaviours {snapshot : Snapshot} {fingerprint : String} {version : Nat}
    {set : RuleSet} (hkeys : (snapshot.definitions.map Definition.key).Nodup)
    (hset : Bundled.compiler.compile snapshot fingerprint version = .ok set) :
    (set.rules.map CompiledRule.behaviour).Perm
      (snapshot.definitions.filterMap Definition.behaviour?) := by
  obtain ⟨settled, hsettled, hrules, -⟩ := compile_settles snapshot fingerprint version
  obtain rfl : settled = set := Except.ok.inj (hsettled.symm.trans hset)
  have hrowKeys : (snapshot.rowOrder.map Definition.key).Nodup :=
    (snapshot.rowOrder_perm.map _).nodup_iff.2 hkeys
  have hbehaviour : ∀ definition ∈ snapshot.rowOrder,
      definition.verdict.toOption.map (CompiledRule.behaviour ∘ snapshot.complete) =
        definition.behaviour? := by
    intro definition hmem
    have hintervals := Snapshot.intervals_of_mem hkeys (snapshot.rowOrder_perm.mem_iff.1 hmem)
    rw [Definition.behaviour?]
    cases hverdict : definition.verdict with
    | error flaw => rfl
    | ok rule =>
      rw [← hintervals, ← Definition.id_of_verdict hverdict]
      rfl
  rw [hrules, Entry.published_settleFrom hrowKeys (by simp), List.map_map, List.map_filterMap,
    List.filterMap_congr hbehaviour]
  exact snapshot.rowOrder_perm.filterMap _

/-! ## Definitions with the same parts -/

theorem FactType.name_injective : Function.Injective FactType.name := by
  intro a b h
  cases a <;> cases b <;> first | rfl | exact absurd h (by decide)

theorem Severity.code_injective : Function.Injective Severity.code := by
  intro a b h
  cases a <;> cases b <;> first | rfl | exact absurd h (by decide)

/-- Letter case does not break lines. -/
theorem oneLine_of_caselessPart_eq {s t : String} (h : caselessPart s = caselessPart t)
    (hs : OneLine s.toList) : OneLine t.toList := by
  have hcontrol {c : Char} (hc : IsControl c) (hmem : c ∈ t.toList) : c ∈ s.toList := by
    rw [← mem_lowerChars hc] at hmem ⊢
    exact (congrArg (c ∈ ·) h).mpr hmem
  intro c hc
  by_cases hbreak : isLineBreak c = true
  · have hisControl : IsControl c := by
      obtain heq | heq := Bool.or_eq_true_iff.1 hbreak
      · exact beq_iff_eq.1 heq ▸ ⟨by decide, by decide⟩
      · exact beq_iff_eq.1 heq ▸ ⟨by decide, by decide⟩
    exact absurd (hs c (hcontrol hisControl hc)) (by simp [hbreak])
  · simpa using hbreak

namespace Definition

/-- What is done after the same lines were found to be whole. -/
theorem map_checkLines_congr {α β : Type} {columns columns' : List (String × String)}
    {x x' : Except RuleFlaw α} {f : α → β}
    (hlines : (∀ column ∈ columns, OneLine column.2.toList) ↔
      ∀ column ∈ columns', OneLine column.2.toList)
    (h : x.toOption.map f = x'.toOption.map f) :
    (checkLines columns >>= fun _ => x).toOption.map f =
      (checkLines columns' >>= fun _ => x').toOption.map f := by
  rw [← checkLines_eq_ok (u := ()), ← checkLines_eq_ok (u := ())] at hlines
  cases hcheck : checkLines columns with
  | ok u =>
    rw [hlines.1 hcheck]
    exact h
  | error flaw =>
    cases hcheck' : checkLines columns' with
    | ok u => cases (hlines.2 hcheck').symm.trans hcheck
    | error flaw' => rfl

/-- What condition a text states depends on its tokens. -/
theorem toOption_conditionOf (factType : FactType) (source : List Char) :
    (conditionOf factType source).toOption =
      (Token.scan source).toOption.bind fun tokens =>
        (Condition.ofTokens factType tokens).toOption.bind fun tree =>
          tree.checkBoolean.toOption := by
  have hcompile : (Condition.compile factType source).toOption =
      (Token.scan source).toOption.bind fun tokens =>
        (Condition.ofTokens factType tokens).toOption.bind fun tree =>
          tree.checkBoolean.toOption := by
    simp only [Condition.compile, toOption_bind, toOption_mapError]
  unfold conditionOf
  split
  case isTrue hempty =>
    rw [List.isEmpty_iff.1 hempty]
    rfl
  case isFalse => rw [toOption_mapError, hcompile]

variable {a b : CustomRule}

/-- The parts of a custom rule that are taken over as they are. -/
theorem custom_eq_of_fields (ha : (custom a).Separable) (hb : (custom b).Separable)
    (h : (custom a).fields = (custom b).fields) :
    a.guid = b.guid ∧ caselessPart a.name = caselessPart b.name ∧ a.actionChars = b.actionChars ∧
      a.intervals = b.intervals := by
  simp only [fields, List.cons.injEq] at h
  obtain ⟨hguid, hname, -, hactions, hintervals, -⟩ := h
  exact ⟨String.toList_inj.1 hguid, hname, hactions,
    Data.intervals_injective ha.intervals hb.intervals hintervals⟩

/-- The parts of a business rule that are taken over as they are. -/
theorem business_eq_of_fields {a b : BusinessRule}
    (h : (business a).fields = (business b).fields) :
    a.brId = b.brId ∧ a.factType = b.factType ∧ a.message = b.message ∧
      a.errorType = b.errorType ∧ a.level = b.level ∧
      a.propertyNames.getD "" = b.propertyNames.getD "" := by
  simp only [fields, List.cons.injEq, String.toList_inj] at h
  obtain ⟨hid, hfactType, -, hmessage, hseverity, hlevel, hproperty, -⟩ := h
  exact ⟨hid, FactType.name_injective hfactType, hmessage, Severity.code_injective hseverity,
    hlevel, hproperty⟩

/-- Definitions with the same parts and the same tokens state the same behaviour. -/
theorem behaviour?_congr {a b : Definition} (ha : a.Separable) (hb : b.Separable)
    (hcategory : a.category = b.category) (hfields : a.fields = b.fields)
    (htokens : a.tokens? = b.tokens?) : a.behaviour? = b.behaviour? := by
  cases a with
  | sanity a =>
    cases b with
    | custom | business => cases hcategory
    | sanity b =>
      simp only [fields, List.cons.injEq] at hfields
      obtain ⟨hname, -⟩ := hfields
      simp only [tokens?] at htokens
      refine map_checkLines_congr ?_ ?_
      · simp only [List.forall_mem_singleton]
        exact ⟨oneLine_of_caselessPart_eq hname, oneLine_of_caselessPart_eq hname.symm⟩
      · rw [toOption_bind, toOption_bind, toOption_conditionOf, toOption_conditionOf, htokens,
          Option.map_bind, Option.map_bind]
        rfl
  | custom a =>
    cases b with
    | sanity | business => cases hcategory
    | custom b =>
      obtain ⟨hguid, hname, hactions, hintervals⟩ := custom_eq_of_fields ha hb hfields
      have hlist : a.actionList = b.actionList := congrArg String.ofList hactions
      have hwindows : (custom a).intervals = (custom b).intervals := hintervals
      have hcondition : (a.conditionChars.toOption.bind fun condition =>
            (conditionOf .movement condition).toOption) =
          b.conditionChars.toOption.bind fun condition =>
            (conditionOf .movement condition).toOption := by
        simp only [tokens?] at htokens
        simp only [toOption_conditionOf, ← Option.bind_assoc, htokens]
      rw [behaviour?, behaviour?, hwindows]
      refine map_checkLines_congr ?_ ?_
      · simp only [List.forall_mem_cons, hguid, hlist]
        exact and_congr_left'
          ⟨oneLine_of_caselessPart_eq hname, oneLine_of_caselessPart_eq hname.symm⟩
      · simp only [toOption_bind, ← Option.bind_assoc, hcondition, hguid, hlist, Option.map_bind]
        split <;> rfl
  | business a =>
    cases b with
    | sanity | custom => cases hcategory
    | business b =>
      obtain ⟨hid, hfactType, hmessage, hseverity, hlevel, hproperty⟩ :=
        business_eq_of_fields hfields
      simp only [tokens?] at htokens
      simp only [behaviour?, verdict, hid, hfactType, hmessage, hseverity, hlevel, hproperty,
        toOption_bind, toOption_conditionOf, htokens]
      rfl

/-! ## Grammars of one's own -/

/-- What any compiler reads of a definition. -/
def reading (definition : Definition) :
    String × List TimeInterval × FactType × String × RowResult :=
  (definition.key, definition.intervals, definition.factType, definition.label, definition.row)

/-- Definitions with the same parts, the same wording and the same name read the same. -/
theorem reading_congr {a b : Definition} (ha : a.Separable) (hb : b.Separable)
    (hcategory : a.category = b.category) (hfields : a.fields = b.fields)
    (hwording : a.wording = b.wording) (hlabel : a.label = b.label) : a.reading = b.reading := by
  cases a with
  | sanity a =>
    cases b with
    | custom | business => cases hcategory
    | sanity b =>
      have hname : a.name = b.name := hlabel
      have hexpression : a.expression = b.expression := Sum.inl.inj hwording
      simp only [reading, key, intervals, factType, label, row, SanityRule.row, hname, hexpression]
  | custom a =>
    cases b with
    | sanity | business => cases hcategory
    | custom b =>
      have hname : a.name = b.name := hlabel
      obtain ⟨hguid, -, hactions, hintervals⟩ := custom_eq_of_fields ha hb hfields
      have hsegments : a.sortedSegments = b.sortedSegments := Sum.inr.inj hwording
      simp only [reading, key, intervals, factType, label, row, CustomRule.row,
        CustomRule.conditionChars, CustomRule.actionList, hname, hguid, hactions, hintervals,
        hsegments]
  | business a =>
    cases b with
    | sanity | custom => cases hcategory
    | business b =>
      obtain ⟨hid, hfactType, hmessage, hseverity, hlevel, hproperty⟩ :=
        business_eq_of_fields hfields
      have hexpression : a.expression = b.expression := Sum.inl.inj hwording
      simp only [reading, key, intervals, factType, label, row, BusinessRule.row, hid, hfactType,
        hmessage, hseverity, hlevel, hproperty, hexpression]

end Definition

theorem Compiler.renderGroup_congr (compiler : Compiler) {rules rules' : List BusinessRule}
    (h : rules.map (fun rule => (rule.factType, rule.brId, rule.row)) =
      rules'.map fun rule => (rule.factType, rule.brId, rule.row)) (factType : FactType) :
    compiler.renderGroup rules factType = compiler.renderGroup rules' factType := by
  have hgroup := congrArg (List.filter (·.1 == factType)) h
  simp only [List.filter_map, Function.comp_def] at hgroup
  have hrows := congrArg (List.map (·.2.2)) hgroup
  have hids := congrArg (List.map (·.2.1)) hgroup
  simp only [List.map_map, Function.comp_def] at hrows hids
  unfold renderGroup
  generalize rules.filter (·.factType == factType) = group at *
  generalize rules'.filter (·.factType == factType) = group' at *
  cases group with
  | nil =>
    cases group' with
    | nil => rfl
    | cons rule' others' => cases hrows
  | cons rule others =>
    cases group' with
    | nil => cases hrows
    | cons rule' others' =>
      cases compiler.business factType with
      | some grammar => simp only [hrows]
      | none =>
        have hexcluded := congrArg (List.map fun id =>
          FailedRule.ofFlaw id (.noGrammar factType)) hids
        simp only [List.map_map, Function.comp_def] at hexcluded
        simp only [hexcluded]

theorem Compiler.render_congr (compiler : Compiler) {a b : Snapshot}
    (hcategory : a.category = b.category)
    (h : a.definitions.map Definition.reading = b.definitions.map Definition.reading) :
    compiler.render a = compiler.render b := by
  cases a with
  | sanity rules =>
    cases b with
    | custom | business => cases hcategory
    | sanity rules' =>
      have hrows := congrArg (List.map (·.2.2.2.2)) h
      simp only [Snapshot.definitions, List.map_map, Function.comp_def] at hrows
      exact congrArg (renderRows compiler.sanity) hrows
  | custom rules =>
    cases b with
    | sanity | business => cases hcategory
    | custom rules' =>
      have hrows := congrArg (List.map (·.2.2.2.2)) h
      simp only [Snapshot.definitions, List.map_map, Function.comp_def] at hrows
      exact congrArg (renderRows compiler.custom) hrows
  | business rules =>
    cases b with
    | sanity | custom => cases hcategory
    | business rules' =>
      have hcells := congrArg (List.map (·.2.2)) h
      simp only [Snapshot.definitions, List.map_map, Function.comp_def] at hcells
      simp only [render, funext (compiler.renderGroup_congr hcells)]

theorem Snapshot.intervals_congr {a b : Snapshot} (hcategory : a.category = b.category)
    (h : a.definitions.map Definition.reading = b.definitions.map Definition.reading) :
    a.intervals = b.intervals := by
  funext id
  cases a with
  | sanity rules =>
    cases b with
    | custom | business => cases hcategory
    | sanity rules' => rfl
  | business rules =>
    cases b with
    | sanity | custom => cases hcategory
    | business rules' => rfl
  | custom rules =>
    cases b with
    | sanity | business => cases hcategory
    | custom rules' =>
      have hwindows := congrArg (fun readings =>
        ((readings.filter (·.1 == id)).map (·.2.1)).getLast?.getD []) h
      simp only [definitions, List.map_map, List.filter_map, Function.comp_def] at hwindows
      exact hwindows

/-- Snapshots of definitions that read the same compile to the same rules, but for what they are
described by. -/
theorem Compiler.compile_congr {compiler : Compiler} {a b : Snapshot}
    (hcategory : a.category = b.category)
    (h : a.definitions.map Definition.reading = b.definitions.map Definition.reading)
    {fingerprint fingerprint' : String} {version version' : Nat} {set : RuleSet}
    (hset : compiler.compile a fingerprint version = .ok set) :
    ∃ set', compiler.compile b fingerprint' version' = .ok set' ∧
      set.rules.map CompiledRule.behaviour = set'.rules.map CompiledRule.behaviour := by
  have hrender : compiler.render a = compiler.render b := compiler.render_congr hcategory h
  have hintervals : a.intervals = b.intervals := Snapshot.intervals_congr hcategory h
  have hbehaviour : CompiledRule.behaviour ∘ a.complete = CompiledRule.behaviour ∘ b.complete := by
    funext rule
    simp [Snapshot.complete, CompiledRule.behaviour, hintervals]
  simp only [compile, bind_eq_ok, pure_eq_ok, Except.ok.injEq] at hset
  obtain ⟨compiled, hcompiled, rfl⟩ := hset
  rw [hrender] at hcompiled
  simp only [compile, hcompiled, ok_bind, pure_eq_ok]
  exact ⟨_, rfl, by rw [List.map_map, List.map_map, hbehaviour]⟩

/-! ## Definitions with the same signatures -/

/-- Items that are paired by one property and agree in another one as soon as they are paired are
paired by the other one. -/
theorem perm_map_of_perm_map {α β γ : Type} {f : α → β} {g : α → γ} {xs ys : List α}
    (h : (xs.map f).Perm (ys.map f)) (hfg : ∀ x ∈ xs, ∀ y ∈ ys, f x = f y → g x = g y) :
    (xs.map g).Perm (ys.map g) := by
  induction xs generalizing ys with
  | nil =>
    obtain rfl : ys = [] := by simpa using h.symm
    exact .refl _
  | cons x xs ih =>
    obtain ⟨y, hy, heq⟩ := List.mem_map.1 (h.mem_iff.1 List.mem_cons_self)
    obtain ⟨before, after, rfl⟩ := List.append_of_mem hy
    have hmiddle : (before ++ y :: after).Perm (y :: (before ++ after)) := List.perm_middle
    have hcons := h.trans (hmiddle.map f)
    rw [List.map_cons, List.map_cons, heq] at hcons
    have hrest := hcons.cons_inv
    have hothers := ih hrest fun x' hx' y' hy' =>
      hfg x' (.tail _ hx') y' (hmiddle.mem_iff.2 (.tail _ hy'))
    rw [List.map_cons, hfg x List.mem_cons_self y hy heq.symm]
    exact (hothers.cons (g y)).trans (hmiddle.map g).symm

/-- Items that are the same up to order, and have keys of their own in the same order, are the
same. -/
theorem eq_of_perm_of_map_fst_eq {α β : Type} {xs ys : List (α × β)} (h : xs.Perm ys)
    (hapart : (xs.map Prod.fst).Nodup) (hkeys : xs.map Prod.fst = ys.map Prod.fst) : xs = ys := by
  induction xs generalizing ys with
  | nil => exact h.nil_eq
  | cons x xs ih =>
    cases ys with
    | nil => cases hkeys
    | cons y ys =>
      obtain ⟨hfirst, hothers⟩ := List.cons.inj hkeys
      obtain ⟨hnew, hapart⟩ := List.nodup_cons.1 hapart
      obtain rfl : x = y := by
        refine (List.mem_cons.1 (h.mem_iff.1 List.mem_cons_self)).resolve_right fun hmem => ?_
        exact hnew (hothers ▸ List.mem_map_of_mem hmem)
      rw [ih h.cons_inv hapart hothers]

namespace Snapshot

variable {a b : Snapshot}

/-- The keys of the definitions, in their order. -/
def keys (snapshot : Snapshot) : List String := snapshot.definitions.map Definition.key

theorem map_fst_reading (snapshot : Snapshot) :
    (snapshot.definitions.map Definition.reading).map Prod.fst = snapshot.keys := by
  rw [List.map_map]
  rfl

/-- Definitions with pairwise the same readings read the same in their order when their keys come in
the same order. -/
theorem map_reading_eq (hapart : a.keys.Nodup) (hkeys : a.keys = b.keys)
    (hperm : (a.definitions.map Definition.signature).Perm (b.definitions.map Definition.signature))
    (hreading : ∀ x ∈ a.definitions, ∀ y ∈ b.definitions, x.signature = y.signature →
      x.reading = y.reading) :
    a.definitions.map Definition.reading = b.definitions.map Definition.reading := by
  refine eq_of_perm_of_map_fst_eq (perm_map_of_perm_map hperm hreading) ?_ ?_
  · rwa [map_fst_reading]
  · rw [map_fst_reading, map_fst_reading, hkeys]

end Snapshot

end FisheryRules
