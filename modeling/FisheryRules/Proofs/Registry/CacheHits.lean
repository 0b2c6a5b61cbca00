import FisheryRules.Proofs.Registry.Rearrangements
import FisheryRules.Proofs.RuleSet.Wording

/-!
# Cache hits

A refresh that finds nothing changed leaves a set in service that was compiled from definitions with
the same fingerprint. `Cache.unchanged_serves` says when such a set does just what a set would do
that is compiled from the definitions which are listed; `Cache.unchanged_stale` says that it need
not when a condition has changed in its letter case, when a separator of the fingerprint stands in a
text, or when two definitions of one key have changed places.

## Main definitions

* `Snapshot.Comparable` — the fingerprint hides no difference in what conditions say.
* `Snapshot.KeyedAlike` — definitions have keys of their own, as those that a store lists.
* `Cache.Stale` — a set goes on firing on a fact on which what is listed now does not fire.
-/
namespace FisheryRules

/-! ## Snapshots with the same fingerprint -/

/-- The digest and the separators of the fingerprint hide no difference between two snapshots, and
the conditions of definitions with the same signature have the same tokens; unless the grammars are
the bundled ones, these definitions differ in letter case neither in their conditions nor in their
names. -/
structure Snapshot.Comparable (compiler : Compiler) (a b : Snapshot) : Prop where
  digest : a.fingerprint = b.fingerprint → a.fingerprintChars = b.fingerprintChars
  separable : ∀ definition ∈ a.definitions ++ b.definitions, definition.Separable
  conditions :
    (Compiler.bundled = .ok compiler ∧
      ∀ x ∈ a.definitions, ∀ y ∈ b.definitions, x.signature = y.signature →
        x.tokens? = y.tokens?) ∨
    ∀ x ∈ a.definitions, ∀ y ∈ b.definitions, x.signature = y.signature →
      x.wording = y.wording ∧ x.label = y.label

/-- The definitions of each of two snapshots have keys of their own; unless the grammars are the
bundled ones, the keys come in the same order. -/
structure Snapshot.KeyedAlike (compiler : Compiler) (a b : Snapshot) : Prop where
  apart : a.keys.Nodup
  apart_right : b.keys.Nodup
  order : Compiler.bundled = .ok compiler ∨ a.keys = b.keys

/-- The keys of a snapshot ascend, as those of the rows of a table do. -/
def Snapshot.Ascending (snapshot : Snapshot) : Prop := snapshot.keys.Pairwise (· < ·)

theorem Snapshot.Ascending.nodup {snapshot : Snapshot} (h : snapshot.Ascending) :
    snapshot.keys.Nodup := List.Pairwise.imp (fun hlt => String.ne_of_lt hlt) h

/-- Where definitions are worded alike their conditions have the same tokens. -/
theorem Definition.tokens?_congr {a b : Definition} (hcategory : a.category = b.category)
    (hwording : a.wording = b.wording) : a.tokens? = b.tokens? := by
  cases a <;> cases b <;> cases hcategory
  case sanity.sanity | business.business =>
    simp only [tokens?, Sum.inl.inj hwording]
  case custom.custom =>
    simp only [tokens?, CustomRule.conditionChars, Sum.inr.inj hwording]

namespace Snapshot.Comparable

variable {compiler : Compiler} {a b : Snapshot}

theorem signature_perm (h : Comparable compiler a b) (hcategory : a.category = b.category)
    (hfingerprint : a.fingerprint = b.fingerprint) :
    (a.definitions.map Definition.signature).Perm (b.definitions.map Definition.signature) := by
  obtain ⟨hseparableA, hseparableB⟩ := List.forall_mem_append.1 h.separable
  exact perm_of_fingerprintChars_eq hcategory hseparableA hseparableB (h.digest hfingerprint)

/-- Definitions with the same signature have the same parts. -/
theorem fields_eq (h : Comparable compiler a b) (hcategory : a.category = b.category)
    {x y : Definition} (hx : x ∈ a.definitions) (hy : y ∈ b.definitions)
    (hsignature : x.signature = y.signature) :
    x.Separable ∧ y.Separable ∧ x.category = y.category ∧ x.fields = y.fields := by
  obtain ⟨hseparableA, hseparableB⟩ := List.forall_mem_append.1 h.separable
  have hsame : x.category = y.category := by
    rw [category_of_mem hx, category_of_mem hy, hcategory]
  exact ⟨hseparableA x hx, hseparableB y hy, hsame,
    (hseparableA x hx).fields_eq (hseparableB y hy) hsame hsignature⟩

/-- Unless the grammars are the bundled ones, definitions with the same signature read the same. -/
theorem bundled_or (h : Comparable compiler a b) (hcategory : a.category = b.category) :
    Compiler.bundled = .ok compiler ∨ ∀ x ∈ a.definitions, ∀ y ∈ b.definitions,
      x.signature = y.signature → x.reading = y.reading := by
  refine h.conditions.imp And.left fun hspelling x hx y hy hsignature => ?_
  obtain ⟨hseparable, hseparable', hsame, hfields⟩ := h.fields_eq hcategory hx hy hsignature
  obtain ⟨hwording, hlabel⟩ := hspelling x hx y hy hsignature
  exact Definition.reading_congr hseparable hseparable' hsame hfields hwording hlabel

/-- Definitions with the same signature state the same behaviour. -/
theorem behaviour?_eq (h : Comparable compiler a b) (hcategory : a.category = b.category) :
    ∀ x ∈ a.definitions, ∀ y ∈ b.definitions, x.signature = y.signature →
      x.behaviour? = y.behaviour? := by
  intro x hx y hy hsignature
  obtain ⟨hseparable, hseparable', hsame, hfields⟩ := h.fields_eq hcategory hx hy hsignature
  refine Definition.behaviour?_congr hseparable hseparable' hsame hfields ?_
  obtain ⟨-, htokens⟩ | hspelling := h.conditions
  · exact htokens x hx y hy hsignature
  · exact Definition.tokens?_congr hsame (hspelling x hx y hy hsignature).1

/-- Snapshots with ascending keys are keyed alike. -/
theorem keyedAlike (h : Comparable compiler a b) (ha : a.Ascending) (hb : b.Ascending)
    (hcategory : a.category = b.category) (hfingerprint : a.fingerprint = b.fingerprint) :
    KeyedAlike compiler a b := by
  refine ⟨ha.nodup, hb.nodup, (h.bundled_or hcategory).imp_right fun hreading => ?_⟩
  have hkeys : a.keys.Perm b.keys :=
    perm_map_of_perm_map (h.signature_perm hcategory hfingerprint) fun x hx y hy hsignature =>
      congrArg Prod.fst (hreading x hx y hy hsignature)
  exact hkeys.eq_of_pairwise (fun _ _ _ _ hlt hgt => absurd hgt (String.lt_asymm hlt)) ha hb

end Snapshot.Comparable

/-- Comparable snapshots with the same fingerprint compile to sets that do the same. -/
theorem Compiler.compile_comparable {compiler : Compiler} {a b : Snapshot}
    (hcategory : a.category = b.category) (hcomparable : Snapshot.Comparable compiler a b)
    (hkeyed : Snapshot.KeyedAlike compiler a b) (hfingerprint : a.fingerprint = b.fingerprint)
    {fingerprint : String} {version : Nat} {set : RuleSet}
    (hset : compiler.compile a fingerprint version = .ok set)
    (fingerprint' : String) (version' : Nat) :
    ∃ set', compiler.compile b fingerprint' version' = .ok set' ∧
      (set.rules.map CompiledRule.behaviour).Perm (set'.rules.map CompiledRule.behaviour) := by
  have hsignatures := hcomparable.signature_perm hcategory hfingerprint
  obtain hbundled | ⟨hkeys, hreading⟩ : Compiler.bundled = .ok compiler ∨
      a.keys = b.keys ∧ ∀ x ∈ a.definitions, ∀ y ∈ b.definitions,
        x.signature = y.signature → x.reading = y.reading := by
    grind [hkeyed.order, hcomparable.bundled_or hcategory]
  · obtain rfl : compiler = Bundled.compiler :=
      Except.ok.inj (hbundled.symm.trans Bundled.bundled_eq_ok)
    obtain ⟨set', hset', -⟩ := compile_settles b fingerprint' version'
    refine ⟨set', hset', ?_⟩
    have hbehaviours : (a.definitions.map Definition.behaviour?).Perm
        (b.definitions.map Definition.behaviour?) :=
      perm_map_of_perm_map hsignatures (hcomparable.behaviour?_eq hcategory)
    have hfilterMap (definitions : List Definition) :
        definitions.filterMap Definition.behaviour? =
          (definitions.map Definition.behaviour?).filterMap id := by
      rw [List.filterMap_map, Function.id_comp]
    refine (Bundled.behaviours hkeyed.apart hset).trans (.trans ?_
      (Bundled.behaviours hkeyed.apart_right hset').symm)
    rw [hfilterMap, hfilterMap]
    exact hbehaviours.filterMap id
  · obtain ⟨set', hset', hbehaviours⟩ :=
      compile_congr hcategory (Snapshot.map_reading_eq hkeyed.apart hkeys hsignatures hreading) hset
    exact ⟨set', hset', .of_eq hbehaviours⟩

/-! ## Stores -/

/-- A store lists its definitions in the order of their keys. -/
theorem RuleStore.ascending_of_list {store : RuleStore} {category : RuleCategory}
    {snapshot : Snapshot} (h : store.list category = .ok snapshot) : snapshot.Ascending := by
  cases category <;> obtain ⟨rules, hrules, rfl⟩ := map_eq_ok.1 h <;>
    obtain ⟨-, -, hrules⟩ := bind_eq_ok.1 hrules <;> cases hrules <;>
    rw [Snapshot.Ascending, Snapshot.keys, Snapshot.definitions, List.map_map]
  · exact store.sanity.ascending
  · exact store.custom.ascending.sublist (List.filter_sublist.map _)
  · exact store.business.ascending.sublist (List.filter_sublist.map _)

/-- What is in service after a refresh was in service before it, or has just been listed. -/
theorem Slot.Absorbed.published_eq {compiler : Compiler} {slot next : Slot}
    {answer : Except StoreError Snapshot} {result : Except RefreshError RefreshOutcome}
    (h : slot.Absorbed compiler answer result next) {set : RuleSet}
    (hset : next.published = some set) :
    slot.published = some set ∨ answer = .ok set.snapshot := by
  cases h with
  | unread | unchanged | failed => exact .inl hset
  | emptied => cases hset
  | rebuilt _ _ compiled =>
    cases hset
    exact .inr (congrArg Except.ok (Compiler.compile_labels compiled).1.symm)

/-! ## Rules on the flag state -/

/-- The condition that the flag state is a given one. -/
def Condition.flagIs (flag : String) : Condition :=
  .compare .eq (.field ⟨7, "flagState", .text, some .flagState⟩) (.literal (.text flag))

/-- A rule whose condition reads as the flag state being a given one states so. -/
theorem Definition.behaviour?_flagIs {rule : SanityRule} {flag : String}
    (hname : Text.OneLine rule.name.toList)
    (hfold : Text.fold rule.expression.toList = rule.expression.toList)
    (hscan : Token.scan rule.expression.toList =
      .ok [.word "flagState", .compare .eq, .text flag]) :
    (Definition.sanity rule).behaviour? = some ⟨.rawMovement, .flagIs flag, [], .alarm⟩ := by
  have hcheck : checkLines [("name", rule.name)] = .ok () :=
    checkLines_eq_ok.2 (by simpa using hname)
  have hcompile : Condition.compile .rawMovement rule.expression.toList = .ok (.flagIs flag) := by
    rw [Condition.compile, hscan]
    cbv
  have hsome : rule.expression.toList.isEmpty = false := by
    cases hempty : rule.expression.toList with
    | nil => cases (hempty ▸ hscan :)
    | cons => rfl
  simp [behaviour?, verdict, hcheck, conditionOf, hfold, hsome, hcompile, Except.mapError,
    Except.toOption, CompiledRule.behaviour, intervals]

/-- A rule whose condition cannot be read states nothing. -/
theorem Definition.behaviour?_eq_none {rule : SanityRule} {error : ScanError}
    (hfold : Text.fold rule.expression.toList = rule.expression.toList)
    (hscan : Token.scan rule.expression.toList = .error error) :
    (Definition.sanity rule).behaviour? = none := by
  obtain ⟨flaw, hflaw⟩ : ∃ flaw,
      conditionOf .rawMovement (Text.fold rule.expression.toList) = .error flaw := by
    rw [hfold, conditionOf]
    split
    · exact ⟨_, rfl⟩
    · rw [Condition.compile, hscan]
      exact ⟨_, rfl⟩
  rw [behaviour?, verdict, hflaw]
  cases checkLines [("name", rule.name)] <;> rfl

/-- One definition is digested as its signature. -/
theorem Snapshot.fingerprintChars_congr {a b : SanityRule} (h : a.signature = b.signature) :
    (sanity [a]).fingerprintChars = (sanity [b]).fingerprintChars := by
  simp [fingerprintChars, signatures, category, h]

namespace Snapshot

/-- Any set of the bundled grammars for a snapshot does what some behaviours say. -/
def States (snapshot : Snapshot) (behaviours : List Behaviour) : Prop :=
  ∀ fingerprint version set,
    Bundled.compiler.compile snapshot fingerprint version = .ok set →
      (set.rules.map CompiledRule.behaviour).Perm behaviours

theorem states_singleton (rule : SanityRule) :
    (sanity [rule]).States (Definition.sanity rule).behaviour?.toList := by
  intro fingerprint version set hset
  have hkeys : (sanity [rule]).keys.Nodup := List.nodup_singleton _
  refine (Bundled.behaviours hkeys hset).trans (.of_eq ?_)
  cases hbehaviour : (Definition.sanity rule).behaviour? <;> simp [definitions, hbehaviour]

/-- Of two rules with the same name the first one counts. -/
theorem states_namesake {first second : SanityRule} (hname : first.name = second.name)
    {behaviour : Behaviour} (hfirst : (Definition.sanity first).behaviour? = some behaviour) :
    (sanity [first, second]).States [behaviour] := by
  intro fingerprint version set hset
  obtain ⟨settled, hsettled, hrules, -⟩ :=
    compile_settles (sanity [first, second]) fingerprint version
  obtain rfl : settled = set := Except.ok.inj (hsettled.symm.trans hset)
  obtain ⟨rule, hverdict, rfl⟩ := Option.map_eq_some_iff.1 hfirst
  rw [toOption_eq_some] at hverdict
  have hid : rule.id = first.name := Definition.id_of_verdict hverdict
  obtain ⟨failed, hsecond⟩ :
      ∃ failed, (Definition.sanity second).settle [first.name] = .error failed := by
    unfold Definition.settle
    split
    · exact ⟨_, rfl⟩
    · next other hother =>
      have hsame : other.id = first.name := (Definition.id_of_verdict hother).trans hname.symm
      exact ⟨_, if_pos (hsame ▸ List.mem_singleton_self _)⟩
  have hsettle : (Definition.sanity first).settle [] = .ok rule := by
    simp [Definition.settle, hverdict]
  have hpublished : Entry.published (Entry.settleFrom [] (sanity [first, second]).rowOrder) =
      [rule] := by
    simp [rowOrder, Entry.settleFrom, Entry.published, Except.toOption, hsettle, hid, hsecond]
  rw [hrules, hpublished]
  rfl

end Snapshot

namespace Cache

/-- What is in service was listed in one of the calls. -/
theorem exists_listed {compiler : Compiler} {calls : List Call} {category : RuleCategory}
    {set : RuleSet} (h : (after compiler calls).current category = some set) :
    ∃ call ∈ calls, call.listing.answer category = .ok set.snapshot := by
  induction calls using List.reverseRecOn with
  | nil => cases h
  | append_singleton calls call ih =>
    have hbefore (h : (after compiler calls).current category = some set) :
        ∃ call' ∈ calls ++ [call], call'.listing.answer category = .ok set.snapshot := by
      obtain ⟨earlier, hmem, hlisted⟩ := ih h
      exact ⟨earlier, List.mem_append_left _ hmem, hlisted⟩
    rw [after, List.foldl_append, List.foldl_cons, List.foldl_nil, ← after, current] at h
    obtain hslot | hslot := slots_serve (after compiler calls) call category
    · rw [hslot] at h
      exact hbefore h
    · rw [hslot] at h
      obtain hkept | hlisted := (Slot.absorb_absorbed _ _ _).published_eq h
      · exact hbefore hkept
      · exact ⟨call, List.mem_append_right _ List.mem_cons_self, hlisted⟩

/-- The first set that is built has the first version. -/
theorem slots_after_refresh {compiler : Compiler} {category : RuleCategory} {listing : Listing}
    {snapshot : Snapshot} (hlisted : listing.answer category = .ok snapshot)
    (hsome : snapshot.isEmpty = false) {set : RuleSet}
    (hset : compiler.compile snapshot snapshot.fingerprint 1 = .ok set) :
    (after compiler [.refresh category listing]).slots category =
      { published := some set, state := .ready, nextVersion := 2 } := by
  rw [after, List.foldl_cons, List.foldl_nil, serve, slots_refresh_self, hlisted]
  simp [Slot.absorb, Slot.settle, Slot.rebuild, Slot.beginBuild, Slot.publish, hsome, hset]

/-- A refresh finds nothing changed as long as there is the same to digest. -/
theorem refresh_unchanged {compiler : Compiler} {category : RuleCategory} {listing other : Listing}
    {a b : Snapshot} (ha : listing.answer category = .ok a) (hb : other.answer category = .ok b)
    (hsome : a.isEmpty = false) (hsome' : b.isEmpty = false) {set : RuleSet}
    (hset : compiler.compile a a.fingerprint 1 = .ok set)
    (h : a.fingerprintChars = b.fingerprintChars) :
    (after compiler [.refresh category listing]).current category = some set ∧
      ((after compiler [.refresh category listing]).refresh other category).1 =
        .ok (.unchanged 1) := by
  have hfingerprint : b.fingerprint = a.fingerprint := by
    rw [Snapshot.fingerprint, Snapshot.fingerprint, h]
  obtain ⟨-, hlabel, hversion⟩ := Compiler.compile_labels hset
  have hslot := slots_after_refresh ha hsome hset
  refine ⟨by rw [current, hslot], ?_⟩
  rw [result_refresh, hslot, hb, Slot.absorb,
    Slot.settle_of_fingerprint _ hsome' rfl (hlabel.trans hfingerprint.symm), hversion]

/-- Whether a set goes on firing on a fact when other sanity rules are listed, and a set that is
compiled from these does not fire on it: the next refresh finds nothing changed. -/
def Stale (earlier later : Listing) (fact : Fact) : Prop :=
  ∃ compiler, Compiler.bundled = .ok compiler ∧
    ((after compiler [.refresh .sanity earlier]).refresh later .sanity).1 = .ok (.unchanged 1) ∧
    ∃ published listed fresh,
      (after compiler [.refresh .sanity earlier]).current .sanity = some published ∧
      later.answer .sanity = .ok listed ∧
      compiler.compile listed listed.fingerprint 2 = .ok fresh ∧
      published.FiresOn .epoch none fact ∧ ¬ fresh.FiresOn .epoch none fact

/-- A set goes stale when there is the same to digest, but what is listed states nothing that holds
of a fact. -/
theorem stale_of_states {earlier later : Listing} {a b : Snapshot} {fact : Fact}
    {condition : Condition} {behaviours : List Behaviour}
    (hearlier : earlier.answer .sanity = .ok a) (hlater : later.answer .sanity = .ok b)
    (hsome : a.isEmpty = false) (hsome' : b.isEmpty = false)
    (hchars : a.fingerprintChars = b.fingerprintChars)
    (ha : a.States [⟨fact.factType, condition, [], .alarm⟩]) (hb : b.States behaviours)
    (htest : condition.test ⟨.epoch, none⟩ fact.payload = .ok true)
    (hsilent : ∀ behaviour ∈ behaviours,
      behaviour.condition.test ⟨.epoch, none⟩ fact.payload ≠ .ok true) :
    Stale earlier later fact := by
  obtain ⟨published, hpublished, -⟩ := compile_settles a a.fingerprint 1
  obtain ⟨fresh, hfresh, -⟩ := compile_settles b b.fingerprint 2
  obtain ⟨hcurrent, hunchanged⟩ :=
    refresh_unchanged hearlier hlater hsome hsome' hpublished hchars
  refine ⟨Bundled.compiler, Bundled.bundled_eq_ok, hunchanged, published, b, fresh, hcurrent,
    hlater, hfresh, RuleSet.firesOn_of_behaviour (ha _ _ _ hpublished) htest, fun hfires => ?_⟩
  obtain ⟨behaviour, hmem, hholds⟩ := hfires.exists_behaviour
  exact hsilent behaviour ((hb _ _ _ hfresh).mem_iff.1 hmem) hholds

/-- Whether a set goes on firing on a fact when a rule of a store is replaced by another one. -/
def StaleAfterPut (rule changed : SanityRule) (fact : Fact) : Prop :=
  let store : RuleStore := { sanity := Table.empty.put rule }
  Stale store (store.putSanity changed RuleStore.unstamped).2 fact

/-- A rule goes stale when one with the same signature, but a condition that does not hold of a
fact, replaces it. -/
theorem staleAfterPut_of_signature {rule changed : SanityRule} {fact : Fact}
    {condition : Condition} (hname : rule.name = changed.name)
    (hsignature : rule.signature = changed.signature)
    (hrule : (Definition.sanity rule).behaviour? = some ⟨fact.factType, condition, [], .alarm⟩)
    (htest : condition.test ⟨.epoch, none⟩ fact.payload = .ok true)
    (hchanged : ∀ behaviour ∈ (Definition.sanity changed).behaviour?,
      behaviour.condition.test ⟨.epoch, none⟩ fact.payload ≠ .ok true) :
    StaleAfterPut rule changed fact := by
  unfold StaleAfterPut
  intro store
  have hrows : (store.putSanity changed RuleStore.unstamped).2.sanity.rows = [changed] := by
    simp [store, RuleStore.putSanity, SanityRule.stamp, RuleStore.unstamped, Table.put,
      Table.putRow, Table.empty, hname]
  have hlater : ((store.putSanity changed RuleStore.unstamped).2 : Listing).answer .sanity =
      .ok (.sanity [changed]) :=
    congrArg (fun rows => Except.ok (Snapshot.sanity rows)) hrows
  have hserved := Snapshot.states_singleton rule
  rw [hrule] at hserved
  exact stale_of_states rfl hlater rfl rfl (Snapshot.fingerprintChars_congr hsignature) hserved
    (Snapshot.states_singleton changed) htest fun behaviour hmem =>
      hchanged behaviour (Option.mem_toList.1 hmem)

/-- Of two rules with the same name the one that is listed first stays in service when the other one
comes first. -/
theorem stale_of_namesake {first second : SanityRule} {fact : Fact}
    {condition other : Condition} (hname : first.name = second.name)
    (hfirst : (Definition.sanity first).behaviour? = some ⟨fact.factType, condition, [], .alarm⟩)
    (hsecond : (Definition.sanity second).behaviour? = some ⟨fact.factType, other, [], .alarm⟩)
    (htest : condition.test ⟨.epoch, none⟩ fact.payload = .ok true)
    (hother : other.test ⟨.epoch, none⟩ fact.payload ≠ .ok true) :
    Stale ⟨.ok [first, second], .ok [], .ok []⟩ ⟨.ok [second, first], .ok [], .ok []⟩ fact := by
  have hchars : (Snapshot.sanity [first, second]).fingerprintChars =
      (Snapshot.sanity [second, first]).fingerprintChars := by
    have hswapped : ((Snapshot.sanity [first, second]).definitions.map Definition.signature).Perm
        ((Snapshot.sanity [second, first]).definitions.map Definition.signature) :=
      .swap _ _ []
    rw [Snapshot.fingerprintChars, Snapshot.signatures_eq_of_perm hswapped]
    rfl
  exact stale_of_states rfl rfl rfl rfl hchars (Snapshot.states_namesake hname hfirst)
    (Snapshot.states_namesake hname.symm hsecond) htest (by simpa using hother)

end Cache

end FisheryRules
