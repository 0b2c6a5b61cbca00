import FisheryRules.Proofs.Results
import FisheryRules.Registry.Cache

/-!
# Runs of the cache

What holds of every slot of a cache after any calls, whatever the store answers and whatever the
grammars do: `Cache.after_settled`. All of it follows from the exits of a refresh, which
`Slot.Absorbed` lists.
-/
namespace FisheryRules

/-- A set that was compiled is labelled with what it was compiled from. -/
theorem Compiler.compile_labels {compiler : Compiler} {snapshot : Snapshot} {fingerprint : String}
    {version : Nat} {set : RuleSet} (h : compiler.compile snapshot fingerprint version = .ok set) :
    set.snapshot = snapshot ∧ set.fingerprint = fingerprint ∧ set.version = version := by
  simp only [compile, bind_eq_ok, pure_eq_ok, Except.ok.injEq] at h
  obtain ⟨compiled, -, rfl⟩ := h
  exact ⟨rfl, rfl, rfl⟩

namespace Slot

/-- The exits of a refresh: the answer of the store, the result, and the slot afterwards. -/
inductive Absorbed (compiler : Compiler) (slot : Slot) :
    Except StoreError Snapshot → Except RefreshError RefreshOutcome → Slot → Prop
  | unread (error : StoreError) :
      Absorbed compiler slot (.error error) (.error (.store error)) slot
  | emptied {snapshot : Snapshot} (none : snapshot.isEmpty = true) :
      Absorbed compiler slot (.ok snapshot) (.ok .emptied) slot.clear
  | unchanged {snapshot : Snapshot} {set : RuleSet} (some : snapshot.isEmpty = false)
      (published : slot.published = .some set)
      (same : set.fingerprint = snapshot.fingerprint) :
      Absorbed compiler slot (.ok snapshot) (.ok (.unchanged set.version)) slot
  | rebuilt {snapshot : Snapshot} {set : RuleSet} (some : snapshot.isEmpty = false)
      (changed : ∀ old ∈ slot.published, old.fingerprint ≠ snapshot.fingerprint)
      (compiled : compiler.compile snapshot snapshot.fingerprint slot.nextVersion = .ok set) :
      Absorbed compiler slot (.ok snapshot)
        (.ok (.rebuilt slot.nextVersion set.rules.length set.failed.length))
        { published := .some set, state := .ready, nextVersion := slot.nextVersion + 1 }
  | failed {snapshot : Snapshot} {error : SourceError} (some : snapshot.isEmpty = false)
      (changed : ∀ old ∈ slot.published, old.fingerprint ≠ snapshot.fingerprint)
      (refused : compiler.compile snapshot snapshot.fingerprint slot.nextVersion = .error error) :
      Absorbed compiler slot (.ok snapshot) (.error (.build snapshot.category error))
        { slot with nextVersion := slot.nextVersion + 1 }

/-- A refresh from definitions with the fingerprint of the published set changes nothing. -/
theorem settle_of_fingerprint {slot : Slot} (compiler : Compiler) {snapshot : Snapshot}
    {set : RuleSet} (hsome : snapshot.isEmpty = false) (hpublished : slot.published = some set)
    (hsame : set.fingerprint = snapshot.fingerprint) :
    slot.settle compiler snapshot = (.ok (.unchanged set.version), slot) := by
  simp [settle, hsome, hpublished, hsame]

theorem rebuild_absorbed (slot : Slot) (compiler : Compiler) {snapshot : Snapshot}
    (some : snapshot.isEmpty = false)
    (changed : ∀ old ∈ slot.published, old.fingerprint ≠ snapshot.fingerprint) :
    slot.Absorbed compiler (.ok snapshot)
      (slot.rebuild compiler snapshot snapshot.fingerprint).1
      (slot.rebuild compiler snapshot snapshot.fingerprint).2 := by
  unfold rebuild
  cases compiled : compiler.compile snapshot snapshot.fingerprint slot.nextVersion with
  | ok set =>
    simp only [beginBuild, compiled]
    exact .rebuilt some changed compiled
  | error error =>
    simp only [beginBuild, compiled]
    exact .failed some changed compiled

theorem settle_absorbed (slot : Slot) (compiler : Compiler) (snapshot : Snapshot) :
    slot.Absorbed compiler (.ok snapshot) (slot.settle compiler snapshot).1
      (slot.settle compiler snapshot).2 := by
  unfold settle
  cases some : snapshot.isEmpty with
  | true => exact .emptied some
  | false =>
    cases published : slot.published with
    | none =>
      exact slot.rebuild_absorbed compiler some (by simp [published])
    | some set =>
      by_cases same : set.fingerprint = snapshot.fingerprint
      · simp only [same, beq_self_eq_true, if_true, Bool.false_eq_true, if_false]
        exact .unchanged some published same
      · simp only [beq_iff_eq, same, Bool.false_eq_true, if_false]
        exact slot.rebuild_absorbed compiler some (by simpa [published] using same)

/-- Every refresh takes one of the exits. -/
theorem absorb_absorbed (slot : Slot) (compiler : Compiler)
    (answer : Except StoreError Snapshot) :
    slot.Absorbed compiler answer (slot.absorb compiler answer).1
      (slot.absorb compiler answer).2 := by
  cases answer with
  | error error => exact .unread error
  | ok snapshot => exact slot.settle_absorbed compiler snapshot

/-- What holds of the slot of a category between calls. -/
structure Sound (compiler : Compiler) (category : RuleCategory) (slot : Slot) : Prop where
  state : slot.state = if slot.published.isSome then .ready else .empty
  category : ∀ set ∈ slot.published, set.category = category
  fingerprint : ∀ set ∈ slot.published, set.fingerprint = set.snapshot.fingerprint
  compiled : ∀ set ∈ slot.published,
    compiler.compile set.snapshot set.fingerprint set.version = .ok set
  version : ∀ set ∈ slot.published, set.version < slot.nextVersion

/-- A slot that has never been refreshed. -/
theorem sound_new (compiler : Compiler) (category : RuleCategory) : Sound compiler category {} := by
  constructor <;> simp

section Absorbed

variable {compiler : Compiler} {category : RuleCategory} {slot next : Slot}
  {answer : Except StoreError Snapshot} {result : Except RefreshError RefreshOutcome}

theorem Absorbed.sound (h : slot.Absorbed compiler answer result next)
    (sound : slot.Sound compiler category)
    (listed : ∀ snapshot, answer = .ok snapshot → snapshot.category = category) :
    next.Sound compiler category := by
  cases h with
  | unread error => exact sound
  | emptied none => constructor <;> simp [clear]
  | unchanged some published same => exact sound
  | @rebuilt snapshot set some changed compiled =>
    obtain ⟨hsnapshot, hfingerprint, hversion⟩ := Compiler.compile_labels compiled
    have hcategory : set.category = category := by
      rw [RuleSet.category, hsnapshot, listed snapshot rfl]
    constructor <;> simp [hcategory, hsnapshot, hfingerprint, hversion, compiled]
  | failed some changed refused =>
    exact { sound with version := fun set hset => Nat.lt_succ_of_lt (sound.version set hset) }

/-- Versions are never drawn again. -/
theorem Absorbed.nextVersion_le (h : slot.Absorbed compiler answer result next) :
    slot.nextVersion ≤ next.nextVersion := by
  cases h with
  | unread | emptied | unchanged => exact Nat.le_refl _
  | rebuilt | failed => exact Nat.le_succ _

/-- After an error, and when nothing has changed, the same set is in service. -/
theorem Absorbed.kept (h : slot.Absorbed compiler answer result next)
    (hresult : (∃ error, result = .error error) ∨ ∃ version, result = .ok (.unchanged version)) :
    next.published = slot.published ∧ next.state = slot.state := by
  cases h with
  | unread | unchanged | failed => exact ⟨rfl, rfl⟩
  | emptied | rebuilt => simp at hresult

/-- A new set has the version that was next. -/
theorem Absorbed.rebuilt_version (h : slot.Absorbed compiler answer result next)
    {version rules failed : Nat} (hresult : result = .ok (.rebuilt version rules failed)) :
    version = slot.nextVersion ∧ ∃ set, next.published = some set ∧ set.version = version ∧
      set.rules.length = rules ∧ set.failed.length = failed := by
  cases h with
  | unread | emptied | unchanged | failed => cases hresult
  | rebuilt some changed compiled =>
    cases hresult
    exact ⟨rfl, _, rfl, (Compiler.compile_labels compiled).2.2, rfl, rfl⟩

/-- A refresh that builds a set, or finds that nothing has changed, leaves a set in service that is
labelled with the fingerprint of what was listed. -/
theorem Absorbed.labelled (h : slot.Absorbed compiler answer result next) {version : Nat}
    (hresult : result = .ok (.unchanged version) ∨
      ∃ rules failed, result = .ok (.rebuilt version rules failed)) :
    ∃ snapshot set, answer = .ok snapshot ∧ snapshot.isEmpty = false ∧
      next.published = some set ∧ set.fingerprint = snapshot.fingerprint ∧
      set.version = version := by
  cases h with
  | unread | emptied | failed => simp at hresult
  | @unchanged snapshot set hsome hpublished hsame =>
    obtain rfl : set.version = version := by simpa using hresult
    exact ⟨snapshot, set, rfl, hsome, hpublished, hsame, rfl⟩
  | @rebuilt snapshot set hsome _ hcompiled =>
    obtain ⟨-, hfingerprint, hversion⟩ := Compiler.compile_labels hcompiled
    obtain rfl : slot.nextVersion = version := by simpa using hresult
    exact ⟨snapshot, set, rfl, hsome, rfl, hfingerprint, hversion⟩

end Absorbed

end Slot

/-- What is listed for a category belongs to it. -/
theorem Listing.category_of_answer {listing : Listing} {category : RuleCategory}
    {snapshot : Snapshot} (h : listing.answer category = .ok snapshot) :
    snapshot.category = category := by
  cases category <;> obtain ⟨rules, -, rfl⟩ := map_eq_ok.1 h <;> rfl

/-- The first error among some results. -/
def firstError? {ε α : Type} (results : List (Except ε α)) : Option ε :=
  results.findSome? fun
    | .ok _ => none
    | .error error => some error

namespace Cache

/-- A call that changes a cache, with what the store answers while it is served. -/
inductive Call
  | refresh (category : RuleCategory) (listing : Listing)
  | refreshAll (listing : Listing)

def Call.listing : Call → Listing
  | refresh _ listing | refreshAll listing => listing

def serve (cache : Cache) : Call → Cache
  | .refresh category listing => (cache.refresh listing category).2
  | .refreshAll listing => (cache.refreshAll listing).2

/-- A new cache after some calls. -/
def after (compiler : Compiler) (calls : List Call) : Cache := calls.foldl serve { compiler }

/-! ## Slots are refreshed one by one -/

@[simp] theorem compiler_refresh (cache : Cache) (listing : Listing) (category : RuleCategory) :
    (cache.refresh listing category).2.compiler = cache.compiler := rfl

@[simp] theorem slots_refresh_self (cache : Cache) (listing : Listing) (category : RuleCategory) :
    (cache.refresh listing category).2.slots category =
      ((cache.slots category).absorb cache.compiler (listing.answer category)).2 :=
  if_pos rfl

theorem slots_refresh_other (cache : Cache) (listing : Listing) {category other : RuleCategory}
    (h : other ≠ category) :
    (cache.refresh listing category).2.slots other = cache.slots other :=
  if_neg h

theorem result_refresh (cache : Cache) (listing : Listing) (category : RuleCategory) :
    (cache.refresh listing category).1 =
      ((cache.slots category).absorb cache.compiler (listing.answer category)).1 := rfl

/-- The refresh of one category does not show in that of another one. -/
theorem refresh_after_other (cache : Cache) (listing : Listing) {category other : RuleCategory}
    (h : category ≠ other) :
    ((cache.refresh listing other).2.refresh listing category).1 =
        (cache.refresh listing category).1 ∧
      ((cache.refresh listing other).2.refresh listing category).2.slots category =
        (cache.refresh listing category).2.slots category := by
  simp only [result_refresh, slots_refresh_self, compiler_refresh,
    slots_refresh_other cache listing h, and_self]

theorem setSlot_self (cache : Cache) (category : RuleCategory) :
    cache.setSlot category (cache.slots category) = cache := by
  have hslots :
      (fun other => if other = category then cache.slots category else cache.slots other) =
        cache.slots := by
    funext other
    split
    · next h => rw [h]
    · rfl
  rw [setSlot, hslots]

/-- A refresh that leaves its slot as it is leaves the cache as it is. -/
theorem refresh_of_absorb {cache : Cache} {listing : Listing} {category : RuleCategory}
    {result : Except RefreshError RefreshOutcome}
    (h : (cache.slots category).absorb cache.compiler (listing.answer category) =
      (result, cache.slots category)) :
    cache.refresh listing category = (result, cache) := by
  rw [refresh, h]
  exact Prod.ext rfl (cache.setSlot_self category)

theorem refreshEach_cons (cache : Cache) (listing : Listing) (category : RuleCategory)
    (others : List RuleCategory) :
    cache.refreshEach listing (category :: others) =
      (match (cache.refresh listing category).1 with
        | .ok _ => ((cache.refresh listing category).2.refreshEach listing others).1
        | .error error => .error error,
       ((cache.refresh listing category).2.refreshEach listing others).2) := by
  simp only [refreshEach]
  cases (cache.refresh listing category).1 <;> rfl

theorem refreshEach_spec (cache : Cache) (listing : Listing) {categories : List RuleCategory}
    (distinct : categories.Nodup) :
    (cache.refreshEach listing categories).2.compiler = cache.compiler ∧
    (∀ category ∉ categories,
      (cache.refreshEach listing categories).2.slots category = cache.slots category) ∧
    (∀ category ∈ categories, (cache.refreshEach listing categories).2.slots category =
      (cache.refresh listing category).2.slots category) ∧
    (cache.refreshEach listing categories).1 =
      match firstError? (categories.map fun category => (cache.refresh listing category).1) with
      | none => .ok ()
      | some error => .error error := by
  induction categories generalizing cache with
  | nil => simp [refreshEach, firstError?]
  | cons first others ih =>
    obtain ⟨hfirst, hothers⟩ := List.nodup_cons.1 distinct
    obtain ⟨hcompiler, houtside, hinside, hresult⟩ :=
      ih (cache.refresh listing first).2 hothers
    have happart : ∀ category ∈ others,
        ((cache.refresh listing first).2.refresh listing category).1 =
            (cache.refresh listing category).1 ∧
          ((cache.refresh listing first).2.refresh listing category).2.slots category =
            (cache.refresh listing category).2.slots category :=
      fun category hmem => cache.refresh_after_other listing fun heq => hfirst (heq ▸ hmem)
    rw [refreshEach_cons]
    refine ⟨hcompiler, ?_, ?_, ?_⟩
    · intro category hnot
      obtain ⟨hne, hnotOthers⟩ := not_or.1 (mt List.mem_cons.2 hnot)
      exact (houtside category hnotOthers).trans (slots_refresh_other cache listing hne)
    · intro category hmem
      obtain rfl | hmem := List.mem_cons.1 hmem
      · exact houtside category hfirst
      · exact (hinside category hmem).trans (happart category hmem).2
    · have hresults : (others.map fun category =>
          ((cache.refresh listing first).2.refresh listing category).1) =
          others.map fun category => (cache.refresh listing category).1 :=
        List.map_congr_left fun category hmem => (happart category hmem).1
      rw [hresult, hresults, List.map_cons]
      cases (cache.refresh listing first).1 <;> rfl

/-- Refreshing all categories comes to refreshing each of them. -/
theorem refreshAll_spec (cache : Cache) (listing : Listing) :
    (cache.refreshAll listing).2.compiler = cache.compiler ∧
    (∀ category, (cache.refreshAll listing).2.slots category =
      (cache.refresh listing category).2.slots category) ∧
    (cache.refreshAll listing).1 =
      match firstError?
        (RuleCategory.all.map fun category => (cache.refresh listing category).1) with
      | none => .ok ()
      | some error => .error error := by
  have distinct : RuleCategory.all.Nodup := by decide
  obtain ⟨hcompiler, -, hslots, hresult⟩ := cache.refreshEach_spec listing distinct
  exact ⟨hcompiler, fun category => hslots category category.mem_all, hresult⟩

/-! ## Runs -/

/-- A slot is served by what the store answers for its category, or left alone. -/
theorem slots_serve (cache : Cache) (call : Call) (category : RuleCategory) :
    (cache.serve call).slots category = cache.slots category ∨
      (cache.serve call).slots category =
        ((cache.slots category).absorb cache.compiler (call.listing.answer category)).2 := by
  cases call with
  | refresh other listing =>
    by_cases h : category = other
    · subst h
      exact .inr (cache.slots_refresh_self listing category)
    · exact .inl (cache.slots_refresh_other listing h)
  | refreshAll listing =>
    obtain ⟨-, hslots, -⟩ := cache.refreshAll_spec listing
    exact .inr ((hslots category).trans (cache.slots_refresh_self listing category))

theorem compiler_serve (cache : Cache) (call : Call) :
    (cache.serve call).compiler = cache.compiler := by
  cases call with
  | refresh other listing => rfl
  | refreshAll listing => exact (cache.refreshAll_spec listing).1

theorem compiler_after (compiler : Compiler) (calls : List Call) :
    (after compiler calls).compiler = compiler := by
  induction calls using List.reverseRecOn with
  | nil => rfl
  | append_singleton calls call ih =>
    rw [after, List.foldl_append]
    exact (compiler_serve _ call).trans ih

theorem sound_after (compiler : Compiler) (calls : List Call) (category : RuleCategory) :
    ((after compiler calls).slots category).Sound compiler category := by
  induction calls using List.reverseRecOn with
  | nil => exact Slot.sound_new compiler category
  | append_singleton calls call ih =>
    rw [after, List.foldl_append]
    obtain hslot | hslot := slots_serve (after compiler calls) call category
    · exact hslot ▸ ih
    · rw [compiler_after] at hslot
      refine hslot ▸ (Slot.absorb_absorbed _ compiler _).sound ih ?_
      exact fun snapshot hanswer => Listing.category_of_answer hanswer

theorem nextVersion_le_foldl (cache : Cache) (calls : List Call) (category : RuleCategory) :
    (cache.slots category).nextVersion ≤
      ((calls.foldl serve cache).slots category).nextVersion := by
  induction calls generalizing cache with
  | nil => exact Nat.le_refl _
  | cons call others ih =>
    refine Nat.le_trans ?_ (ih (cache.serve call))
    obtain hslot | hslot := slots_serve cache call category
    · exact hslot ▸ Nat.le_refl _
    · exact hslot ▸ (Slot.absorb_absorbed _ _ _).nextVersion_le

/-- What was published at any time of a run has a version below the next one. -/
theorem version_lt_nextVersion {compiler : Compiler} {earlier calls : List Call}
    (h : earlier <+: calls) {category : RuleCategory} {set : RuleSet}
    (hset : (after compiler earlier).current category = some set) :
    set.version < ((after compiler calls).slots category).nextVersion := by
  obtain ⟨rest, rfl⟩ := h
  refine Nat.lt_of_lt_of_le ((sound_after compiler earlier category).version set hset) ?_
  rw [after, after, List.foldl_append]
  exact nextVersion_le_foldl _ rest category

/-- What a refresh of a category does after some calls, by its result. -/
structure Refreshed (compiler : Compiler) (calls : List Call) (category : RuleCategory)
    (result : Except RefreshError RefreshOutcome) (next : Cache) : Prop where
  /-- When it fails or finds nothing changed, the same set stays in service. -/
  kept : ((∃ error, result = .error error) ∨ ∃ version, result = .ok (.unchanged version)) →
    next.current category = (after compiler calls).current category ∧
      next.state category = (after compiler calls).state category
  /-- A set that it builds is in service, and its version is beyond those of all sets that were. -/
  rebuilt : ∀ version rules failed, result = .ok (.rebuilt version rules failed) →
    (∃ set, next.current category = some set ∧ set.version = version ∧
      set.rules.length = rules ∧ set.failed.length = failed) ∧
    ∀ earlier, earlier <+: calls → ∀ set, (after compiler earlier).current category = some set →
      set.version < version
  others : ∀ other ≠ category, next.slots other = (after compiler calls).slots other

theorem refreshed (compiler : Compiler) (calls : List Call) (listing : Listing)
    (category : RuleCategory) :
    Refreshed compiler calls category ((after compiler calls).refresh listing category).1
      ((after compiler calls).refresh listing category).2 := by
  have habsorbed := Slot.absorb_absorbed ((after compiler calls).slots category)
    (after compiler calls).compiler (listing.answer category)
  refine ⟨fun hresult => ?_, fun version rules failed hresult => ?_,
    fun other hne => slots_refresh_other _ listing hne⟩
  · simpa only [current, state, slots_refresh_self] using habsorbed.kept hresult
  · obtain ⟨rfl, hset⟩ := habsorbed.rebuilt_version hresult
    refine ⟨by simpa only [current, slots_refresh_self] using hset, ?_⟩
    exact fun earlier hprefix set hearlier => version_lt_nextVersion hprefix hearlier

/-- Whatever was refreshed before, from whatever definitions and with whatever failures, every slot
is sound; a refresh keeps what is in service or replaces it by a set of a later version, and only in
its own slot; and a refresh of all categories does in each slot what the refresh of that category
does, and gives the first of their errors. -/
theorem after_settled (compiler : Compiler) (calls : List Call) :
    (∀ category, ((after compiler calls).slots category).Sound compiler category) ∧
    (∀ listing category,
      Refreshed compiler calls category ((after compiler calls).refresh listing category).1
        ((after compiler calls).refresh listing category).2) ∧
    ∀ listing,
      (∀ category, ((after compiler calls).refreshAll listing).2.slots category =
        ((after compiler calls).refresh listing category).2.slots category) ∧
      ((after compiler calls).refreshAll listing).1 =
        match firstError? (RuleCategory.all.map fun category =>
          ((after compiler calls).refresh listing category).1) with
        | none => .ok ()
        | some error => .error error :=
  ⟨sound_after compiler calls, refreshed compiler calls,
    fun listing => ((after compiler calls).refreshAll_spec listing).2⟩

end Cache

end FisheryRules
