import FisheryRules.Proofs.Registry.CacheRuns
import FisheryRules.Registry.CacheTraffic

/-!
# The lock of a slot

What a refresh does to its slot in each of its steps, while others go on with theirs. From the
answer of the store to its end a refresh has the lock of its category, and no other call of the
category is at work on the slot: `CacheTraffic.Locked`, which every event preserves.
`CacheTraffic.Moved` lists what may happen in an event around a cache for which that holds. A
refresh that nothing comes between does what `Cache.refresh` does in one piece:
`CacheTraffic.refresh_alone`.
-/
namespace FisheryRules

theorem Cache.setSlot_setSlot (cache : Cache) (category : RuleCategory) (first slot : Slot) :
    (cache.setSlot category first).setSlot category slot = cache.setSlot category slot := by
  simp only [Cache.setSlot, Cache.mk.injEq, true_and]
  funext other
  split <;> rfl

namespace Slot

/-- A refresh compares, and builds when that is called for. -/
theorem settle_eq (slot : Slot) (compiler : Compiler) (snapshot : Snapshot) :
    slot.settle compiler snapshot =
      match slot.compare? snapshot with
      | some (outcome, next) => (.ok outcome, next)
      | none =>
        slot.beginBuild.2.finishBuild compiler snapshot slot.beginBuild.1 slot.state := by
  unfold settle compare?
  cases hempty : snapshot.isEmpty with
  | true => rfl
  | false =>
    cases hpublished : slot.published with
    | none => rfl
    | some set =>
      simp only [Bool.false_eq_true, if_false]
      split <;> rfl

/-- What a refresh has in service afterwards, by the answer that it got and what was in service. -/
inductive Served (compiler : Compiler) : Except StoreError Snapshot → Option RuleSet →
    Except RefreshError RefreshOutcome → Option RuleSet → Prop
  | unread {error : StoreError} {old : Option RuleSet} :
      Served compiler (.error error) old (.error (.store error)) old
  | cleared {snapshot : Snapshot} {old : Option RuleSet} (none : snapshot.isEmpty = true) :
      Served compiler (.ok snapshot) old (.ok .emptied) .none
  | confirmed {snapshot : Snapshot} {set : RuleSet} (some : snapshot.isEmpty = false)
      (same : set.fingerprint = snapshot.fingerprint) :
      Served compiler (.ok snapshot) (.some set) (.ok (.unchanged set.version)) (.some set)
  | published {snapshot : Snapshot} {old : Option RuleSet} {version : Nat} {set : RuleSet}
      (compiled : compiler.compile snapshot snapshot.fingerprint version = .ok set) :
      Served compiler (.ok snapshot) old
        (.ok (.rebuilt version set.rules.length set.failed.length)) (.some set)
  | failed {snapshot : Snapshot} {old : Option RuleSet} {version : Nat} {error : SourceError}
      (refused : compiler.compile snapshot snapshot.fingerprint version = .error error) :
      Served compiler (.ok snapshot) old (.error (.build snapshot.category error)) old

/-- Only a refresh that succeeds changes what is in service. -/
theorem Served.ok_of_ne {compiler : Compiler} {answer : Except StoreError Snapshot}
    {old new : Option RuleSet} {result : Except RefreshError RefreshOutcome}
    (h : Served compiler answer old result new) (hne : new ≠ old) :
    ∃ outcome, result = .ok outcome := by
  cases h with
  | unread | failed => exact absurd rfl hne
  | cleared | confirmed | published => exact ⟨_, rfl⟩

/-- Between builds the published set has a version that has been drawn. -/
structure Steady (slot : Slot) : Prop where
  state : slot.state ≠ .building
  version : ∀ set ∈ slot.published, set.version < slot.nextVersion

/-- In a build the version that was drawn last is yet to be published. -/
structure Builds (slot : Slot) (version : Nat) (previous : SlotState) : Prop where
  state : slot.state = .building
  previous : previous ≠ .building
  next : slot.nextVersion = version + 1
  version : ∀ set ∈ slot.published, set.version < version

/-- The least version that a set published from now on can have. -/
def leastVersion (slot : Slot) : Nat :=
  if slot.state = .building then slot.nextVersion - 1 else slot.nextVersion

theorem Steady.leastVersion {slot : Slot} (h : slot.Steady) :
    slot.leastVersion = slot.nextVersion :=
  if_neg h.state

theorem Builds.leastVersion {slot : Slot} {version : Nat} {previous : SlotState}
    (h : slot.Builds version previous) : slot.leastVersion = version := by
  rw [Slot.leastVersion, if_pos h.state, h.next]
  rfl

theorem steady_new : Steady {} := ⟨by simp, by simp⟩

theorem Steady.beginBuild {slot : Slot} (h : slot.Steady) :
    slot.beginBuild.2.Builds slot.beginBuild.1 slot.state :=
  ⟨rfl, h.state, rfl, h.version⟩

/-- What the end of a refresh does to the versions. -/
structure Advances (slot next : Slot) : Prop where
  steady : next.Steady
  leastVersion : slot.leastVersion ≤ next.leastVersion
  published : ∀ set ∈ next.published, set ∈ slot.published ∨ slot.leastVersion ≤ set.version

theorem Steady.advances_self {slot : Slot} (h : slot.Steady) : slot.Advances slot :=
  ⟨h, Nat.le_refl _, fun _ hset => .inl hset⟩

theorem compare?_spec {slot next : Slot} (compiler : Compiler) {snapshot : Snapshot}
    {outcome : RefreshOutcome} (h : slot.compare? snapshot = some (outcome, next))
    (steady : slot.Steady) :
    Served compiler (.ok snapshot) slot.published (.ok outcome) next.published ∧
      slot.Advances next := by
  unfold compare? at h
  split at h
  next none =>
    cases h
    have cleared : slot.clear.Steady := ⟨by simp [clear], by simp [clear]⟩
    refine ⟨.cleared none, cleared, ?_, by simp [clear]⟩
    rw [steady.leastVersion, cleared.leastVersion]
    exact Nat.le_refl _
  next some =>
    cases hpublished : slot.published with
    | none => simp [hpublished] at h
    | some set =>
      simp only [hpublished] at h
      split at h
      next same =>
        cases h
        rw [hpublished]
        exact ⟨.confirmed (Bool.eq_false_of_not_eq_true some) (beq_iff_eq.1 same),
          steady.advances_self⟩
      next => cases h

theorem finishBuild_spec {slot : Slot} {version : Nat} {previous : SlotState}
    (builds : slot.Builds version previous) (compiler : Compiler) (snapshot : Snapshot) :
    let (result, next) := slot.finishBuild compiler snapshot version previous
    Served compiler (.ok snapshot) slot.published result next.published ∧ slot.Advances next := by
  unfold finishBuild
  cases compiled : compiler.compile snapshot snapshot.fingerprint version with
  | ok set =>
    obtain ⟨-, -, hversion⟩ := Compiler.compile_labels compiled
    have published : (slot.publish set).Steady :=
      ⟨by simp [publish], by simp [publish, builds.next, hversion]⟩
    refine ⟨.published compiled, published, ?_, ?_⟩
    · rw [builds.leastVersion, published.leastVersion]
      exact builds.next ▸ Nat.le_succ version
    · simp [builds.leastVersion, publish, hversion]
  | error error =>
    have restored : Steady { slot with state := previous } :=
      ⟨builds.previous, fun set hset => builds.next ▸ Nat.lt_succ_of_lt (builds.version set hset)⟩
    refine ⟨.failed compiled, restored, ?_, fun _ hset => .inl hset⟩
    rw [builds.leastVersion, restored.leastVersion]
    exact builds.next ▸ Nat.le_succ version

end Slot

namespace RefreshPhase

/-- When the store was read. -/
def readAt? : RefreshPhase → Option Nat
  | answered readAt _ | building readAt _ _ _ | returned readAt _ _ => some readAt
  | waiting | asking => none

/-- When the call returned. -/
def settledAt? : RefreshPhase → Option Nat
  | returned _ settledAt _ => some settledAt
  | waiting | asking | answered _ _ | building _ _ _ _ => none

/-- What the store answered. -/
def answer? : RefreshPhase → Option (Except StoreError Snapshot)
  | answered _ answer => some answer
  | building _ snapshot _ _ => some (.ok snapshot)
  | waiting | asking | returned _ _ _ => none

/-- A call in this phase has the lock. -/
def HasLock : RefreshPhase → Prop
  | asking | answered _ _ | building _ _ _ _ => True
  | waiting | returned _ _ _ => False

/-- What a slot is like while a call in this phase has its lock. -/
def Leaves (slot : Slot) : RefreshPhase → Prop
  | asking | answered _ _ => slot.Steady
  | building _ _ version previous => slot.Builds version previous
  | waiting | returned _ _ _ => False

end RefreshPhase

namespace CacheTraffic

/-- The lock of a category is held by the call that is at work on its slot, and by no other. -/
structure Locked (traffic : CacheTraffic) : Prop where
  held : ∀ index call, traffic.calls[index]? = some call → call.phase.HasLock →
    traffic.holder call.category = some index ∧
      call.phase.Leaves (traffic.cache.slots call.category)
  holder : ∀ category index, traffic.holder category = some index →
    ∃ call, traffic.calls[index]? = some call ∧ call.category = category ∧ call.phase.HasLock
  free : ∀ category, traffic.holder category = none → (traffic.cache.slots category).Steady

/-- What is known of a call that has come to a phase with the lock. -/
theorem Locked.held_in {traffic : CacheTraffic} (locked : traffic.Locked) {index : Nat}
    {call : RefreshCall} (hcall : traffic.calls[index]? = some call) {phase : RefreshPhase}
    (hphase : call.phase = phase) (hlock : phase.HasLock) :
    traffic.holder call.category = some index ∧
      phase.Leaves (traffic.cache.slots call.category) := by
  subst hphase
  exact locked.held index call hcall hlock

/-- What may happen in one event. -/
inductive Moved (traffic : CacheTraffic) : CacheTraffic → Prop
  | still : Moved traffic traffic
  | change (listing : Listing) : Moved traffic { traffic with listing }
  | call (category : RuleCategory) :
      Moved traffic
        { traffic with calls := traffic.calls ++ [{ category, begun := traffic.clock }] }
  | lock {index : Nat} {call : RefreshCall} (hcall : traffic.calls[index]? = some call)
      (phase : call.phase = .waiting) (free : traffic.holder call.category = none) :
      Moved traffic
        ((traffic.setHolder call.category (some index)).setPhase index call .asking)
  | ask {index : Nat} {call : RefreshCall} (hcall : traffic.calls[index]? = some call)
      (phase : call.phase = .asking) :
      Moved traffic (traffic.setPhase index call
        (.answered traffic.clock (traffic.listing.answer call.category)))
  | build {index readAt : Nat} {call : RefreshCall} {snapshot : Snapshot}
      (hcall : traffic.calls[index]? = some call)
      (phase : call.phase = .answered readAt (.ok snapshot)) :
      Moved traffic
        ((traffic.setSlot call.category
            (traffic.cache.slots call.category).beginBuild.2).setPhase index call
          (.building readAt snapshot (traffic.cache.slots call.category).beginBuild.1
            (traffic.cache.slots call.category).state))
  | settle {index readAt : Nat} {call : RefreshCall} {answer : Except StoreError Snapshot}
      {result : Except RefreshError RefreshOutcome} {slot : Slot}
      (hcall : traffic.calls[index]? = some call) (lock : call.phase.HasLock)
      (hread : call.phase.readAt? = some readAt) (hanswer : call.phase.answer? = some answer)
      (served : Slot.Served traffic.cache.compiler answer
        (traffic.cache.slots call.category).published result slot.published)
      (advances : (traffic.cache.slots call.category).Advances slot) :
      Moved traffic (traffic.settle index call readAt result slot)

theorem Locked.moved_proceed {traffic : CacheTraffic} (locked : traffic.Locked) {index : Nat}
    {call : RefreshCall} (hcall : traffic.calls[index]? = some call) :
    traffic.Moved (traffic.proceed index call) := by
  cases phase : call.phase with
  | waiting =>
    simp only [proceed, phase]
    split
    next free => exact .lock hcall phase (Option.isNone_iff_eq_none.1 free)
    next => exact .still
  | asking =>
    simp only [proceed, phase]
    exact .ask hcall phase
  | answered readAt answer =>
    have hlock : call.phase.HasLock := by simp [phase, RefreshPhase.HasLock]
    have hread : call.phase.readAt? = some readAt := by simp [phase, RefreshPhase.readAt?]
    have hanswer : call.phase.answer? = some answer := by simp [phase, RefreshPhase.answer?]
    have steady : (traffic.cache.slots call.category).Steady :=
      (locked.held_in hcall phase trivial).2
    cases answer with
    | error error =>
      simp only [proceed, phase]
      exact .settle hcall hlock hread hanswer .unread steady.advances_self
    | ok snapshot =>
      cases hcompare : (traffic.cache.slots call.category).compare? snapshot with
      | none =>
        simp only [proceed, phase, hcompare]
        exact .build hcall phase
      | some outcome =>
        simp only [proceed, phase, hcompare]
        obtain ⟨served, advances⟩ := Slot.compare?_spec traffic.cache.compiler hcompare steady
        exact .settle hcall hlock hread hanswer served advances
  | building readAt snapshot version previous =>
    have hlock : call.phase.HasLock := by simp [phase, RefreshPhase.HasLock]
    have hread : call.phase.readAt? = some readAt := by simp [phase, RefreshPhase.readAt?]
    have hanswer : call.phase.answer? = some (.ok snapshot) := by
      simp [phase, RefreshPhase.answer?]
    have builds : (traffic.cache.slots call.category).Builds version previous :=
      (locked.held_in hcall phase trivial).2
    simp only [proceed, phase]
    obtain ⟨served, advances⟩ := Slot.finishBuild_spec builds traffic.cache.compiler snapshot
    exact .settle hcall hlock hread hanswer served advances
  | returned readAt settledAt result =>
    simp only [proceed, phase]
    exact .still

theorem Locked.moved {traffic : CacheTraffic} (locked : traffic.Locked) (event : CacheEvent) :
    traffic.Moved (traffic.act event) := by
  cases event with
  | change listing => exact .change listing
  | call category => exact .call category
  | proceed index =>
    cases hcall : traffic.calls[index]? with
    | none =>
      simp only [act, hcall]
      exact .still
    | some call =>
      simp only [act, hcall]
      exact locked.moved_proceed hcall

/-! ## The lock -/

theorem slots_setSlot_self (traffic : CacheTraffic) (category : RuleCategory) (slot : Slot) :
    (traffic.setSlot category slot).cache.slots category = slot :=
  if_pos rfl

theorem slots_setSlot_ne (traffic : CacheTraffic) {category other : RuleCategory} (slot : Slot)
    (h : other ≠ category) :
    (traffic.setSlot category slot).cache.slots other = traffic.cache.slots other :=
  if_neg h

theorem holder_setHolder_self (traffic : CacheTraffic) (category : RuleCategory)
    (holder : Option Nat) : (traffic.setHolder category holder).holder category = holder :=
  if_pos rfl

theorem holder_setHolder_ne (traffic : CacheTraffic) {category other : RuleCategory}
    (holder : Option Nat) (h : other ≠ category) :
    (traffic.setHolder category holder).holder other = traffic.holder other :=
  if_neg h

section SetPhase

variable {traffic : CacheTraffic} {index : Nat} {call : RefreshCall}

theorem getElem?_setPhase (hcall : traffic.calls[index]? = some call) (phase : RefreshPhase)
    (other : Nat) : (traffic.setPhase index call phase).calls[other]? =
      if other = index then some { call with phase } else traffic.calls[other]? := by
  obtain ⟨hlt, -⟩ := List.getElem?_eq_some_iff.1 hcall
  rw [setPhase, List.getElem?_set, if_pos hlt]
  simp only [eq_comm]

theorem forall_setPhase {p : Nat → RefreshCall → Prop} {phase : RefreshPhase}
    (hcall : traffic.calls[index]? = some call) (hnew : p index { call with phase })
    (hold : ∀ other, other ≠ index → ∀ old, traffic.calls[other]? = some old → p other old) :
    ∀ other new, (traffic.setPhase index call phase).calls[other]? = some new → p other new := by
  intro other new hother
  rw [getElem?_setPhase hcall] at hother
  by_cases heq : other = index
  · rw [if_pos heq] at hother
    cases hother
    exact heq ▸ hnew
  · rw [if_neg heq] at hother
    exact hold other heq new hother

theorem forall_append {α : Type} {p : Nat → α → Prop} {as : List α} {new : α}
    (hnew : ∀ index, p index new) (hold : ∀ index a, as[index]? = some a → p index a) :
    ∀ index a, (as ++ [new])[index]? = some a → p index a := by
  intro index a ha
  rw [List.getElem?_append] at ha
  split at ha
  · exact hold index a ha
  · obtain rfl := List.mem_singleton.1 (List.mem_of_getElem? ha)
    exact hnew index

/-- Of two calls of a category only one has the lock. -/
theorem Locked.ne_category (locked : traffic.Locked) (hcall : traffic.calls[index]? = some call)
    (hlock : call.phase.HasLock) {other : Nat} {old : RefreshCall} (hne : other ≠ index)
    (hold : traffic.calls[other]? = some old) (holdLock : old.phase.HasLock) :
    old.category ≠ call.category := by
  intro heq
  have hother := (locked.held other old hold holdLock).1
  rw [heq, (locked.held index call hcall hlock).1] at hother
  exact hne (Option.some.inj hother).symm

end SetPhase

section Moved

variable {traffic next : CacheTraffic}

theorem Moved.held (h : traffic.Moved next) (locked : traffic.Locked) :
    ∀ index call, next.calls[index]? = some call → call.phase.HasLock →
      next.holder call.category = some index ∧
        call.phase.Leaves (next.cache.slots call.category) := by
  cases h with
  | still | change => exact locked.held
  | call category => exact forall_append (fun _ => nofun) locked.held
  | @lock index call hcall phase free =>
    refine forall_setPhase hcall (fun _ => ⟨if_pos rfl, locked.free _ free⟩) ?_
    intro other hne old hold hlock
    have hcategory : old.category ≠ call.category := by
      intro heq
      have hother := (locked.held other old hold hlock).1
      rw [heq, free] at hother
      cases hother
    obtain ⟨hholder, hleaves⟩ := locked.held other old hold hlock
    exact ⟨(if_neg hcategory).trans hholder, hleaves⟩
  | @ask index call hcall phase =>
    obtain ⟨hholder, steady⟩ := locked.held_in hcall phase trivial
    exact forall_setPhase hcall (fun _ => ⟨hholder, steady⟩)
      fun other _ old hold hlock => locked.held other old hold hlock
  | @build index readAt call snapshot hcall phase =>
    have hlock : call.phase.HasLock := by simp [phase, RefreshPhase.HasLock]
    obtain ⟨hholder, steady⟩ := locked.held_in hcall phase trivial
    refine forall_setPhase hcall (fun _ => ⟨hholder, ?_⟩) fun other hne old hold holdLock => ?_
    · have builds := Slot.Steady.beginBuild steady
      rw [← traffic.slots_setSlot_self call.category
        (traffic.cache.slots call.category).beginBuild.2] at builds
      exact builds
    · have hcategory := locked.ne_category hcall hlock hne hold holdLock
      obtain ⟨hother, hotherLeaves⟩ := locked.held other old hold holdLock
      rw [← traffic.slots_setSlot_ne (traffic.cache.slots call.category).beginBuild.2 hcategory]
        at hotherLeaves
      exact ⟨hother, hotherLeaves⟩
  | @settle index readAt call answer result slot hcall lock hread hanswer served advances =>
    refine forall_setPhase hcall (fun hlock => hlock.elim) fun other hne old hold holdLock => ?_
    have hcategory := locked.ne_category hcall lock hne hold holdLock
    obtain ⟨hother, hotherLeaves⟩ := locked.held other old hold holdLock
    rw [← traffic.slots_setSlot_ne slot hcategory] at hotherLeaves
    exact ⟨(if_neg hcategory).trans hother, hotherLeaves⟩

theorem Moved.holder (h : traffic.Moved next) (locked : traffic.Locked) :
    ∀ category index, next.holder category = some index →
      ∃ call, next.calls[index]? = some call ∧ call.category = category ∧ call.phase.HasLock := by
  -- A call that goes on with the lock keeps it.
  have hkept {index : Nat} {call : RefreshCall} {phase : RefreshPhase} (hlock : phase.HasLock)
      (hcall : traffic.calls[index]? = some call) :
      ∀ category other, traffic.holder category = some other →
        ∃ new, (traffic.setPhase index call phase).calls[other]? = some new ∧
          new.category = category ∧ new.phase.HasLock := by
    intro category other hholder
    obtain ⟨old, hold, hcategory, holdLock⟩ := locked.holder category other hholder
    rw [getElem?_setPhase hcall]
    by_cases heq : other = index
    · subst heq
      obtain rfl : call = old := Option.some.inj (hcall.symm.trans hold)
      exact ⟨_, if_pos rfl, hcategory, hlock⟩
    · exact ⟨old, (if_neg heq).trans hold, hcategory, holdLock⟩
  cases h with
  | still | change => exact locked.holder
  | call category =>
    intro other index hholder
    obtain ⟨old, hold, hother⟩ := locked.holder other index hholder
    obtain ⟨hlt, -⟩ := List.getElem?_eq_some_iff.1 hold
    exact ⟨old, (List.getElem?_append_left hlt).trans hold, hother⟩
  | @lock index call hcall phase free =>
    intro category other hholder
    by_cases hcategory : category = call.category
    · subst hcategory
      obtain rfl : index = other :=
        Option.some.inj ((traffic.holder_setHolder_self _ _).symm.trans hholder)
      exact ⟨_, (getElem?_setPhase hcall _ _).trans (if_pos rfl), rfl, trivial⟩
    · obtain ⟨old, hold, hcat, holdLock⟩ := locked.holder category other
        ((traffic.holder_setHolder_ne _ hcategory).symm.trans hholder)
      have hne : other ≠ index := by
        rintro rfl
        obtain rfl : call = old := Option.some.inj (hcall.symm.trans hold)
        exact hcategory hcat.symm
      exact ⟨old, (getElem?_setPhase hcall _ _).trans ((if_neg hne).trans hold), hcat, holdLock⟩
  | ask hcall => exact hkept trivial hcall
  | build hcall => exact hkept trivial hcall
  | @settle index readAt call answer result slot hcall lock hread hanswer served advances =>
    intro category other hholder
    have hcategory : category ≠ call.category := by
      rintro rfl
      cases (holder_setHolder_self _ call.category none).symm.trans hholder
    obtain ⟨old, hold, hcat, holdLock⟩ := locked.holder category other
      ((holder_setHolder_ne _ none hcategory).symm.trans hholder)
    have hne : other ≠ index := by
      rintro rfl
      obtain rfl : call = old := Option.some.inj (hcall.symm.trans hold)
      exact hcategory hcat.symm
    exact ⟨old, (getElem?_setPhase hcall _ _).trans ((if_neg hne).trans hold), hcat, holdLock⟩

theorem Moved.free (h : traffic.Moved next) (locked : traffic.Locked) :
    ∀ category, next.holder category = none → (next.cache.slots category).Steady := by
  cases h with
  | still | change | call | ask => exact locked.free
  | @lock index call hcall phase free =>
    intro category hholder
    by_cases hcategory : category = call.category
    · subst hcategory
      cases (traffic.holder_setHolder_self _ _).symm.trans hholder
    · exact locked.free category ((traffic.holder_setHolder_ne _ hcategory).symm.trans hholder)
  | @build index readAt call snapshot hcall phase =>
    intro category hholder
    have hcategory : category ≠ call.category := by
      rintro rfl
      cases (locked.held_in hcall phase trivial).1.symm.trans hholder
    have steady := locked.free category hholder
    rw [← traffic.slots_setSlot_ne (traffic.cache.slots call.category).beginBuild.2 hcategory]
      at steady
    exact steady
  | @settle index readAt call answer result slot hcall lock hread hanswer served advances =>
    intro category hholder
    by_cases hcategory : category = call.category
    · subst hcategory
      have steady := advances.steady
      rw [← traffic.slots_setSlot_self call.category slot] at steady
      exact steady
    · have steady := locked.free category
        ((holder_setHolder_ne (traffic.setSlot _ slot) none hcategory).symm.trans hholder)
      rw [← traffic.slots_setSlot_ne slot hcategory] at steady
      exact steady

theorem Locked.step (locked : traffic.Locked) (event : CacheEvent) :
    (traffic.step event).Locked :=
  have moved := locked.moved event
  ⟨moved.held locked, moved.holder locked, moved.free locked⟩

end Moved

/-! ## A refresh by itself -/

/-- A call has returned with a result, and has left a slot in a cache. -/
def HasLeft (traffic : CacheTraffic) (index : Nat) (call : RefreshCall) (cache : Cache)
    (left : Except RefreshError RefreshOutcome × Slot) : Prop :=
  (∃ readAt settledAt, traffic.calls[index]? =
    some { call with phase := .returned readAt settledAt left.1 }) ∧
  traffic.cache = cache.setSlot call.category left.2

variable {traffic : CacheTraffic} {index : Nat} {call : RefreshCall} {cache : Cache}
  {left : Except RefreshError RefreshOutcome × Slot}

theorem step_proceed (hcall : traffic.calls[index]? = some call) :
    traffic.step (.proceed index) =
      { traffic.proceed index call with clock := traffic.clock + 1 } := by
  simp only [step, act, hcall]

theorem hasLeft_settle (hcall : traffic.calls[index]? = some call) (readAt : Nat)
    (result : Except RefreshError RefreshOutcome) (slot : Slot) :
    HasLeft (traffic.settle index call readAt result slot) index call traffic.cache
      (result, slot) :=
  ⟨⟨readAt, traffic.clock, (getElem?_setPhase hcall _ _).trans (if_pos rfl)⟩, rfl⟩

theorem HasLeft.step (h : traffic.HasLeft index call cache left) :
    (traffic.step (.proceed index)).HasLeft index call cache left := by
  obtain ⟨⟨readAt, settledAt, hcall⟩, hcache⟩ := h
  rw [step_proceed hcall]
  exact ⟨⟨readAt, settledAt, hcall⟩, hcache⟩

theorem hasLeft_building {readAt version : Nat} {snapshot : Snapshot} {previous : SlotState}
    {building : Slot}
    (hcall : traffic.calls[index]? =
      some { call with phase := .building readAt snapshot version previous })
    (hcache : traffic.cache = cache.setSlot call.category building) :
    (traffic.step (.proceed index)).HasLeft index call cache
      (building.finishBuild cache.compiler snapshot version previous) := by
  have hslot : traffic.cache.slots call.category = building := by
    rw [hcache]
    exact if_pos rfl
  have hcompiler : traffic.cache.compiler = cache.compiler := by rw [hcache]; rfl
  obtain ⟨hreturned, hleft⟩ := hasLeft_settle hcall readAt
    (building.finishBuild cache.compiler snapshot version previous).1
    (building.finishBuild cache.compiler snapshot version previous).2
  rw [step_proceed hcall]
  simp only [proceed, hslot, hcompiler]
  refine ⟨hreturned, hleft.trans ?_⟩
  rw [hcache, Cache.setSlot_setSlot]

theorem hasLeft_answered {readAt : Nat} {answer : Except StoreError Snapshot}
    (hcall : traffic.calls[index]? = some { call with phase := .answered readAt answer }) :
    ((traffic.step (.proceed index)).step (.proceed index)).HasLeft index call traffic.cache
      ((traffic.cache.slots call.category).absorb traffic.cache.compiler answer) := by
  have hstep := step_proceed hcall
  cases answer with
  | error error =>
    refine HasLeft.step ?_
    rw [hstep]
    exact hasLeft_settle hcall readAt _ _
  | ok snapshot =>
    rw [Slot.absorb, Slot.settle_eq]
    cases hcompare : (traffic.cache.slots call.category).compare? snapshot with
    | some outcome =>
      refine HasLeft.step ?_
      simp only [proceed, hcompare] at hstep
      rw [hstep]
      exact hasLeft_settle hcall readAt _ _
    | none =>
      simp only [proceed, hcompare] at hstep
      have hbuilding : (traffic.step (.proceed index)).calls[index]? = some { call with
          phase := .building readAt snapshot (traffic.cache.slots call.category).beginBuild.1
            (traffic.cache.slots call.category).state } := by
        rw [hstep]
        exact (getElem?_setPhase hcall _ _).trans (if_pos rfl)
      exact hasLeft_building hbuilding (by rw [hstep]; rfl)

theorem hasLeft_asking (hcall : traffic.calls[index]? = some { call with phase := .asking }) :
    (((traffic.step (.proceed index)).step (.proceed index)).step (.proceed index)).HasLeft index
      call traffic.cache ((traffic.cache.slots call.category).absorb traffic.cache.compiler
        (traffic.listing.answer call.category)) := by
  rw [step_proceed hcall]
  exact hasLeft_answered ((getElem?_setPhase hcall _ _).trans (if_pos rfl))

/-- A refresh that finds the lock free and that nothing comes between does what it does in one
piece. -/
theorem refresh_alone (traffic : CacheTraffic) (category : RuleCategory)
    (free : traffic.holder category = none) :
    ((.call category :: List.replicate 4 (.proceed traffic.calls.length)).foldl step
      traffic).HasLeft traffic.calls.length { category, begun := traffic.clock } traffic.cache
        ((traffic.cache.slots category).absorb traffic.cache.compiler
          (traffic.listing.answer category)) := by
  have hcalled : (traffic.step (.call category)).calls[traffic.calls.length]? =
      some { category, begun := traffic.clock } := List.getElem?_concat_length
  simp only [List.replicate, List.foldl_cons, List.foldl_nil]
  rw [step_proceed hcalled]
  have hlocked : (traffic.step (.call category)).proceed traffic.calls.length
      { category, begun := traffic.clock } =
        ((traffic.step (.call category)).setHolder category (some traffic.calls.length)).setPhase
          traffic.calls.length { category, begun := traffic.clock } .asking :=
    if_pos (Option.isNone_iff_eq_none.2 free)
  rw [hlocked]
  exact hasLeft_asking ((getElem?_setPhase hcalled _ _).trans (if_pos rfl))

end CacheTraffic

end FisheryRules
