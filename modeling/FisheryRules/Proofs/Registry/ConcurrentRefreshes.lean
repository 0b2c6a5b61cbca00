import FisheryRules.Proofs.Registry.SlotLock

/-!
# Refreshes that run at the same time

However the steps of refreshes and changes of the store fall together, the refreshes of a category
take effect one after the other, each with what was listed after the one before had taken effect:
`CacheTraffic.after_orderly`. The proof goes by the times that the calls note: when they got their
answer, and when they returned.
-/
namespace FisheryRules

namespace RefreshPhase

variable {phase : RefreshPhase} {readAt settledAt : Nat}

theorem returned_of_settledAt? (h : settledAt ∈ phase.settledAt?) :
    ∃ readAt result, phase = .returned readAt settledAt result := by
  cases phase <;> cases h
  exact ⟨_, _, rfl⟩

theorem HasLock.settledAt?_eq_none (h : phase.HasLock) : phase.settledAt? = none := by
  cases phase <;> first | rfl | cases h

theorem hasLock_or_returned (h : readAt ∈ phase.readAt?) :
    phase.HasLock ∨ ∃ settledAt result, phase = .returned readAt settledAt result := by
  cases phase <;> cases h
  · exact .inl trivial
  · exact .inl trivial
  · exact .inr ⟨_, _, rfl⟩

end RefreshPhase

/-- What is true of a call at some time of a run, `asOf` being what went on at each time. -/
structure RefreshCall.Recorded (compiler : Compiler) (asOf : Nat → CacheTraffic) (clock : Nat)
    (call : RefreshCall) : Prop where
  begun : call.begun < clock
  read : ∀ readAt ∈ call.phase.readAt?, call.begun < readAt ∧ readAt < clock
  answer : ∀ readAt ∈ call.phase.readAt?, ∀ answer ∈ call.phase.answer?,
    (asOf readAt).listing.answer call.category = answer
  settled : ∀ readAt settledAt result, call.phase = .returned readAt settledAt result →
    readAt < settledAt ∧ settledAt < clock ∧
      Slot.Served compiler ((asOf readAt).listing.answer call.category)
        ((asOf settledAt).cache.current call.category) result
        ((asOf (settledAt + 1)).cache.current call.category)

theorem RefreshCall.Recorded.later {compiler : Compiler} {asOf : Nat → CacheTraffic} {clock : Nat}
    {call : RefreshCall} (h : call.Recorded compiler asOf clock) :
    call.Recorded compiler asOf (clock + 1) where
  begun := Nat.lt_succ_of_lt h.begun
  read := fun readAt hread => (h.read readAt hread).imp_right Nat.lt_succ_of_lt
  answer := h.answer
  settled := fun readAt settledAt result phase =>
    (h.settled readAt settledAt result phase).imp_right (.imp_left Nat.lt_succ_of_lt)

theorem RefreshCall.Recorded.congr {compiler : Compiler} {asOf other : Nat → CacheTraffic}
    {clock : Nat} {call : RefreshCall} (h : call.Recorded compiler asOf clock)
    (hsame : ∀ time ≤ clock, other time = asOf time) : call.Recorded compiler other clock where
  begun := h.begun
  read := h.read
  answer := by
    intro readAt hread
    rw [hsame readAt (Nat.le_of_lt (h.read readAt hread).2)]
    exact h.answer readAt hread
  settled := by
    intro readAt settledAt result phase
    obtain ⟨hread, hsettled, served⟩ := h.settled readAt settledAt result phase
    rw [hsame readAt (by omega), hsame settledAt (by omega), hsame (settledAt + 1) hsettled]
    exact ⟨hread, hsettled, served⟩

/-- Two refreshes do not overlap: when one returned before the other did, it returned before the
other one read the store. -/
def RefreshCall.Apart (call other : RefreshCall) : Prop :=
  ∀ settledAt ∈ call.phase.settledAt?, ∀ otherReadAt ∈ other.phase.readAt?,
    settledAt < otherReadAt ∨
      ∃ otherSettledAt ∈ other.phase.settledAt?, ∃ readAt ∈ call.phase.readAt?,
        otherSettledAt < readAt

namespace CacheTraffic

section Moved

variable {traffic next : CacheTraffic}

theorem Moved.recorded (h : traffic.Moved next) {asOf : Nat → CacheTraffic}
    (hnow : asOf traffic.clock = traffic)
    (hnext : asOf (traffic.clock + 1) = { next with clock := traffic.clock + 1 })
    (hold : ∀ (index : Nat) (call : RefreshCall), traffic.calls[index]? = some call →
      call.Recorded traffic.cache.compiler asOf traffic.clock) :
    ∀ (index : Nat) (call : RefreshCall), next.calls[index]? = some call →
      call.Recorded traffic.cache.compiler asOf (traffic.clock + 1) := by
  have hlater := fun index call hcall => (hold index call hcall).later
  cases h with
  | still | change => exact hlater
  | call category =>
    refine forall_append (fun _ => ?_) hlater
    exact ⟨Nat.lt_succ_self _, by rintro _ ⟨⟩, by rintro _ ⟨⟩, by rintro _ _ _ ⟨⟩⟩
  | @lock index call hcall phase free =>
    refine forall_setPhase hcall ?_ fun other _ => hlater other
    exact ⟨(hlater index call hcall).begun, by rintro _ ⟨⟩, by rintro _ ⟨⟩, by rintro _ _ _ ⟨⟩⟩
  | @ask index call hcall phase =>
    refine forall_setPhase hcall ?_ fun other _ => hlater other
    refine ⟨(hlater index call hcall).begun, ?_, ?_, by rintro _ _ _ ⟨⟩⟩
    · rintro _ ⟨⟩
      exact ⟨(hold index call hcall).begun, Nat.lt_succ_self _⟩
    · rintro _ ⟨⟩ _ ⟨⟩
      rw [hnow]
  | @build index readAt call snapshot hcall phase =>
    refine forall_setPhase hcall ?_ fun other _ => hlater other
    have hcall' := hlater index call hcall
    refine ⟨hcall'.begun, ?_, ?_, by rintro _ _ _ ⟨⟩⟩
    · rintro _ ⟨⟩
      exact hcall'.read readAt (by simp [phase, RefreshPhase.readAt?])
    · rintro _ ⟨⟩ _ ⟨⟩
      exact hcall'.answer readAt (by simp [phase, RefreshPhase.readAt?]) _
        (by simp [phase, RefreshPhase.answer?])
  | @settle index readAt call answer result slot hcall lock hread hanswer served advances =>
    refine forall_setPhase hcall ?_ fun other _ => hlater other
    have hcall' := hold index call hcall
    refine ⟨Nat.lt_succ_of_lt hcall'.begun, ?_, by rintro _ _ _ ⟨⟩, ?_⟩
    · rintro _ ⟨⟩
      exact (hlater index call hcall).read readAt hread
    · rintro _ _ _ ⟨⟩
      refine ⟨(hcall'.read readAt hread).2, Nat.lt_succ_self _, ?_⟩
      rw [hnow, hnext, hcall'.answer readAt hread answer hanswer]
      rw [← traffic.slots_setSlot_self call.category slot] at served
      exact served

/-- Different calls of a category do not overlap. -/
def CallsApart (traffic : CacheTraffic) : Prop :=
  ∀ (index : Nat) (call : RefreshCall), traffic.calls[index]? = some call →
    ∀ (other : Nat) (old : RefreshCall), traffic.calls[other]? = some old → index ≠ other →
      call.category = old.category → call.Apart old

theorem callsApart_setPhase {index : Nat} {call : RefreshCall} {phase : RefreshPhase}
    (apart : traffic.CallsApart) (hcall : traffic.calls[index]? = some call)
    (hnew : ∀ (other : Nat) (old : RefreshCall), traffic.calls[other]? = some old → other ≠ index →
      old.category = call.category →
        RefreshCall.Apart { call with phase } old ∧ old.Apart { call with phase }) :
    (traffic.setPhase index call phase).CallsApart := by
  unfold CallsApart
  refine forall_setPhase hcall ?_ fun other hother old hold => ?_
  · refine forall_setPhase hcall (fun hne => absurd rfl hne) ?_
    exact fun other hother old hold _ hcategory => (hnew other old hold hother hcategory.symm).1
  · refine forall_setPhase hcall (fun _ hcategory => (hnew other old hold hother hcategory).2) ?_
    exact fun third _ => apart other old hold third

theorem Moved.apart (h : traffic.Moved next) (locked : traffic.Locked)
    {compiler : Compiler} {asOf : Nat → CacheTraffic}
    (recorded : ∀ (index : Nat) (call : RefreshCall), traffic.calls[index]? = some call →
      call.Recorded compiler asOf traffic.clock)
    (apart : traffic.CallsApart) : next.CallsApart := by
  cases h with
  | still | change => exact apart
  | call category =>
    refine forall_append (fun _ => ?_) fun index call hcall => ?_
    · intro other old _ _ _
      exact nofun
    · refine forall_append (fun _ _ _ _ _ _ => nofun) ?_
      exact apart index call hcall
  | @lock index call hcall phase free =>
    refine callsApart_setPhase apart hcall fun other old hold hne hcategory => ⟨nofun, ?_⟩
    exact fun _ _ => nofun
  | @ask index call hcall phase =>
    refine callsApart_setPhase apart hcall fun other old hold hne hcategory => ⟨nofun, ?_⟩
    rintro settledAt hsettled _ ⟨⟩
    obtain ⟨readAt, result, hreturned⟩ := RefreshPhase.returned_of_settledAt? hsettled
    exact .inl ((recorded other old hold).settled readAt settledAt result hreturned).2.1
  | @build index readAt call snapshot hcall phase =>
    refine callsApart_setPhase apart hcall fun other old hold hne hcategory => ⟨nofun, ?_⟩
    have hold' := apart other old hold index call hcall hne hcategory
    simpa [RefreshCall.Apart, phase, RefreshPhase.readAt?, RefreshPhase.settledAt?] using hold'
  | @settle index readAt call answer result slot hcall lock hread hanswer served advances =>
    refine callsApart_setPhase apart hcall fun other old hold hne hcategory => ?_
    -- The other call returned before this one read the store, or has not read it yet.
    have hbefore : ∀ settledAt ∈ old.phase.settledAt?, settledAt < readAt := by
      intro settledAt hsettled
      obtain hlt | ⟨otherSettledAt, hother, -⟩ :=
        apart other old hold index call hcall hne hcategory settledAt hsettled readAt hread
      · exact hlt
      · cases lock.settledAt?_eq_none.symm.trans hother
    constructor
    · rintro _ ⟨⟩ otherReadAt hotherRead
      obtain hlock | ⟨settledAt, result, hreturned⟩ := RefreshPhase.hasLock_or_returned hotherRead
      · exact absurd hcategory (locked.ne_category hcall lock hne hold hlock)
      · have hsettled : settledAt ∈ old.phase.settledAt? := by
          simp [hreturned, RefreshPhase.settledAt?]
        exact .inr ⟨settledAt, hsettled, readAt, rfl, hbefore settledAt hsettled⟩
    · rintro settledAt hsettled _ ⟨⟩
      exact .inl (hbefore settledAt hsettled)

theorem build_published (traffic : CacheTraffic) (category other : RuleCategory) :
    (traffic.setSlot category (traffic.cache.slots category).beginBuild.2).cache.current other =
      traffic.cache.current other := by
  by_cases hother : other = category
  · rw [Cache.current, hother, slots_setSlot_self]
    rfl
  · rw [Cache.current, slots_setSlot_ne _ _ hother]
    rfl

/-- What is in service changes only where a refresh that succeeds returns. -/
theorem Moved.changed (h : traffic.Moved next) {category : RuleCategory}
    (hchanged : next.cache.current category ≠ traffic.cache.current category) :
    ∃ (index : Nat) (call : RefreshCall) (readAt : Nat) (outcome : RefreshOutcome),
      next.calls[index]? = some call ∧ call.category = category ∧
      call.phase = .returned readAt traffic.clock (.ok outcome) := by
  cases h with
  | still | change | call | lock | ask => exact absurd rfl hchanged
  | @build index readAt call snapshot hcall phase =>
    exact absurd (traffic.build_published call.category category) hchanged
  | @settle index readAt call answer result slot hcall lock hread hanswer served advances =>
    have hcategory : category = call.category := by
      by_contra hne
      exact hchanged (congrArg Slot.published (traffic.slots_setSlot_ne slot hne))
    subst hcategory
    have hslot : slot.published ≠ (traffic.cache.slots call.category).published := by
      rw [← traffic.slots_setSlot_self call.category slot]
      exact hchanged
    obtain ⟨outcome, rfl⟩ := served.ok_of_ne hslot
    exact ⟨index, _, readAt, outcome, (getElem?_setPhase hcall _ _).trans (if_pos rfl), rfl, rfl⟩

/-- A call that has returned stays as it is. -/
theorem Moved.returned (h : traffic.Moved next) {index readAt settledAt : Nat} {call : RefreshCall}
    {result : Except RefreshError RefreshOutcome} (hcall : traffic.calls[index]? = some call)
    (phase : call.phase = .returned readAt settledAt result) :
    next.calls[index]? = some call := by
  have hne {other : Nat} {old : RefreshCall} (hold : traffic.calls[other]? = some old)
      (hphase : old.phase ≠ .returned readAt settledAt result) : index ≠ other := by
    rintro rfl
    obtain rfl : call = old := Option.some.inj (hcall.symm.trans hold)
    exact hphase phase
  cases h with
  | still | change => exact hcall
  | call category =>
    obtain ⟨hlt, -⟩ := List.getElem?_eq_some_iff.1 hcall
    exact (List.getElem?_append_left hlt).trans hcall
  | lock hold holdPhase | ask hold holdPhase | build hold holdPhase =>
    have hindex := hne hold (by simp [holdPhase])
    exact (getElem?_setPhase hold _ _).trans ((if_neg hindex).trans hcall)
  | @settle other otherReadAt old answer result slot hold lock =>
    have hindex := hne hold fun heq => by simp [heq, RefreshPhase.HasLock] at lock
    exact (getElem?_setPhase hold _ _).trans ((if_neg hindex).trans hcall)

theorem Moved.compiler (h : traffic.Moved next) :
    next.cache.compiler = traffic.cache.compiler := by
  cases h <;> rfl

theorem Moved.advances (h : traffic.Moved next) (locked : traffic.Locked)
    (category : RuleCategory) :
    (traffic.cache.slots category).leastVersion ≤ (next.cache.slots category).leastVersion ∧
      ∀ set ∈ next.cache.current category, set ∈ traffic.cache.current category ∨
        (traffic.cache.slots category).leastVersion ≤ set.version := by
  cases h with
  | still | change | call | lock | ask => exact ⟨Nat.le_refl _, fun _ hset => .inl hset⟩
  | @build index readAt call snapshot hcall phase =>
    refine ⟨?_, fun set hset => .inl ?_⟩
    · by_cases hcategory : category = call.category
      · subst hcategory
        have steady : (traffic.cache.slots call.category).Steady :=
          (locked.held_in hcall phase trivial).2
        have hslot := traffic.slots_setSlot_self call.category
          (traffic.cache.slots call.category).beginBuild.2
        rw [setPhase, hslot, steady.leastVersion, steady.beginBuild.leastVersion]
        exact Nat.le_refl _
      · have hslot := traffic.slots_setSlot_ne
          (traffic.cache.slots call.category).beginBuild.2 hcategory
        rw [setPhase, hslot]
    · exact (traffic.build_published call.category category) ▸ hset
  | @settle index readAt call answer result slot hcall lock hread hanswer served advances =>
    by_cases hcategory : category = call.category
    · subst hcategory
      have hadvances : (traffic.cache.slots call.category).Advances
          ((traffic.setSlot call.category slot).cache.slots call.category) :=
        (traffic.slots_setSlot_self call.category slot).symm ▸ advances
      exact ⟨hadvances.leastVersion, hadvances.published⟩
    · have hslot := traffic.slots_setSlot_ne slot hcategory
      exact ⟨Nat.le_of_eq (congrArg Slot.leastVersion hslot.symm),
        fun set hset => .inl ((congrArg Slot.published hslot).symm.trans hset)⟩

end Moved

/-! ## Runs -/

theorem Locked.version_lt {traffic : CacheTraffic} (locked : traffic.Locked)
    {category : RuleCategory} {set : RuleSet} (hset : traffic.cache.current category = some set) :
    set.version < (traffic.cache.slots category).leastVersion := by
  have steady_lt (steady : (traffic.cache.slots category).Steady) :
      set.version < (traffic.cache.slots category).leastVersion :=
    steady.leastVersion.symm ▸ steady.version set hset
  cases hholder : traffic.holder category with
  | none => exact steady_lt (locked.free category hholder)
  | some index =>
    obtain ⟨call, hcall, rfl, hlock⟩ := locked.holder category index hholder
    cases hphase : call.phase with
    | waiting | returned => simp [hphase, RefreshPhase.HasLock] at hlock
    | asking | answered => exact steady_lt (locked.held_in hcall hphase trivial).2
    | building =>
      have builds := (locked.held_in hcall hphase trivial).2
      exact (Slot.Builds.leastVersion builds).symm ▸ Slot.Builds.version builds set hset

theorem Locked.foldl {traffic : CacheTraffic} (locked : traffic.Locked)
    (events : List CacheEvent) : (events.foldl CacheTraffic.step traffic).Locked := by
  induction events generalizing traffic with
  | nil => exact locked
  | cons event events ih => exact ih (locked.step event)

theorem Locked.advances_foldl {traffic : CacheTraffic} (locked : traffic.Locked)
    (events : List CacheEvent) (category : RuleCategory) :
    (traffic.cache.slots category).leastVersion ≤
        ((events.foldl CacheTraffic.step traffic).cache.slots category).leastVersion ∧
      ∀ set ∈ (events.foldl CacheTraffic.step traffic).cache.current category,
        set ∈ traffic.cache.current category ∨
          (traffic.cache.slots category).leastVersion ≤ set.version := by
  induction events using List.reverseRecOn with
  | nil => exact ⟨Nat.le_refl _, fun _ hset => .inl hset⟩
  | append_singleton events event ih =>
    have now := locked.foldl events
    obtain ⟨hleast, hpublished⟩ := (now.moved event).advances now category
    rw [List.foldl_append]
    refine ⟨Nat.le_trans ih.1 hleast, fun set hset => ?_⟩
    obtain hold | hnew := hpublished set hset
    · exact ih.2 set hold
    · exact .inr (Nat.le_trans ih.1 hnew)

/-- A set that comes into service after another one has a later version. -/
theorem Locked.version_lt_later {traffic : CacheTraffic} (locked : traffic.Locked)
    (events : List CacheEvent) {category : RuleCategory} {set later : RuleSet}
    (hset : traffic.cache.current category = some set)
    (hlater : (events.foldl CacheTraffic.step traffic).cache.current category = some later) :
    later = set ∨ set.version < later.version := by
  obtain hsame | hle := (locked.advances_foldl events category).2 later hlater
  · exact .inl (Option.some.inj (hsame.symm.trans hset))
  · exact .inr (Nat.lt_of_lt_of_le (locked.version_lt hset) hle)

section After

variable (compiler : Compiler) (listing : Listing)

/-- What went on at a time of a run. -/
def asOf (events : List CacheEvent) (time : Nat) : CacheTraffic :=
  after compiler listing (events.take time)

theorem after_append_singleton (events : List CacheEvent) (event : CacheEvent) :
    after compiler listing (events ++ [event]) = (after compiler listing events).step event := by
  rw [after, List.foldl_append]
  rfl

theorem asOf_append_of_le {events : List CacheEvent} (event : CacheEvent) {time : Nat}
    (h : time ≤ events.length) :
    asOf compiler listing (events ++ [event]) time = asOf compiler listing events time := by
  rw [asOf, List.take_append_of_le_length h]
  rfl

theorem asOf_length (events : List CacheEvent) :
    asOf compiler listing events events.length = after compiler listing events := by
  rw [asOf, List.take_length]

theorem locked_after (events : List CacheEvent) : (after compiler listing events).Locked := by
  refine Locked.foldl ⟨fun index call hcall => ?_, fun category index hholder => ?_, ?_⟩ events
  · cases hcall
  · cases hholder
  · exact fun _ _ => Slot.steady_new

theorem clock_after (events : List CacheEvent) :
    (after compiler listing events).clock = events.length := by
  induction events using List.reverseRecOn with
  | nil => rfl
  | append_singleton events event ih =>
    rw [after_append_singleton, List.length_append, List.length_singleton, ← ih]
    rfl

theorem compiler_after (events : List CacheEvent) :
    (after compiler listing events).cache.compiler = compiler := by
  induction events using List.reverseRecOn with
  | nil => rfl
  | append_singleton events event ih =>
    rw [after_append_singleton]
    exact ((locked_after compiler listing events).moved event).compiler.trans ih

theorem recorded_after (events : List CacheEvent) :
    ∀ (index : Nat) (call : RefreshCall),
      (after compiler listing events).calls[index]? = some call →
        call.Recorded compiler (asOf compiler listing events) events.length := by
  induction events using List.reverseRecOn with
  | nil =>
    intro index call hcall
    cases hcall
  | append_singleton events event ih =>
    have moved := (locked_after compiler listing events).moved event
    have hclock := clock_after compiler listing events
    have hcompiler := compiler_after compiler listing events
    have hnow : asOf compiler listing (events ++ [event]) (after compiler listing events).clock =
        after compiler listing events := by
      rw [hclock, asOf_append_of_le compiler listing event (Nat.le_refl _), asOf_length]
    have hnext : asOf compiler listing (events ++ [event])
        ((after compiler listing events).clock + 1) =
          (after compiler listing events).step event := by
      rw [hclock, ← after_append_singleton, ← asOf_length, List.length_append]
      rfl
    have hold : ∀ (index : Nat) (call : RefreshCall),
        (after compiler listing events).calls[index]? = some call →
          call.Recorded (after compiler listing events).cache.compiler
            (asOf compiler listing (events ++ [event])) (after compiler listing events).clock := by
      intro index call hcall
      rw [hcompiler, hclock]
      exact (ih index call hcall).congr fun time htime =>
        asOf_append_of_le compiler listing event htime
    have hrecorded := moved.recorded hnow hnext hold
    rw [hcompiler, hclock] at hrecorded
    rw [after_append_singleton, List.length_append]
    exact hrecorded

theorem callsApart_after (events : List CacheEvent) :
    (after compiler listing events).CallsApart := by
  induction events using List.reverseRecOn with
  | nil =>
    intro index call hcall
    cases hcall
  | append_singleton events event ih =>
    have locked := locked_after compiler listing events
    have recorded := recorded_after compiler listing events
    rw [← clock_after compiler listing events] at recorded
    rw [after_append_singleton]
    exact (locked.moved event).apart locked recorded ih

/-- What is in service changes only where a refresh that succeeds returns. -/
theorem changed_after (events : List CacheEvent) (category : RuleCategory) {time : Nat}
    (htime : time < events.length)
    (hchanged : (asOf compiler listing events (time + 1)).cache.current category ≠
      (asOf compiler listing events time).cache.current category) :
    ∃ (index : Nat) (call : RefreshCall) (readAt : Nat) (outcome : RefreshOutcome),
      (after compiler listing events).calls[index]? = some call ∧ call.category = category ∧
      call.phase = .returned readAt time (.ok outcome) := by
  induction events using List.reverseRecOn with
  | nil => exact absurd htime (Nat.not_lt_zero time)
  | append_singleton events event ih =>
    have moved := (locked_after compiler listing events).moved event
    have hle : time ≤ events.length := by simpa using htime
    rw [asOf_append_of_le compiler listing event hle] at hchanged
    rw [after_append_singleton]
    by_cases hlast : time = events.length
    · subst hlast
      have hnext : asOf compiler listing (events ++ [event]) (events.length + 1) =
          (after compiler listing events).step event := by
        rw [← after_append_singleton, ← asOf_length, List.length_append]
        rfl
      rw [hnext, asOf_length] at hchanged
      have hresult := moved.changed hchanged
      rw [clock_after] at hresult
      exact hresult
    · have hlt : time + 1 ≤ events.length := by omega
      rw [asOf_append_of_le compiler listing event hlt] at hchanged
      obtain ⟨index, call, readAt, outcome, hcall, hcategory, phase⟩ := ih hlt hchanged
      exact ⟨index, call, readAt, outcome, moved.returned hcall phase, hcategory, phase⟩

end After

/-! ## No update is lost -/

/-- What the refreshes of a run come to. -/
structure Orderly (compiler : Compiler) (listing : Listing) (events : List CacheEvent) : Prop where
  /-- A refresh that has returned read the store during the call, and when it returned it brought
  its slot up to date with what was listed at that time. -/
  served : ∀ call ∈ (after compiler listing events).calls, ∀ readAt settledAt result,
    call.phase = .returned readAt settledAt result →
      call.begun < readAt ∧ readAt < settledAt ∧ settledAt < events.length ∧
      Slot.Served compiler
        ((asOf compiler listing events readAt).listing.answer call.category)
        ((asOf compiler listing events settledAt).cache.current call.category) result
        ((asOf compiler listing events (settledAt + 1)).cache.current call.category)
  /-- Nothing else changes what is in service. -/
  changed : ∀ category, ∀ time < events.length,
    (asOf compiler listing events (time + 1)).cache.current category ≠
        (asOf compiler listing events time).cache.current category →
      ∃ call ∈ (after compiler listing events).calls, call.category = category ∧
        ∃ readAt outcome, call.phase = .returned readAt time (.ok outcome)
  /-- Refreshes of a category take effect in the order in which they read the store: one reads it
  after those that return before it have returned. -/
  ordered : ∀ call ∈ (after compiler listing events).calls,
    ∀ other ∈ (after compiler listing events).calls, call.category = other.category →
      ∀ readAt settledAt result, call.phase = .returned readAt settledAt result →
      ∀ otherReadAt otherSettledAt otherResult,
        other.phase = .returned otherReadAt otherSettledAt otherResult →
        settledAt < otherSettledAt → readAt < settledAt ∧ settledAt < otherReadAt
  /-- A set that is in service later than another one is the same or has a later version. -/
  versions : ∀ category, ∀ earlier time, earlier ≤ time →
    ∀ set ∈ (asOf compiler listing events earlier).cache.current category,
    ∀ later ∈ (asOf compiler listing events time).cache.current category,
      later = set ∨ set.version < later.version

/-- Around a new cache, whatever the store lists at each time and however the refreshes fall
together. -/
theorem after_orderly (compiler : Compiler) (listing : Listing) (events : List CacheEvent) :
    Orderly compiler listing events where
  served := by
    intro call hmem readAt settledAt result phase
    obtain ⟨index, hcall⟩ := List.mem_iff_getElem?.1 hmem
    have recorded := recorded_after compiler listing events index call hcall
    have hread := recorded.read readAt (by simp [phase, RefreshPhase.readAt?])
    exact ⟨hread.1, recorded.settled readAt settledAt result phase⟩
  changed := by
    intro category time htime hchanged
    obtain ⟨index, call, readAt, outcome, hcall, hcategory, phase⟩ :=
      changed_after compiler listing events category htime hchanged
    exact ⟨call, List.mem_of_getElem? hcall, hcategory, readAt, outcome, phase⟩
  ordered := by
    intro call hmem other hother hcategory readAt settledAt result phase otherReadAt
      otherSettledAt otherResult otherPhase hlt
    obtain ⟨index, hcall⟩ := List.mem_iff_getElem?.1 hmem
    obtain ⟨otherIndex, hotherCall⟩ := List.mem_iff_getElem?.1 hother
    have recorded := recorded_after compiler listing events index call hcall
    have hread := (recorded.settled readAt settledAt result phase).1
    have hne : index ≠ otherIndex := by
      rintro rfl
      obtain rfl : call = other := Option.some.inj (hcall.symm.trans hotherCall)
      cases phase.symm.trans otherPhase
      exact Nat.lt_irrefl _ hlt
    have apart := callsApart_after compiler listing events index call hcall otherIndex other
      hotherCall hne hcategory
    simp only [RefreshCall.Apart, phase, otherPhase, RefreshPhase.readAt?,
      RefreshPhase.settledAt?, Option.mem_some_iff, forall_eq', exists_eq_left'] at apart
    omega
  versions := by
    intro category earlier time hle set hset later hlater
    have hsplit : events.take time = events.take earlier ++ (events.take time).drop earlier := by
      rw [← Nat.min_eq_left hle, ← List.take_take, Nat.min_eq_left hle, List.take_append_drop]
    rw [asOf, hsplit, after, List.foldl_append] at hlater
    exact (locked_after compiler listing _).version_lt_later _ hset hlater

end CacheTraffic

end FisheryRules
