import FisheryRules.Proofs.Registry.WorkerSteps
import FisheryRules.Registry.RequestTraffic

/-!
# Requests are served

No request is lost, however the steps of requests, of the worker and of a shutdown fall together:
`RequestTraffic.after_kept`. `RequestTraffic.Moved` lists what may happen in one event, each
invariant of `RequestTraffic.Sound` goes through the list once, and what holds of every run follows
by induction on its events.
-/
namespace FisheryRules

namespace RefreshRequest

/-- A request is open until a refresh of its category starts after its mark. -/
def Open (request : RefreshRequest) (starts : List RefreshStart) : Prop :=
  ∃ mark ∈ request.markTime?,
    ∀ start ∈ starts, start.category = request.category → start.time ≤ mark

/-- A refresh of the category of a request has started after its mark. -/
def Served (request : RefreshRequest) (starts : List RefreshStart) : Prop :=
  ∃ mark ∈ request.markTime?,
    ∃ start ∈ starts, start.category = request.category ∧ mark < start.time

variable {request other : RefreshRequest} {starts : List RefreshStart}

theorem open_congr (hcategory : other.category = request.category)
    (hmark : other.markTime? = request.markTime?) :
    other.Open starts ↔ request.Open starts := by
  rw [Open, Open, hcategory, hmark]

theorem not_open_of_unmarked (h : request.markTime? = none) : ¬ request.Open starts := by
  simp [Open, h]

/-- A refresh closes the requests for its category that were marked before it. -/
theorem open_append {time : Nat} {started : Option RuleCategory}
    (hmark : ∀ mark ∈ request.markTime?, mark < time) :
    request.Open (starts ++ started.toList.map (⟨time, ·⟩)) ↔
      request.Open starts ∧ started ≠ some request.category := by
  cases started with
  | none => simp [Open]
  | some category =>
    simp only [Open, Option.toList_some, List.map_cons, List.map_nil, List.forall_mem_append,
      List.forall_mem_singleton]
    constructor
    · rintro ⟨mark, hmem, hstarts, hlast⟩
      refine ⟨⟨mark, hmem, hstarts⟩, fun heq => ?_⟩
      exact Nat.not_le_of_lt (hmark mark hmem) (hlast (Option.some.inj heq))
    · rintro ⟨⟨mark, hmem, hstarts⟩, hne⟩
      exact ⟨mark, hmem, hstarts, fun heq => absurd (congrArg some heq) hne⟩

theorem Open.isAccepted_or (h : request.Open starts) :
    request.isAccepted = true ∨ ∃ time, request.phase = .marked time := by
  obtain ⟨mark, hmark, -⟩ := h
  unfold markTime? at hmark
  split at hmark
  case h_1 time phase => exact .inr ⟨time, phase⟩
  case h_2 time phase => exact .inl (by simp [isAccepted, phase])
  all_goals cases hmark

theorem Open.of_grown {more : List RefreshStart} (h : request.Open more)
    (hgrown : starts <+: more) : request.Open starts := by
  obtain ⟨mark, hmark, hstarts⟩ := h
  exact ⟨mark, hmark, fun start hmem => hstarts start (hgrown.subset hmem)⟩

theorem Served.of_grown {more : List RefreshStart} (h : request.Served starts)
    (hgrown : starts <+: more) : request.Served more := by
  obtain ⟨mark, hmark, start, hmem, hstart⟩ := h
  exact ⟨mark, hmark, start, hgrown.subset hmem, hstart⟩

theorem exists_mark_of_isAccepted (h : request.isAccepted = true) :
    ∃ mark, mark ∈ request.markTime? := by
  unfold isAccepted at h
  split at h
  next time phase => exact ⟨time, by simp [markTime?, phase]⟩
  all_goals cases h

/-- A request that has marked its category is open or served. -/
theorem served_of_not_open {mark : Nat} (hmark : mark ∈ request.markTime?)
    (h : ¬ request.Open starts) : request.Served starts := by
  simp only [Open, not_exists, not_and, not_forall, Nat.not_le] at h
  obtain ⟨start, hmem, hcategory, hlt⟩ := h mark hmark
  exact ⟨mark, hmark, start, hmem, hcategory, hlt⟩

end RefreshRequest

/-- A request that nothing comes between makes its three steps at once. -/
theorem request?_eq (worker : RefreshWorker) (category : RuleCategory) (time : Nat) :
    worker.request? category =
      let (admitted, worker) := RefreshRequest.step { category } worker time
      let (marked, worker) := admitted.step worker time
      let (accepted, worker) := marked.step worker time
      if accepted.isAccepted then some worker else none := by
  cases stopping : worker.shuttingDown <;>
    simp [RefreshWorker.request?, RefreshRequest.step, RefreshRequest.isAccepted, stopping]

/-- So does a shutdown, as far as the worker is concerned. -/
theorem RequestTraffic.shutdown_eq (traffic : RequestTraffic) (h : traffic.shutdown = .ahead) :
    traffic.shutdownStep.shutdownStep.worker = traffic.worker.shutdown := by
  simp [shutdownStep, h, RefreshWorker.shutdown]

section Replaced

variable {α : Type} {before after : List α} {old new : α} {p : α → Prop}

theorem forall_mem_replaced (hall : ∀ a ∈ before ++ old :: after, p a) (hnew : p old → p new) :
    ∀ a ∈ before ++ new :: after, p a := by
  simp only [List.forall_mem_append, List.forall_mem_cons] at hall ⊢
  exact ⟨hall.1, hnew hall.2.1, hall.2.2⟩

theorem exists_mem_replaced (hnew : p new ↔ p old) :
    (∃ a ∈ before ++ new :: after, p a) ↔ ∃ a ∈ before ++ old :: after, p a := by
  simp only [List.mem_append, List.mem_cons, or_and_right, exists_or, exists_eq_left, hnew]

theorem countP_replaced {q : α → Bool} (hnew : q new = q old) :
    (before ++ new :: after).countP q = (before ++ old :: after).countP q := by
  simp only [List.countP_append, List.countP_cons, hnew]

theorem countP_replaced_add {q : α → Bool} (hold : q old = false) (hnew : q new = true) :
    (before ++ new :: after).countP q = (before ++ old :: after).countP q + 1 := by
  simp only [List.countP_append, List.countP_cons, hold, hnew, if_true, Bool.false_eq_true,
    if_false]
  omega

theorem getElem?_replaced (index : Nat) : (before ++ new :: after)[index]? =
    if index = before.length then some new else (before ++ old :: after)[index]? := by
  grind

end Replaced

namespace RequestTraffic

/-- What may happen in one event. -/
inductive Moved (traffic : RequestTraffic) : RequestTraffic → Prop
  | still : Moved traffic traffic
  | make (category : RuleCategory) :
      Moved traffic { traffic with requests := traffic.requests ++ [{ category }] }
  | look {before after : List RefreshRequest} {request : RefreshRequest}
      (requests : traffic.requests = before ++ request :: after) (phase : request.phase = .made) :
      Moved traffic
        { traffic with
          requests := before ++
            { request with
              phase := if traffic.worker.shuttingDown then .refused else .admitted } :: after }
  | mark {before after : List RefreshRequest} {request : RefreshRequest}
      (requests : traffic.requests = before ++ request :: after)
      (phase : request.phase = .admitted) :
      Moved traffic
        { traffic with
          requests := before ++ { request with phase := .marked traffic.clock } :: after
          worker := traffic.worker.setPending request.category true }
  | accept {before after : List RefreshRequest} {request : RefreshRequest} {time : Nat}
      (requests : traffic.requests = before ++ request :: after)
      (phase : request.phase = .marked time) :
      Moved traffic
        { traffic with
          requests := before ++ { request with phase := .accepted time } :: after
          worker := traffic.worker.notify }
  | work {started : Option RuleCategory} {worker : RefreshWorker}
      (worked : traffic.worker.Worked started worker) :
      Moved traffic (traffic.worked started worker)
  | elapse (seconds : Nat) :
      Moved traffic { traffic with worker := traffic.worker.elapse seconds }
  | shutDown (shutdown : traffic.shutdown = .ahead) :
      Moved traffic
        { traffic with worker := { traffic.worker with shuttingDown := true }, shutdown := .begun }
  | wake (shutdown : traffic.shutdown = .begun) :
      Moved traffic { traffic with worker := traffic.worker.notify, shutdown := .waiting }
  | returns (stopped : traffic.worker.phase = .stopped) (shutdown : traffic.shutdown = .waiting) :
      Moved traffic { traffic with shutdown := .returned }

theorem moved_request (traffic : RequestTraffic) (index : Nat) :
    traffic.Moved (traffic.act (.request index)) := by
  cases hrequest : traffic.requests[index]? with
  | none =>
    simp only [act, hrequest]
    exact .still
  | some request =>
    obtain ⟨hlt, rfl⟩ := List.getElem?_eq_some_iff.1 hrequest
    have hrequests : traffic.requests = traffic.requests.take index ++
        traffic.requests[index] :: traffic.requests.drop (index + 1) := by
      rw [← List.drop_eq_getElem_cons hlt, List.take_append_drop]
    have hset (request : RefreshRequest) : traffic.requests.set index request =
        traffic.requests.take index ++ request :: traffic.requests.drop (index + 1) := by
      rw [List.set_eq_take_append_cons_drop, if_pos hlt]
    cases phase : traffic.requests[index].phase with
    | made =>
      simp only [act, hrequest, RefreshRequest.step, phase, hset]
      exact .look hrequests phase
    | admitted =>
      simp only [act, hrequest, RefreshRequest.step, phase, hset]
      exact .mark hrequests phase
    | marked time =>
      simp only [act, hrequest, RefreshRequest.step, phase, hset]
      exact .accept hrequests phase
    | accepted | refused =>
      simp only [act, hrequest, RefreshRequest.step, phase, List.set_getElem_self]
      exact .still

theorem moved_act (traffic : RequestTraffic) (event : TrafficEvent) :
    traffic.Moved (traffic.act event) := by
  cases event with
  | make category => exact .make category
  | request index => exact traffic.moved_request index
  | work =>
    cases hstep : traffic.worker.step? with
    | none =>
      simp only [act, hstep]
      exact .still
    | some next =>
      simp only [act, hstep]
      exact .work (RefreshWorker.worked_of_step? hstep)
  | tick =>
    cases htick : traffic.worker.tick? with
    | none =>
      simp only [act, htick]
      exact .still
    | some next =>
      simp only [act, htick]
      exact .work (RefreshWorker.worked_of_tick? htick)
  | elapse seconds => exact .elapse seconds
  | shutdown =>
    simp only [act, shutdownStep]
    cases shutdown : traffic.shutdown with
    | ahead => exact .shutDown shutdown
    | begun => exact .wake shutdown
    | waiting =>
      by_cases stopped : traffic.worker.phase = .stopped
      · simp only [stopped, if_pos]
        exact .returns stopped shutdown
      · simp only [stopped, if_neg, not_false_iff]
        exact .still
    | returned => exact .still

/-! ## Invariants -/

@[simp] theorem worked_worker (traffic : RequestTraffic) (started : Option RuleCategory)
    (worker : RefreshWorker) : (traffic.worked started worker).worker = worker := rfl

@[simp] theorem worked_requests (traffic : RequestTraffic) (started : Option RuleCategory)
    (worker : RefreshWorker) : (traffic.worked started worker).requests = traffic.requests := rfl

@[simp] theorem worked_shutdown (traffic : RequestTraffic) (started : Option RuleCategory)
    (worker : RefreshWorker) : (traffic.worked started worker).shutdown = traffic.shutdown := rfl

/-- What holds of the traffic around a worker after any events. -/
structure Sound (traffic : RequestTraffic) : Prop where
  markTime : ∀ request ∈ traffic.requests, ∀ mark ∈ request.markTime?, mark < traffic.clock
  startTime : ∀ start ∈ traffic.starts, start.time < traffic.clock
  /-- The categories that are marked are those of the open requests. -/
  pending : ∀ category, traffic.worker.pending category = true ↔
    ∃ request ∈ traffic.requests, request.category = category ∧ request.Open traffic.starts
  due : traffic.worker.shuttingDown = false →
    ∀ request ∈ traffic.requests, request.isAccepted = true → request.Open traffic.starts →
      traffic.worker.Due request.category
  passes : traffic.worker.passesAhead ≤
    traffic.requests.countP RefreshRequest.isAccepted + traffic.worker.ended
  shutdown : traffic.worker.shuttingDown = true ↔ traffic.shutdown ≠ .ahead
  returned : traffic.shutdown = .returned → traffic.worker.phase = .stopped
  idle : traffic.worker.phase = .asleep false → traffic.worker.permit = false

section Moved

variable {traffic next : RequestTraffic}

theorem Moved.markTime (h : traffic.Moved next) (sound : traffic.Sound) :
    ∀ request ∈ next.requests, ∀ mark ∈ request.markTime?, mark < traffic.clock + 1 := by
  have hold : ∀ request ∈ traffic.requests, ∀ mark ∈ request.markTime?, mark < traffic.clock + 1 :=
    fun request hmem mark hmark => Nat.lt_succ_of_lt (sound.markTime request hmem mark hmark)
  cases h with
  | still | work | elapse | shutDown | wake | returns => exact hold
  | make category => simpa [or_imp, forall_and, RefreshRequest.markTime?] using hold
  | look requests phase =>
    refine forall_mem_replaced (requests ▸ hold) fun _ mark hmark => ?_
    cases stopping : traffic.worker.shuttingDown <;>
      simp [RefreshRequest.markTime?, stopping] at hmark
  | mark requests phase =>
    refine forall_mem_replaced (requests ▸ hold) fun _ mark hmark => ?_
    obtain rfl : traffic.clock = mark := by simpa [RefreshRequest.markTime?] using hmark
    exact Nat.lt_succ_self _
  | accept requests phase =>
    refine forall_mem_replaced (requests ▸ hold) fun hrequest mark hmark => hrequest mark ?_
    simpa [RefreshRequest.markTime?, phase] using hmark

theorem Moved.startTime (h : traffic.Moved next) (sound : traffic.Sound) :
    ∀ start ∈ next.starts, start.time < traffic.clock + 1 := by
  have hold : ∀ start ∈ traffic.starts, start.time < traffic.clock + 1 :=
    fun start hmem => Nat.lt_succ_of_lt (sound.startTime start hmem)
  cases h with
  | still | make | look | mark | accept | elapse | shutDown | wake | returns => exact hold
  | @work started worker worked =>
    refine List.forall_mem_append.2 ⟨hold, fun start hmem => ?_⟩
    obtain ⟨category, -, rfl⟩ := List.mem_map.1 hmem
    exact Nat.lt_succ_self _

theorem Moved.pending (h : traffic.Moved next) (sound : traffic.Sound) (category : RuleCategory) :
    next.worker.pending category = true ↔
      ∃ request ∈ next.requests, request.category = category ∧ request.Open next.starts := by
  have hold := sound.pending category
  cases h with
  | still | elapse | shutDown | returns => exact hold
  | wake =>
    rw [RefreshWorker.notify_pending]
    exact hold
  | make other =>
    have hnew : ¬ RefreshRequest.Open { category := other } traffic.starts :=
      RefreshRequest.not_open_of_unmarked rfl
    simpa [or_and_right, exists_or, hnew] using hold
  | @look before after request requests phase =>
    rw [exists_mem_replaced, ← requests]
    · exact hold
    · have hmark : request.markTime? = none := by simp [RefreshRequest.markTime?, phase]
      refine and_congr_right' (RefreshRequest.open_congr rfl (.trans ?_ hmark.symm))
      cases stopping : traffic.worker.shuttingDown <;> rfl
  | @mark before after request requests phase =>
    by_cases hcategory : category = request.category
    · refine iff_of_true (if_pos hcategory) ⟨_, List.mem_append_cons_self, hcategory.symm, ?_⟩
      exact ⟨traffic.clock, rfl, fun start hmem _ => Nat.le_of_lt (sound.startTime start hmem)⟩
    · have hpending : (traffic.worker.setPending request.category true).pending category =
          traffic.worker.pending category := if_neg hcategory
      simp only [hpending]
      rw [exists_mem_replaced, ← requests]
      · exact hold
      · exact iff_of_false (fun h => hcategory h.1.symm) fun h => hcategory h.1.symm
  | @accept before after request time requests phase =>
    rw [RefreshWorker.notify_pending, exists_mem_replaced, ← requests]
    · exact hold
    · have hmark : request.markTime? = some time := by simp [RefreshRequest.markTime?, phase]
      exact and_congr_right' (RefreshRequest.open_congr rfl hmark.symm)
  | @work started worker worked =>
    have hopen : ∀ request ∈ traffic.requests,
        (request.Open (traffic.worked started worker).starts ↔
          request.Open traffic.starts ∧ started ≠ some request.category) :=
      fun request hmem => RefreshRequest.open_append (sound.markTime request hmem)
    simp only [worked_worker, worked_requests, worked.pending, Bool.and_eq_true, bne_iff_ne, hold]
    constructor
    · rintro ⟨⟨request, hmem, rfl, hrequest⟩, hne⟩
      exact ⟨request, hmem, rfl, (hopen request hmem).2 ⟨hrequest, hne⟩⟩
    · rintro ⟨request, hmem, rfl, hrequest⟩
      obtain ⟨hrequest, hne⟩ := (hopen request hmem).1 hrequest
      exact ⟨⟨request, hmem, rfl, hrequest⟩, hne⟩

theorem Moved.due (h : traffic.Moved next) (sound : traffic.Sound)
    (running : next.worker.shuttingDown = false) :
    ∀ request ∈ next.requests, request.isAccepted = true → request.Open next.starts →
      next.worker.Due request.category := by
  cases h with
  | still | elapse | returns => exact sound.due running
  | make other =>
    refine List.forall_mem_append.2 ⟨sound.due running, ?_⟩
    simp [RefreshRequest.isAccepted]
  | @look before after request requests phase =>
    have hold := sound.due running
    refine forall_mem_replaced (requests ▸ hold) fun _ haccepted => ?_
    cases stopping : traffic.worker.shuttingDown <;>
      simp [RefreshRequest.isAccepted, stopping] at haccepted
  | @mark before after request requests phase =>
    have hold := sound.due running
    refine forall_mem_replaced (requests ▸ hold) fun _ haccepted => ?_
    simp [RefreshRequest.isAccepted] at haccepted
  | accept | wake => exact fun request _ _ _ => traffic.worker.notify_due request.category
  | shutDown => cases running
  | @work started worker worked =>
    intro request hmem haccepted hopen
    have hpending := (Moved.work worked).pending sound request.category
    have hold := (RefreshRequest.open_append (sound.markTime request hmem)).1 hopen
    have hrunning : traffic.worker.shuttingDown = false := worked.shuttingDown ▸ running
    exact worked.due hrunning (sound.due hrunning request hmem haccepted hold.1)
      (hpending.2 ⟨request, hmem, rfl, hopen⟩)

theorem Moved.passes (h : traffic.Moved next) (sound : traffic.Sound) :
    next.worker.passesAhead ≤
      next.requests.countP RefreshRequest.isAccepted + next.worker.ended := by
  have hold := sound.passes
  cases h with
  | still | returns => exact hold
  | make other =>
    rw [List.countP_append]
    exact Nat.le_trans hold (Nat.add_le_add_right (Nat.le_add_right _ _) _)
  | @look before after request requests phase =>
    rw [countP_replaced, ← requests]
    · exact hold
    · cases stopping : traffic.worker.shuttingDown <;> simp [RefreshRequest.isAccepted, phase]
  | @mark before after request requests phase =>
    rw [countP_replaced, ← requests]
    · exact hold
    · simp [RefreshRequest.isAccepted, phase]
  | @accept before after request time requests phase =>
    have hbefore : request.isAccepted = false := by simp [RefreshRequest.isAccepted, phase]
    rw [countP_replaced_add hbefore rfl, ← requests, RefreshWorker.notify_ended]
    have hnotify := traffic.worker.notify_passesAhead_le
    dsimp only
    omega
  | @work started worker worked =>
    exact worked.ended ▸ Nat.le_trans worked.passesAhead_le hold
  | elapse seconds =>
    have helapse := traffic.worker.elapse_passesAhead_le seconds
    dsimp only
    omega
  | shutDown =>
    refine Nat.le_trans ?_ hold
    simp [RefreshWorker.passesAhead]
  | wake shutdown =>
    have hstopping := sound.shutdown.2 (by simp [shutdown])
    rw [traffic.worker.notify_passesAhead hstopping, RefreshWorker.notify_ended]
    exact hold

theorem Moved.shutdown (h : traffic.Moved next) (sound : traffic.Sound) :
    next.worker.shuttingDown = true ↔ next.shutdown ≠ .ahead := by
  have hold := sound.shutdown
  cases h with
  | still | make | look | mark | elapse => exact hold
  | accept => simpa using hold
  | work worked => simpa [worked.shuttingDown] using hold
  | shutDown => simp
  | wake shutdown => simp [hold, shutdown]
  | returns stopped shutdown => simp [hold, shutdown]

theorem Moved.returned (h : traffic.Moved next) (sound : traffic.Sound)
    (returned : next.shutdown = .returned) : next.worker.phase = .stopped := by
  have hold := sound.returned
  cases h with
  | still | make | look | mark | elapse => exact hold returned
  | accept => exact traffic.worker.notify_stopped.2 (hold returned)
  | work worked => exact (worked.stopped (hold returned)).2
  | shutDown | wake => cases returned
  | returns stopped => exact stopped

theorem Moved.idle (h : traffic.Moved next) (sound : traffic.Sound)
    (idle : next.worker.phase = .asleep false) : next.worker.permit = false := by
  cases h with
  | still | make | look | mark | elapse | shutDown | returns => exact sound.idle idle
  | accept | wake => exact absurd idle traffic.worker.notify_idle
  | work worked => exact worked.idle idle

end Moved

theorem sound_start (period : Option Nat) : Sound { worker := .start period } := by
  have hphase : (RefreshWorker.start period).phase = .starting ∨
      (RefreshWorker.start period).phase = .stopped := by
    simp only [RefreshWorker.start]
    split <;> simp
  refine {
    markTime := List.forall_mem_nil _
    startTime := List.forall_mem_nil _
    pending := by simp [RefreshWorker.start]
    due := fun _ => List.forall_mem_nil _
    passes := ?_
    shutdown := by simp [RefreshWorker.start]
    returned := nofun
    idle := fun (idle : (RefreshWorker.start period).phase = _) => by simp [idle] at hphase }
  have hpasses : (RefreshWorker.start period).passesAhead = 0 := by
    obtain phase | phase := hphase <;>
      simp [RefreshWorker.passesAhead, phase, WorkerPhase.passes, WorkerPhase.wakeUps] <;>
      simp [RefreshWorker.start]
  exact Nat.le_trans (Nat.le_of_eq hpasses) (Nat.zero_le _)

theorem Sound.step {traffic : RequestTraffic} (sound : traffic.Sound) (event : TrafficEvent) :
    (traffic.step event).Sound :=
  have moved := traffic.moved_act event
  { markTime := moved.markTime sound
    startTime := moved.startTime sound
    pending := moved.pending sound
    due := moved.due sound
    passes := moved.passes sound
    shutdown := moved.shutdown sound
    returned := moved.returned sound
    idle := moved.idle sound }

theorem sound_after (period : Option Nat) (events : List TrafficEvent) :
    (after period events).Sound := by
  induction events using List.reverseRecOn with
  | nil => exact sound_start period
  | append_singleton events event ih =>
    rw [after, List.foldl_append]
    exact ih.step event

/-! ## Later events -/

section Later

variable {traffic next : RequestTraffic}

theorem Moved.starts_grow (h : traffic.Moved next) : traffic.starts <+: next.starts := by
  cases h with
  | work => exact List.prefix_append _ _
  | still | make | look | mark | accept | elapse | shutDown | wake | returns =>
    exact List.prefix_refl _

theorem starts_foldl (traffic : RequestTraffic) (events : List TrafficEvent) :
    traffic.starts <+: (events.foldl step traffic).starts := by
  induction events generalizing traffic with
  | nil => exact List.prefix_refl _
  | cons event events ih =>
    exact (traffic.moved_act event).starts_grow.trans (ih (traffic.step event))

theorem Moved.mem_accepted (h : traffic.Moved next) {request : RefreshRequest}
    (hmem : request ∈ traffic.requests) (haccepted : request.isAccepted = true) :
    request ∈ next.requests := by
  cases h with
  | still | work | elapse | shutDown | wake | returns => exact hmem
  | make => exact List.mem_append_left _ hmem
  | @look before after other requests phase | @mark before after other requests phase
  | @accept before after other time requests phase =>
    have hne : request ≠ other := by
      rintro rfl
      simp [RefreshRequest.isAccepted, phase] at haccepted
    simp only [requests, List.mem_append, List.mem_cons, hne, false_or] at hmem ⊢
    exact hmem.imp_right .inr

/-- A shutdown is not taken back. -/
theorem Moved.stopping (h : traffic.Moved next) (stopping : traffic.worker.shuttingDown = true) :
    next.worker.shuttingDown = true := by
  cases h with
  | still | make | look | mark | elapse | returns => exact stopping
  | shutDown => rfl
  | accept | wake => rw [RefreshWorker.notify_shuttingDown]; exact stopping
  | work worked => exact worked.shuttingDown.trans stopping

theorem stopping_foldl (events : List TrafficEvent)
    (stopping : traffic.worker.shuttingDown = true) :
    (events.foldl step traffic).worker.shuttingDown = true := by
  induction events generalizing traffic with
  | nil => exact stopping
  | cons event events ih => exact ih ((traffic.moved_act event).stopping stopping)

theorem Moved.runs (h : traffic.Moved next) (running : traffic.worker.shuttingDown = false)
    (hphase : traffic.worker.phase ≠ .stopped) : next.worker.phase ≠ .stopped := by
  cases h with
  | still | make | look | mark | elapse | shutDown | returns => exact hphase
  | accept | wake => exact mt traffic.worker.notify_stopped.1 hphase
  | work worked => exact worked.runs running

theorem Moved.stepsTo_le (h : traffic.Moved next) (running : traffic.worker.shuttingDown = false)
    {category : RuleCategory} (marked : next.worker.pending category = true)  :
    next.worker.phase.stepsTo category ≤ traffic.worker.phase.stepsTo category := by
  cases h with
  | still | make | look | mark | elapse | shutDown | returns => exact Nat.le_refl _
  | accept | wake => exact Nat.le_of_eq (RefreshWorker.notify_stepsTo _ category)
  | work worked =>
    simp only [worked_worker, worked.pending, Bool.and_eq_true, bne_iff_ne] at marked
    exact Nat.le_of_lt (worked.stepsTo_lt running marked.1 marked.2)

/-- A worker whose periods take time, and end while the clock goes on, does not stop before the
shutdown begins. -/
theorem runs_after {period : Option Nat}
    (told : ∀ seconds ∈ period, 0 < seconds ∧ seconds < RefreshWorker.clockLimit)
    (events : List TrafficEvent)
    (running : (after period events).worker.shuttingDown = false) :
    (after period events).worker.phase ≠ .stopped := by
  induction events using List.reverseRecOn with
  | nil =>
    have hstarting : (RefreshWorker.start period).phase = .starting := by
      refine if_pos ((Option.all_eq_true _ _).2 fun seconds hseconds => ?_)
      simpa using told seconds hseconds
    simp [after, hstarting]
  | append_singleton events event ih =>
    rw [after, List.foldl_append, ← after] at running ⊢
    have moved := (after period events).moved_act event
    have hrunning : (after period events).worker.shuttingDown = false :=
      Bool.eq_false_iff.2 fun stopping =>
        Bool.false_ne_true (running.symm.trans (moved.stopping stopping))
    exact moved.runs hrunning (ih hrunning)

/-- A worker that is due to come to a category makes a step. -/
theorem Sound.exists_step (sound : traffic.Sound) (hphase : traffic.worker.phase ≠ .stopped)
    {category : RuleCategory} (due : traffic.worker.Due category) :
    ∃ started worker, traffic.worker.Worked started worker ∧
      traffic.act .work = traffic.worked started worker := by
  have hstep : traffic.worker.step?.isSome = true := by
    unfold RefreshWorker.step?
    split
    case h_4 phase =>
      simp [RefreshWorker.Due, phase, sound.idle phase, WorkerPhase.ComesTo] at due
    case h_8 phase => exact absurd phase hphase
    all_goals rfl
  obtain ⟨⟨started, worker⟩, hstep⟩ := Option.isSome_iff_exists.1 hstep
  exact ⟨started, worker, RefreshWorker.worked_of_step? hstep, by simp only [act, hstep]⟩

/-- The refresh that an accepted request waits for starts as soon as the worker has made the steps
to its category, whatever happens between them, unless the worker shuts down. -/
theorem Sound.served_of_steps (sound : traffic.Sound) {request : RefreshRequest}
    (hmem : request ∈ traffic.requests) (haccepted : request.isAccepted = true)
    (hphase : traffic.worker.phase ≠ .stopped) {events : List TrafficEvent}
    (running : (events.foldl RequestTraffic.step traffic).worker.shuttingDown = false)
    (hsteps : traffic.worker.phase.stepsTo request.category ≤ events.count .work) :
    request.Served (events.foldl RequestTraffic.step traffic).starts := by
  induction events generalizing traffic with
  | nil =>
    have hpos := WorkerPhase.stepsTo_pos hphase request.category
    simp only [List.count_nil] at hsteps
    omega
  | cons event events ih =>
    have moved := traffic.moved_act event
    have hnext := moved.mem_accepted hmem haccepted
    have hrunning : traffic.worker.shuttingDown = false := by
      refine Bool.eq_false_iff.2 fun stopping => ?_
      rw [stopping_foldl (event :: events) stopping] at running
      cases running
    by_cases hopen : request.Open (traffic.act event).starts
    · have marked := (moved.pending sound request.category).2 ⟨request, hnext, rfl, hopen⟩
      refine ih (sound.step event) hnext (moved.runs hrunning hphase) running ?_
      by_cases hwork : event = .work
      · subst hwork
        have hold := hopen.of_grown moved.starts_grow
        obtain ⟨started, worker, worked, hact⟩ :=
          sound.exists_step hphase (sound.due hrunning request hmem haccepted hold)
        rw [hact] at marked
        have hlt : worker.phase.stepsTo request.category <
            traffic.worker.phase.stepsTo request.category := by
          simp only [worked_worker, worked.pending, Bool.and_eq_true, bne_iff_ne] at marked
          exact worked.stepsTo_lt hrunning marked.1 marked.2
        rw [List.count_cons_self] at hsteps
        simp only [RequestTraffic.step, hact, worked_worker]
        omega
      · rw [List.count_cons_of_ne hwork] at hsteps
        exact Nat.le_trans (moved.stepsTo_le hrunning marked) hsteps
    · obtain ⟨mark, hmark⟩ := RefreshRequest.exists_mark_of_isAccepted haccepted
      exact (RefreshRequest.served_of_not_open hmark hopen).of_grown
        (starts_foldl (traffic.step event) events)

/-! ## After a shutdown -/

/-- No request of this index has got past its look at the worker. -/
def Unadmitted (traffic : RequestTraffic) (index : Nat) : Prop :=
  ∀ request, traffic.requests[index]? = some request →
    request.phase = .made ∨ request.phase = .refused

theorem Unadmitted.ne {index : Nat} (h : traffic.Unadmitted index)
    {before after : List RefreshRequest} {request : RefreshRequest}
    (requests : traffic.requests = before ++ request :: after) (hmade : request.phase ≠ .made)
    (hrefused : request.phase ≠ .refused) : index ≠ before.length := by
  rintro rfl
  obtain phase | phase := h request (by simp [requests])
  · exact hmade phase
  · exact hrefused phase

theorem Moved.unadmitted (h : traffic.Moved next) (stopping : traffic.worker.shuttingDown = true)
    {index : Nat} (hindex : traffic.Unadmitted index) : next.Unadmitted index := by
  cases h with
  | still | work | elapse | shutDown | wake | returns => exact hindex
  | make category =>
    intro request hrequest
    rw [List.getElem?_append] at hrequest
    split at hrequest
    · exact hindex request hrequest
    · obtain rfl := List.mem_singleton.1 (List.mem_of_getElem? hrequest)
      exact .inl rfl
  | @look before after old requests phase =>
    intro request hrequest
    rw [getElem?_replaced, ← requests] at hrequest
    by_cases heq : index = before.length
    · rw [if_pos heq] at hrequest
      obtain rfl := Option.some.inj hrequest
      exact .inr (if_pos stopping)
    · rw [if_neg heq] at hrequest
      exact hindex request hrequest
  | @mark before after old requests phase | @accept before after old time requests phase =>
    intro request hrequest
    have hne := hindex.ne requests (by simp [phase]) (by simp [phase])
    rw [getElem?_replaced, if_neg hne, ← requests] at hrequest
    exact hindex request hrequest

theorem Moved.returned_stays (h : traffic.Moved next) (sound : traffic.Sound)
    (returned : traffic.shutdown = .returned) :
    next.shutdown = .returned ∧ next.starts = traffic.starts := by
  cases h with
  | still | make | look | mark | accept | elapse => exact ⟨returned, rfl⟩
  | work worked =>
    obtain ⟨rfl, -⟩ := worked.stopped (sound.returned returned)
    exact ⟨returned, List.append_nil _⟩
  | shutDown shutdown | wake shutdown | returns _ shutdown => cases returned.symm.trans shutdown

theorem Sound.closed (sound : traffic.Sound) (returned : traffic.shutdown = .returned)
    (events : List TrafficEvent) :
    (events.foldl RequestTraffic.step traffic).starts = traffic.starts ∧
      ∀ index, traffic.Unadmitted index →
        (events.foldl RequestTraffic.step traffic).Unadmitted index := by
  induction events generalizing traffic with
  | nil => exact ⟨rfl, fun _ h => h⟩
  | cons event events ih =>
    have moved := traffic.moved_act event
    have stopping := sound.shutdown.2 (by simp [returned])
    obtain ⟨hreturned, hstarts⟩ := moved.returned_stays sound returned
    obtain ⟨ihstarts, ihrefused⟩ := ih (sound.step event) hreturned
    exact ⟨ihstarts.trans hstarts,
      fun index hindex => ihrefused index (moved.unadmitted stopping hindex)⟩

end Later

/-! ## No request is lost -/

/-- What becomes of the requests, as of one moment after the worker has started with a period. -/
structure Kept (period : Option Nat) (traffic : RequestTraffic) : Prop where
  /-- When the worker rests, a refresh has started for every request that has left its wake-up, and
  what is marked is marked by requests that have not left theirs. -/
  rests : traffic.worker.shuttingDown = false → traffic.worker.Rests →
    (∀ request ∈ traffic.requests, request.isAccepted = true → request.Served traffic.starts) ∧
    ∀ category, traffic.worker.pending category = true →
      ∃ time, ⟨category, .marked time⟩ ∈ traffic.requests
  /-- For every accepted request a refresh has started after its mark, or is still due. -/
  owed : traffic.worker.shuttingDown = false →
    ∀ request ∈ traffic.requests, request.isAccepted = true →
      request.Served traffic.starts ∨
        traffic.worker.pending request.category = true ∧ traffic.worker.Due request.category
  /-- The worker does not stop before the shutdown begins, unless its periods take no time or never
  end. -/
  runs : (∀ seconds ∈ period, 0 < seconds ∧ seconds < RefreshWorker.clockLimit) →
    traffic.worker.shuttingDown = false → traffic.worker.phase ≠ .stopped
  /-- A refresh that is due starts when the worker has made its steps to the category. -/
  comes : traffic.worker.phase ≠ .stopped →
    ∀ request ∈ traffic.requests, request.isAccepted = true → ∀ events : List TrafficEvent,
      (events.foldl step traffic).worker.shuttingDown = false →
      traffic.worker.phase.stepsTo request.category ≤ events.count .work →
      request.Served (events.foldl step traffic).starts
  /-- There are at most as many passes as accepted requests and ended periods. -/
  passes : traffic.worker.passes ≤
    traffic.requests.countP RefreshRequest.isAccepted + traffic.worker.ended
  /-- Once the shutdown has returned no refresh starts, all requests fail, and so do those that are
  made and had not looked at the worker. -/
  closed : traffic.shutdown = .returned → ∀ events : List TrafficEvent,
    (events.foldl step traffic).starts = traffic.starts ∧
    (∀ category, (events.foldl step traffic).worker.request? category = none) ∧
    ∀ index, traffic.Unadmitted index → (events.foldl step traffic).Unadmitted index

theorem Sound.kept {period : Option Nat} {traffic : RequestTraffic} (sound : traffic.Sound)
    (runs : (∀ seconds ∈ period, 0 < seconds ∧ seconds < RefreshWorker.clockLimit) →
      traffic.worker.shuttingDown = false → traffic.worker.phase ≠ .stopped) :
    traffic.Kept period := by
  have owed (running : traffic.worker.shuttingDown = false) :
      ∀ request ∈ traffic.requests, request.isAccepted = true →
        request.Served traffic.starts ∨
          traffic.worker.pending request.category = true ∧ traffic.worker.Due request.category := by
    intro request hmem haccepted
    by_cases hopen : request.Open traffic.starts
    · exact .inr ⟨(sound.pending _).2 ⟨request, hmem, rfl, hopen⟩,
        sound.due running request hmem haccepted hopen⟩
    · obtain ⟨mark, hmark⟩ := RefreshRequest.exists_mark_of_isAccepted haccepted
      exact .inl (RefreshRequest.served_of_not_open hmark hopen)
  refine ⟨fun running rests => ?_, owed, runs, ?_, ?_, fun returned events => ?_⟩
  · refine ⟨fun request hmem haccepted => ?_, fun category hpending => ?_⟩
    · exact (owed running request hmem haccepted).resolve_right fun h => rests.not_due h.2
    · obtain ⟨request, hmem, rfl, hopen⟩ := (sound.pending category).1 hpending
      obtain haccepted | ⟨time, phase⟩ := hopen.isAccepted_or
      · exact absurd (sound.due running request hmem haccepted hopen) rests.not_due
      · exact ⟨time, phase ▸ hmem⟩
  · exact fun hphase request hmem haccepted events running hsteps =>
      sound.served_of_steps hmem haccepted hphase running hsteps
  · exact Nat.le_trans (Nat.le_add_right_of_le (Nat.le_add_right _ _)) sound.passes
  · have stopping := stopping_foldl events (sound.shutdown.2 (by simp [returned]))
    obtain ⟨hstarts, hrefused⟩ := sound.closed returned events
    exact ⟨hstarts, fun category => if_pos stopping, hrefused⟩

/-- Around a new worker, whatever happens in whatever order: no request is lost, the passes are not
more than the requests and the periods, and nothing goes on after a shutdown. -/
theorem after_kept (period : Option Nat) (events : List TrafficEvent) :
    (after period events).Kept period :=
  (sound_after period events).kept fun told running => runs_after told events running

/-- Two requests that come while the worker makes a pass. The one for the category that is yet to
come in the pass is served by it, the other one by the pass that follows. -/
example :
    let work (count : Nat) : List TrafficEvent := List.replicate count .work
    let request (index : Nat) : List TrafficEvent := List.replicate 3 (.request index)
    let made : List TrafficEvent := [.make .sanity, .make .business]
    let traffic := after none
      (.make .custom :: (request 0 ++ work 6 ++ made ++ request 1 ++ request 2 ++ work 9))
    traffic.starts.map (·.category) = [.custom, .business, .sanity] ∧
      traffic.worker.passes = 1 := by
  decide

end RequestTraffic

end FisheryRules
