import FisheryRules.Proofs.Results
import FisheryRules.Registry.RefreshWorker

/-!
# Steps of the refresh worker

What one step of a worker does, by the phase that it is in: `RefreshWorker.Worked` lists the steps,
and what they keep is proved from it. A mark is taken back only where a refresh of its category
starts, and the wake-up of a request is used up only by a pass that comes to its category
afterwards.
-/
namespace FisheryRules

namespace WorkerPhase

/-- The worker is awake, or about to wake up, and has a category ahead of it. -/
def ComesTo : WorkerPhase → RuleCategory → Prop
  | asleep awoken, _ => awoken = true
  | woken _, _ => True
  | passing _ left, category => category ∈ left
  | starting, _ | tired, _ | stopped, _ => False

/-- The steps that the worker makes until it comes to a category, when it finds a wake-up before it
sleeps. -/
def stepsTo (category : RuleCategory) : WorkerPhase → Nat
  | passing _ left =>
    if category ∈ left then left.idxOf category + 1
    else left.length + RuleCategory.all.idxOf category + 6
  | starting => RuleCategory.all.idxOf category + 5
  | tired => RuleCategory.all.idxOf category + 4
  | asleep _ => RuleCategory.all.idxOf category + 3
  | woken _ => RuleCategory.all.idxOf category + 2
  | stopped => 0

theorem stepsTo_pos {phase : WorkerPhase} (h : phase ≠ stopped) (category : RuleCategory) :
    0 < phase.stepsTo category := by
  unfold stepsTo
  split
  case h_6 => contradiction
  case h_1 => split <;> omega
  all_goals omega

/-- The wake-ups that have come to the worker and are not used up by a pass. -/
def wakeUps : WorkerPhase → Nat
  | asleep awoken => awoken.toNat
  | woken _ => 1
  | passing _ _ | starting | tired | stopped => 0

/-- The passes that are under way. -/
def passes : WorkerPhase → Nat
  | passing _ _ => 1
  | starting | tired | asleep _ | woken _ | stopped => 0

end WorkerPhase

namespace RefreshWorker

/-- The worker comes to a category before it goes to sleep without a wake-up. -/
def Due (worker : RefreshWorker) (category : RuleCategory) : Prop :=
  worker.permit = true ∨ worker.phase.ComesTo category

/-- No wake-up is there for the worker, and it sleeps or goes to sleep next. -/
def Rests (worker : RefreshWorker) : Prop :=
  worker.permit = false ∧ worker.phase ∈ [.starting, .tired, .asleep false]

theorem Rests.not_due {worker : RefreshWorker} (h : worker.Rests) {category : RuleCategory} :
    ¬ worker.Due category := by
  obtain ⟨hpermit, hphase⟩ := h
  simp only [List.mem_cons, List.not_mem_nil, or_false] at hphase
  rcases hphase with phase | phase | phase <;>
    simp [Due, hpermit, phase, WorkerPhase.ComesTo]

/-- The steps of a worker: the category whose refresh starts, and the worker afterwards. -/
inductive Worked (worker : RefreshWorker) : Option RuleCategory → RefreshWorker → Prop
  | stop (stopping : worker.shuttingDown = true) :
      Worked worker none { worker with phase := .stopped }
  | tire (phase : worker.phase = .starting) (running : worker.shuttingDown = false) :
      Worked worker none { worker with phase := .tired }
  | sleep (phase : worker.phase = .tired) :
      Worked worker none { worker with permit := false, phase := .asleep worker.permit }
  | wake (phase : worker.phase = .asleep true) :
      Worked worker none { worker with phase := .woken false }
  | tick {awoken : Bool} {ticks : Nat} (phase : worker.phase = .asleep awoken)
      (ended : worker.ticks = ticks + 1) :
      Worked worker none
        { worker with ticks, permit := worker.permit || awoken, phase := .woken true }
  | begin {scheduled : Bool} (phase : worker.phase = .woken scheduled)
      (running : worker.shuttingDown = false) :
      Worked worker none { worker with phase := .passing scheduled RuleCategory.all }
  | refresh {scheduled : Bool} {category : RuleCategory} {left : List RuleCategory}
      (phase : worker.phase = .passing scheduled (category :: left)) :
      Worked worker (some category)
        { worker.setPending category false with phase := .passing scheduled left }
  | skip {scheduled : Bool} {category : RuleCategory} {left : List RuleCategory}
      (phase : worker.phase = .passing scheduled (category :: left))
      (unmarked : worker.pending category = false) :
      Worked worker none { worker.setPending category false with phase := .passing scheduled left }
  | complete {scheduled : Bool} (phase : worker.phase = .passing scheduled []) :
      Worked worker none { worker with passes := worker.passes + 1, phase := .starting }

theorem worked_of_tick? {worker next : RefreshWorker} (h : worker.tick? = some next) :
    worker.Worked none next := by
  unfold tick? at h
  split at h
  next awoken ticks phase ended =>
    cases h
    exact .tick phase ended
  next => cases h

theorem worked_of_step? {worker next : RefreshWorker} {started : Option RuleCategory}
    (h : worker.step? = some (started, next)) : worker.Worked started next := by
  unfold step? at h
  split at h
  case h_1 phase =>
    by_cases stopping : worker.shuttingDown = true
    · rw [if_pos stopping] at h
      cases h
      exact .stop stopping
    · rw [if_neg stopping] at h
      cases h
      exact .tire phase (Bool.eq_false_of_not_eq_true stopping)
  case h_2 phase =>
    cases h
    exact .sleep phase
  case h_3 phase =>
    cases h
    exact .wake phase
  case h_4 phase =>
    obtain ⟨woken, htick, hwoken⟩ := Option.map_eq_some_iff.1 h
    cases hwoken
    exact worked_of_tick? htick
  case h_5 scheduled phase =>
    by_cases stopping : worker.shuttingDown = true
    · rw [if_pos stopping] at h
      cases h
      exact .stop stopping
    · rw [if_neg stopping] at h
      cases h
      exact .begin phase (Bool.eq_false_of_not_eq_true stopping)
  case h_6 scheduled category left phase =>
    by_cases due : (worker.pending category || scheduled) = true
    · rw [if_pos due] at h
      cases h
      exact .refresh phase
    · rw [if_neg due] at h
      cases h
      simp only [Bool.or_eq_true, not_or, Bool.not_eq_true] at due
      exact .skip phase due.1
  case h_7 scheduled phase =>
    cases h
    exact .complete phase
  case h_8 => cases h

/-- The periods that have ended since the start. -/
def ended (worker : RefreshWorker) : Nat :=
  match worker.period with
  | some period => worker.elapsed / period
  | none => 0

/-- The passes that are complete or under way, and those that wake-ups are there for. -/
def passesAhead (worker : RefreshWorker) : Nat :=
  worker.passes + worker.phase.passes +
    if worker.shuttingDown then 0
    else worker.permit.toNat + worker.ticks + worker.phase.wakeUps

/-! ## What a step of the worker keeps -/

section Worked

variable {worker next : RefreshWorker} {started : Option RuleCategory}

theorem Worked.shuttingDown (h : worker.Worked started next) :
    next.shuttingDown = worker.shuttingDown := by
  cases h <;> rfl

theorem Worked.ended (h : worker.Worked started next) : next.ended = worker.ended := by
  cases h <;> rfl

/-- A worker that has stopped starts no refresh. -/
theorem Worked.stopped (h : worker.Worked started next) (stopped : worker.phase = .stopped) :
    started = none ∧ next.phase = .stopped := by
  cases h with
  | stop => exact ⟨rfl, rfl⟩
  | tire phase | sleep phase | wake phase | tick phase | begin phase | refresh phase | skip phase
  | complete phase => cases stopped.symm.trans phase

/-- A mark is taken back only in a pass, and only where a refresh starts. -/
theorem Worked.pending (h : worker.Worked started next) (category : RuleCategory) :
    next.pending category = (worker.pending category && started != some category) := by
  cases h with
  | stop | tire | sleep | wake | tick | begin | complete => simp
  | @refresh scheduled first left phase =>
    by_cases hfirst : category = first
    · simp [setPending, hfirst]
    · simp [setPending, hfirst, Ne.symm hfirst]
  | @skip scheduled first left phase unmarked =>
    by_cases hfirst : category = first
    · simp [setPending, hfirst, unmarked]
    · simp [setPending, hfirst]

/-- A step leaves the worker bound to come to a category that is still marked. -/
theorem Worked.due (h : worker.Worked started next) (running : worker.shuttingDown = false)
    {category : RuleCategory} (due : worker.Due category) (marked : next.pending category = true) :
    next.Due category := by
  cases h with
  | stop stopping => rw [running] at stopping; cases stopping
  | tire phase => simpa [Due, phase, WorkerPhase.ComesTo] using due
  | sleep phase => simpa [Due, phase, WorkerPhase.ComesTo] using due
  | wake | tick => exact .inr trivial
  | begin phase => exact .inr (RuleCategory.mem_all category)
  | @refresh scheduled first left phase | @skip scheduled first left phase =>
    have hfirst : category ≠ first := by
      rintro rfl
      simp [setPending] at marked
    simpa [Due, phase, WorkerPhase.ComesTo, setPending, hfirst] using due
  | complete phase => simpa [Due, phase, WorkerPhase.ComesTo] using due

/-- A step brings the worker nearer to a category that is marked, or to it. -/
theorem Worked.stepsTo_lt (h : worker.Worked started next) (running : worker.shuttingDown = false)
    {category : RuleCategory} (marked : worker.pending category = true)
    (hstarted : started ≠ some category) :
    next.phase.stepsTo category < worker.phase.stepsTo category := by
  cases h with
  | stop stopping => cases running.symm.trans stopping
  | tire phase | sleep phase | wake phase | tick phase | complete phase =>
    simp [phase, WorkerPhase.stepsTo]
  | begin phase =>
    simp [phase, WorkerPhase.stepsTo, RuleCategory.mem_all]
  | @refresh scheduled first left phase | @skip scheduled first left phase unmarked =>
    have hfirst : first ≠ category := by
      rintro rfl
      simp_all
    simp only [phase, WorkerPhase.stepsTo, List.mem_cons, hfirst.symm, false_or]
    split
    · simp [List.idxOf_cons_ne left hfirst]
    · simp only [List.length_cons]
      omega

theorem Worked.runs (h : worker.Worked started next) (running : worker.shuttingDown = false) :
    next.phase ≠ .stopped := by
  cases h with
  | stop stopping => cases running.symm.trans stopping
  | tire | sleep | wake | tick | begin | refresh | skip | complete => simp

/-- A worker goes to sleep with the permit, if there is one. -/
theorem Worked.idle (h : worker.Worked started next) (idle : next.phase = .asleep false) :
    next.permit = false := by
  cases h with
  | sleep => rfl
  | stop | tire | wake | tick | begin | refresh | skip | complete => simp at idle

theorem Worked.passesAhead_le (h : worker.Worked started next) :
    next.passesAhead ≤ worker.passesAhead := by
  simp only [passesAhead, h.shuttingDown]
  cases h with
  | stop stopping => simp [stopping, WorkerPhase.passes]
  | tire phase | sleep phase | wake phase | refresh phase | skip phase | complete phase =>
    simp only [phase, WorkerPhase.passes, WorkerPhase.wakeUps, setPending]
    split <;> simp <;> omega
  | @tick awoken ticks phase ended =>
    have hpermit : (worker.permit || awoken).toNat ≤ worker.permit.toNat + awoken.toNat := by
      cases worker.permit <;> cases awoken <;> decide
    simp only [phase, ended, WorkerPhase.passes, WorkerPhase.wakeUps]
    split <;> omega
  | begin phase running =>
    simp only [phase, running, WorkerPhase.passes, WorkerPhase.wakeUps]
    simp
    omega

end Worked

/-! ## Wake-ups -/

section Notify

variable (worker : RefreshWorker)

@[simp] theorem notify_pending : worker.notify.pending = worker.pending := by
  unfold notify
  split <;> rfl

@[simp] theorem notify_shuttingDown : worker.notify.shuttingDown = worker.shuttingDown := by
  unfold notify
  split <;> rfl

@[simp] theorem notify_ended : worker.notify.ended = worker.ended := by
  unfold notify
  split <;> rfl

theorem notify_due (category : RuleCategory) : worker.notify.Due category := by
  unfold notify
  split
  · exact .inr rfl
  · exact .inl rfl

theorem notify_idle : worker.notify.phase ≠ .asleep false := by
  unfold notify
  split
  case h_1 => simp
  case h_2 awake => exact awake

@[simp] theorem notify_stepsTo (category : RuleCategory) :
    worker.notify.phase.stepsTo category = worker.phase.stepsTo category := by
  unfold notify
  split <;> simp [WorkerPhase.stepsTo, *]

theorem notify_stopped : worker.notify.phase = .stopped ↔ worker.phase = .stopped := by
  unfold notify
  split <;> simp [*]

/-- A worker that shuts down makes no pass for a wake-up. -/
theorem notify_passesAhead (stopping : worker.shuttingDown = true) :
    worker.notify.passesAhead = worker.passesAhead := by
  unfold notify
  split <;> simp [passesAhead, WorkerPhase.passes, *]

theorem notify_passesAhead_le : worker.notify.passesAhead ≤ worker.passesAhead + 1 := by
  unfold notify
  split
  case h_1 phase =>
    simp only [passesAhead, phase, WorkerPhase.passes, WorkerPhase.wakeUps, Bool.toNat_true,
      Bool.toNat_false]
    split <;> omega
  case h_2 =>
    have hpermit := worker.permit.toNat_le
    simp only [passesAhead, Bool.toNat_true]
    split <;> omega

end Notify

/-- Time that passes adds to the ticks what it adds to the periods that have ended. -/
theorem elapse_passesAhead_le (worker : RefreshWorker) (seconds : Nat) :
    (worker.elapse seconds).passesAhead + worker.ended ≤
      worker.passesAhead + (worker.elapse seconds).ended := by
  have hended : worker.ticksWithin seconds + worker.ended = (worker.elapse seconds).ended := by
    simp only [ticksWithin, ended, elapse]
    cases worker.period with
    | none => rfl
    | some period => exact Nat.sub_add_cancel (Nat.div_le_div_right (Nat.le_add_right _ _))
  have hpasses : (worker.elapse seconds).passesAhead ≤
      worker.passesAhead + worker.ticksWithin seconds := by
    cases stopping : worker.shuttingDown <;>
      simp only [passesAhead, elapse, stopping, if_true, Bool.false_eq_true, if_false] <;> omega
  omega

end RefreshWorker

end FisheryRules
