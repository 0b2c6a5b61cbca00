import FisheryRules.Proofs.Response.Frames

/-!
# Records of incidents

Tickets and alarms are recorded in four places: the incident store, the audit log, the announced
events, and the summary of the dispatch. Whatever calls fail, the four tell of the same incidents in
the same order. The journal shows what the first three were told.

Every incident is registered, and a registration is recorded as a whole or fails. All other tasks
leave no trace of incidents, so the records of a run are those of its registrations.

## Main definitions

* `Services.Books` — what the journal tells of incidents.
* `Dispatch.Recorded` — what the summary of a dispatch tells of incidents.
* `Dispatch.Job` — dispatch of firings, or a check of reports.

## Main results

* `Dispatch.dispatchAll_recorded`, `Dispatch.checkReports_recorded` — the parts of the dispatch.
* `Dispatch.runJobs_records` — the four records agree over any run.
-/
namespace FisheryRules

/-! ## What the records show -/

/-- What is given up when a call fails that an incident depends on. -/
def Call.incidentWork? : Call → Option Undertaking
  | .createTicket _ | .findOpenTicket _ => some (.action .ticket)
  | .createAlarm _ => some .alarm
  | _ => none

namespace JournalEntry

/-- The incident that was created. -/
def created? : JournalEntry → Option Incident
  | .call (.createTicket ticket) true => some (.ticket ticket)
  | .call (.createAlarm alarm) true => some (.alarm alarm)
  | _ => none

/-- The object, the subject and the author of a creation that the audit log was to note, whether it
could or not. -/
def audited? : JournalEntry → Option (AuditObject × String × String)
  | .call (.audit object .create subject actor) _ => some (object, subject, actor)
  | _ => none

/-- What was given up because of a failed call, and the error. -/
def refused? (fault : Call → Option CallError) :
    JournalEntry → Option (Undertaking × Option DispatchError)
  | .call failed false =>
      failed.incidentWork?.map fun work => (work, (fault failed).map DispatchError.call)
  | _ => none

end JournalEntry

/-- What was given up in further entries of the journal. -/
def Services.refused (services : Services) (entries : List JournalEntry) :
    List (Undertaking × Option DispatchError) :=
  (entries.zipIdx services.journal.length).filterMap fun (entry, journaled) =>
    entry.refused? (services.faults journaled)

/-- The failures in a summary that are about incidents. -/
def Summary.refused (summary : Summary) : List (Undertaking × Option DispatchError) :=
  (summary.failed.filter fun failed =>
    failed.action == .alarm || failed.action == .action .ticket).map fun failed =>
      (failed.action, some failed.error)

/-- The services have the incidents `made` on their books, and the failures `refused`. -/
structure Services.Books (config : DispatchConfig) (before after : Services)
    (entries : List JournalEntry) (made : List Incident)
    (refused : List (Undertaking × Option DispatchError)) : Prop where
  journal : after.journal = before.journal ++ entries
  faults : after.faults = before.faults
  stored : after.incidents = made.foldl Incident.addTo before.incidents
  created : entries.filterMap JournalEntry.created? = made
  audited : entries.filterMap JournalEntry.audited? = made.map (Incident.audited config)
  announced : entries.filterMap JournalEntry.event? = made.flatMap Incident.announced
  refused : before.refused entries = refused

namespace Services

variable {config : DispatchConfig} {before between after : Services}

/-- Only the journal, the faults and the incidents of the services matter to the books. -/
theorem Books.unchanged (hjournal : after.journal = before.journal)
    (hfaults : after.faults = before.faults) (hincidents : after.incidents = before.incidents) :
    before.Books config after [] [] [] := by
  constructor <;> simp [hjournal, hfaults, hincidents, Services.refused]

theorem Books.trans {entries entries' : List JournalEntry} {made made' : List Incident}
    {refused refused' : List (Undertaking × Option DispatchError)}
    (h : before.Books config between entries made refused)
    (h' : between.Books config after entries' made' refused') :
    before.Books config after (entries ++ entries') (made ++ made') (refused ++ refused') where
  journal := by rw [h'.journal, h.journal, List.append_assoc]
  faults := h'.faults.trans h.faults
  stored := by rw [h'.stored, h.stored, List.foldl_append]
  created := by rw [List.filterMap_append, h.created, h'.created]
  audited := by rw [List.filterMap_append, h.audited, h'.audited, List.map_append]
  announced := by rw [List.filterMap_append, h.announced, h'.announced, List.flatMap_append]
  refused := by
    rw [← h.refused, ← h'.refused, Services.refused, Services.refused, Services.refused, h.faults,
      h.journal, List.zipIdx_append, List.filterMap_append, List.length_append]

/-- No incident is on the books. -/
def Quiet (config : DispatchConfig) (before after : Services) : Prop :=
  ∃ entries, before.Books config after entries [] []

theorem Quiet.unchanged (hjournal : after.journal = before.journal)
    (hfaults : after.faults = before.faults) (hincidents : after.incidents = before.incidents) :
    before.Quiet config after := ⟨[], .unchanged hjournal hfaults hincidents⟩

theorem Quiet.refl (services : Services) : services.Quiet config services :=
  .unchanged rfl rfl rfl

theorem Quiet.trans (h : before.Quiet config between) (h' : between.Quiet config after) :
    before.Quiet config after := by
  obtain ⟨entries, hbooks⟩ := h
  obtain ⟨entries', hbooks'⟩ := h'
  exact ⟨entries ++ entries', hbooks.trans hbooks'⟩

end Services

/-! ## Tasks that leave no trace of incidents -/

/-- A call that does not bear on incidents is noted. -/
theorem Services.quiet_note (config : DispatchConfig) (services : Services) {call : Call}
    (hcall : call.Idle) (succeeded : Bool) :
    services.Quiet config (services.note (.call call succeeded)) := by
  refine ⟨[.call call succeeded], rfl, rfl, rfl, ?_, ?_, rfl, ?_⟩ <;>
    rcases call with _ | _ | _ | _ | _ | _ | _ | _ | _ | ⟨_, _ | _ | _, _, _⟩ <;>
      cases succeeded <;> first | rfl | exact hcall.elim

/-- The task leaves no trace of incidents. -/
def IsQuiet (config : DispatchConfig) {α : Type} (task : Task α) : Prop :=
  ∀ services : Services, services.Quiet config (task services).2

/-- Tasks that only make calls that do not bear on incidents leave no trace of any. -/
theorem Services.isFrame_quiet (config : DispatchConfig) : IsFrame (Quiet config) where
  refl := .refl
  trans := .trans
  noted services _ idle := services.quiet_note config idle
  marked _ := .unchanged rfl rfl rfl

/-! ## Creation of an incident -/

namespace Incident

variable (config : DispatchConfig) (incident : Incident)

/-- The journal shows the creation of an incident to all that are told of it. -/
theorem books_entries (recorded : Bool) (services : Services) :
    services.Books config { services with
      incidents := incident.addTo services.incidents
      journal := services.journal ++ incident.entries config recorded }
      (incident.entries config recorded) [incident] [] := by
  refine ⟨rfl, rfl, rfl, ?_, ?_, ?_, ?_⟩ <;> cases incident <;> cases recorded <;> rfl

/-- The journal shows that the creation of an incident failed. -/
theorem books_refusal {services : Services} {error : CallError}
    (h : services.faults services.journal.length incident.creation = some error) :
    services.Books config (services.note (.call incident.creation false))
      [.call incident.creation false] [] [(incident.undertaking, some (.call error))] := by
  refine ⟨rfl, rfl, rfl, ?_, ?_, rfl, ?_⟩
  · cases incident <;> rfl
  · cases incident <;> rfl
  · have hwork : incident.creation.incidentWork? = some incident.undertaking := by
      cases incident <;> rfl
    simp [Services.refused, JournalEntry.refused?, hwork, h]

end Incident

/-! ## What a summary shows -/

/-- The summary tells of the incidents `made` and the failures `refused`. -/
structure Summary.Shows (summary : Summary) (made : List Incident)
    (refused : List (Undertaking × Option DispatchError)) : Prop where
  tickets : summary.tickets = made.filterMap Incident.ticket?
  alarms : summary.alarms = made.filterMap Incident.alarm?
  refused : summary.refused = refused

theorem Summary.Shows.append {summary summary' : Summary} {made made' : List Incident}
    {refused refused' : List (Undertaking × Option DispatchError)}
    (h : summary.Shows made refused) (h' : summary'.Shows made' refused') :
    (summary ++ summary').Shows (made ++ made') (refused ++ refused') where
  tickets := by rw [List.filterMap_append, ← h.tickets, ← h'.tickets]; rfl
  alarms := by rw [List.filterMap_append, ← h.alarms, ← h'.alarms]; rfl
  refused := by
    rw [← h.refused, ← h'.refused, Summary.refused, Summary.failed_append, List.filter_append,
      List.map_append]
    rfl

/-- The summary of a failed action that is about no incident shows nothing of incidents. -/
theorem Summary.shows_failure {action : Undertaking} (hticket : action ≠ .action .ticket)
    (halarm : action ≠ .alarm) (error : DispatchError) :
    (Summary.failure action error).Shows [] [] := by
  refine ⟨rfl, rfl, ?_⟩
  simp [Summary.refused, Summary.failure, hticket, halarm]

namespace Dispatch

variable {config : DispatchConfig} {before between after : Services}

/-- The summary of a part of the dispatch tells of the incidents on the books. -/
def Recorded (config : DispatchConfig) (before : Services) (result : Summary × Services) : Prop :=
  ∃ entries made refused, before.Books config result.2 entries made refused ∧
    result.1.Shows made refused

theorem Recorded.append {first rest : Summary} (h : Recorded config before (first, between))
    (h' : Recorded config between (rest, after)) :
    Recorded config before (first ++ rest, after) := by
  obtain ⟨entries, made, refused, hbooks, hshows⟩ := h
  obtain ⟨entries', made', refused', hbooks', hshows'⟩ := h'
  exact ⟨_, _, _, hbooks.trans hbooks', hshows.append hshows'⟩

/-- A part of the dispatch that follows on work without incidents. -/
theorem Recorded.after_quiet {result : Summary × Services} (hquiet : before.Quiet config between)
    (h : Recorded config between result) : Recorded config before result := by
  obtain ⟨entries, hbooks⟩ := hquiet
  obtain ⟨entries', made, refused, hbooks', hshows⟩ := h
  exact ⟨_, _, _, hbooks.trans hbooks', hshows⟩

theorem Recorded.of_quiet {summary : Summary} (hquiet : before.Quiet config after)
    (hshows : summary.Shows [] []) : Recorded config before (summary, after) := by
  obtain ⟨entries, hbooks⟩ := hquiet
  exact ⟨_, _, _, hbooks, hshows⟩

theorem recorded_nothing (services : Services) : Recorded config services ({}, services) :=
  .of_quiet (.refl services) ⟨rfl, rfl, rfl⟩

/-- A summary that tells of an incident, if it could be registered, and of the failure otherwise. -/
theorem register_recorded {α : Type} {incident : Incident} {a : α} {services : Services}
    (summary : Except DispatchError α → Summary) (hok : (summary (.ok a)).Shows [incident] [])
    (herror : ∀ error, (summary (.error error)).Shows [] [(incident.undertaking, some error)]) :
    let result := incident.register config a services
    Recorded config services (summary result.1, result.2) := by
  obtain ⟨error, hfault, hregister⟩ | ⟨-, recorded, hregister⟩ :=
    incident.register_cases config a services
  · rw [hregister]
    exact ⟨_, _, _, incident.books_refusal config hfault, herror _⟩
  · rw [hregister]
    exact ⟨_, _, _, incident.books_entries config recorded services, hok⟩

/-! ## The parts of the dispatch -/

variable (config) (ruleName ruleGuid : String) (movement : Movement) (services : Services)

theorem quiet_drawn : services.Quiet config services.drawn := .unchanged rfl rfl rfl

/-- The ticket of a custom rule. -/
theorem openRuleTicket_recorded (summary : Except DispatchError Ticket → Summary)
    (hok : ∀ ticket, (summary (.ok ticket)).Shows [.ticket ticket] [])
    (herror : ∀ error, (summary (.error error)).Shows [] [(.action .ticket, some error)]) :
    let result := openRuleTicket config ruleName ruleGuid movement services
    Recorded config services (summary result.1, result.2) := by
  obtain ⟨ticket, hticket⟩ := openRuleTicket_eq config ruleName ruleGuid movement services
  rw [hticket]
  exact .after_quiet (quiet_drawn config services) (register_recorded summary (hok ticket) herror)

/-- A declared action that opens no ticket. -/
theorem ofAction_recorded {α : Type} {kind : ActionKind} (hkind : kind ≠ .ticket) {errand : Task α}
    (h : IsQuiet config errand) :
    let result := (errand >>= fun _ => pure none) services
    Recorded config services (.ofAction kind result.1, result.2) := by
  rw [Task.bind_pure_eq]
  refine .of_quiet (h services) ?_
  cases (errand services).1 with
  | ok a => exact ⟨rfl, rfl, rfl⟩
  | error error => exact Summary.shows_failure (by simpa using hkind) (by simp) error

theorem runAction_recorded (action : DeclaredAction) :
    let result := runAction config action ruleName ruleGuid movement services
    Recorded config services (.ofAction action.kind result.1, result.2) := by
  have hframe := Services.isFrame_quiet config
  obtain ⟨kind, value⟩ := action
  cases kind with
  | email =>
    simp only [runAction]
    rw [← bind_assoc]
    refine ofAction_recorded config services (by simp) ?_
    exact Task.Within.bind hframe (requiredValue_within hframe _) fun _ =>
      sendMail_within hframe config _ _ _
  | sendToEndpoint =>
    simp only [runAction]
    rw [← bind_assoc]
    refine ofAction_recorded config services (by simp) ?_
    exact Task.Within.bind hframe (requiredValue_within hframe _) fun _ =>
      sendReport_within hframe config _ _ _
  | ticket =>
    cases hpolicy : config.policy with
    | always =>
      simp only [runAction, hpolicy]
      exact .of_quiet (.refl services) ⟨rfl, rfl, rfl⟩
    | ifDeclared =>
      simp only [runAction, hpolicy, Task.bind_pure_eq]
      exact openRuleTicket_recorded config ruleName ruleGuid movement services
        (fun result => .ofAction .ticket (result.map some)) (fun ticket => ⟨rfl, rfl, rfl⟩)
        fun error => ⟨rfl, rfl, rfl⟩
  | manualPoll | onHold | sms | topBarNotification =>
    exact .of_quiet (.refl services) ⟨rfl, rfl, rfl⟩

/-- Declared actions, one after the other. -/
theorem runActions_recorded (actions : List DeclaredAction) :
    Recorded config services (runActions config ruleName ruleGuid movement actions services) := by
  induction actions generalizing services with
  | nil => exact recorded_nothing services
  | cons action others ih =>
    rw [runActions_cons]
    exact (runAction_recorded config ruleName ruleGuid movement services action).append (ih _)

/-- Mails to subscribers, one after the other. -/
theorem mailEach_recorded (owners : List String) :
    Recorded config services (mailEach config ruleName movement owners services) := by
  induction owners generalizing services with
  | nil => exact recorded_nothing services
  | cons owner others ih =>
    rw [mailEach_cons]
    have hquiet := mailSubscriber_within (Services.isFrame_quiet config) config owner ruleName
      movement services
    refine .append (.of_quiet hquiet ?_) (ih _)
    cases (mailSubscriber config owner ruleName movement services).1 with
    | ok => exact ⟨rfl, rfl, rfl⟩
    | error error => exact Summary.shows_failure (by simp) (by simp) error

theorem mailSubscribers_recorded :
    Recorded config services (mailSubscribers config ruleName ruleGuid movement services) := by
  rw [mailSubscribers_eq]
  refine .after_quiet (findRule_within (Services.isFrame_quiet config) ruleGuid services) ?_
  generalize findRule ruleGuid services = found
  obtain ⟨result, next⟩ := found
  match result with
  | .ok (some rule) => exact mailEach_recorded config ruleName movement next rule.emailSubscribers
  | .ok none => exact recorded_nothing next
  | .error error =>
    exact .of_quiet (.refl next) (Summary.shows_failure (by simp) (by simp) error)

/-- What every firing of a custom rule entails. -/
theorem entailed_recorded :
    Recorded config services (entailed config ruleName ruleGuid movement services) := by
  cases hpolicy : config.policy with
  | ifDeclared =>
    rw [entailed_ifDeclared _ _ _ _ _ hpolicy]
    exact recorded_nothing services
  | always =>
    rw [entailed_always _ _ _ _ _ hpolicy]
    refine .append (openRuleTicket_recorded config ruleName ruleGuid movement services
      (fun result => .ofTicket (result.map some)) (fun ticket => ⟨rfl, rfl, rfl⟩)
        fun error => ⟨rfl, rfl, rfl⟩)
      (mailSubscribers_recorded config ruleName ruleGuid movement _)

theorem customRuleFired_recorded (firing : Firing) (actions : String) :
    Recorded config services
      (customRuleFired config firing ruleGuid actions movement services) :=
  .after_quiet
    (markTriggered_within (Services.isFrame_quiet config) ruleGuid firing.firedAt services)
    (.append (entailed_recorded config firing.ruleName ruleGuid movement _)
      (runActions_recorded config firing.ruleName ruleGuid movement _ _))

/-- The summary of an alarm. -/
def ofAlarm : Except DispatchError Alarm → Summary
  | .ok alarm => { alarms := [alarm] }
  | .error error => .failure .alarm error

theorem dispatch_alarm {firing : Firing} (h : firing.effect = .alarm) :
    dispatch config firing services =
      (ofAlarm (raiseAlarm config firing services).1, (raiseAlarm config firing services).2) := by
  rw [dispatch, h]
  change (match (raiseAlarm config firing services).1 with
    | .ok alarm => pure { alarms := [alarm] }
    | .error error => pure (.failure .alarm error) : StateM Services Summary)
      (raiseAlarm config firing services).2 = _
  cases (raiseAlarm config firing services).1 <;> rfl

/-- The dispatch of a firing. -/
theorem dispatch_recorded (firing : Firing) :
    Recorded config services (dispatch config firing services) := by
  cases heffect : firing.effect with
  | alarm =>
    rw [dispatch_alarm config services heffect]
    obtain ⟨alarm, halarm⟩ := raiseAlarm_eq config services firing
    rw [halarm]
    exact .after_quiet ((quiet_drawn config services).trans (quiet_drawn config services.drawn))
      (register_recorded ofAlarm ⟨rfl, rfl, rfl⟩ fun error => ⟨rfl, rfl, rfl⟩)
  | custom ruleGuid actions =>
    rw [dispatch, heffect]
    cases firing.fact with
    | movement movement =>
      exact customRuleFired_recorded config ruleGuid movement services firing actions
    | _ => exact .of_quiet (.refl services) (Summary.shows_failure (by simp) (by simp) _)
  | outcome =>
    rw [dispatch, heffect]
    exact recorded_nothing services

/-- The dispatch of firings, one after the other. -/
theorem dispatchAll_recorded (firings : List Firing) :
    Recorded config services (dispatchAll config firings services) := by
  induction firings generalizing services with
  | nil => exact recorded_nothing services
  | cons firing others ih => exact .append (dispatch_recorded config services firing) (ih _)

/-- The call that asks for an open ticket creates nothing, and is a failure that is told of. -/
theorem books_asked (vessel : String) {fault : Option CallError}
    (hfault : services.faults services.journal.length (.findOpenTicket vessel) = fault) :
    services.Books config (services.note (.call (.findOpenTicket vessel) fault.isNone))
      [.call (.findOpenTicket vessel) fault.isNone] []
      (fault.toList.map fun error => (.action .ticket, some (.call error))) := by
  refine ⟨rfl, rfl, rfl, rfl, rfl, rfl, ?_⟩
  cases fault with
  | none => rfl
  | some error => simp [Services.refused, JournalEntry.refused?, Call.incidentWork?, hfault]

/-- The check of a report of a silent vessel. -/
theorem vesselSilent_recorded (report : PreviousReport) :
    let result := vesselSilent config ruleGuid report services
    Recorded config services (.ofTicket result.1, result.2) := by
  have hasked := books_asked config services report.vesselGuid rfl
  rw [vesselSilent_eq]
  cases hfault : services.faults services.journal.length (.findOpenTicket report.vesselGuid) with
  | some error =>
    rw [hfault] at hasked
    exact ⟨_, _, _, hasked, rfl, rfl, rfl⟩
  | none =>
    rw [hfault] at hasked
    have hquiet : services.Quiet config _ := ⟨_, hasked⟩
    dsimp only
    split
    · exact .of_quiet hquiet ⟨rfl, rfl, rfl⟩
    · exact .after_quiet (hquiet.trans (quiet_drawn config _))
        (register_recorded (fun result => .ofTicket (result.map some)) ⟨rfl, rfl, rfl⟩
          fun error => ⟨rfl, rfl, rfl⟩)

/-- The check of reports, one after the other. -/
theorem checkReports_recorded (now : Instant) (reports : List PreviousReport) :
    Recorded config services (checkReports config now reports services) := by
  induction reports generalizing services with
  | nil => exact recorded_nothing services
  | cons report others ih =>
    by_cases hsilent : report.isSilent now config.silenceThreshold = true
    · rw [checkReports_cons_silent config services hsilent]
      exact .append (vesselSilent_recorded config silenceRule services report) (ih _)
    · rw [checkReports_cons_heard config services hsilent]
      exact ih services

/-! ## Runs of the dispatch -/

/-- What the dispatch is asked to do. -/
inductive Job
  /-- Carry out what firings ask for. -/
  | firings (fired : List Firing)
  /-- Open tickets for the vessels that have been silent too long at an instant. -/
  | reports (now : Instant) (listed : List PreviousReport)

/-- Does a job. -/
def Job.run : Job → StateM Services Summary
  | .firings fired => dispatchAll config fired
  | .reports now listed => checkReports config now listed

/-- Does jobs, one after the other. -/
def runJobs : List Job → StateM Services Summary
  | [] => return {}
  | job :: others => do
    let first ← job.run config
    let rest ← runJobs others
    return first ++ rest

theorem runJobs_cons (job : Job) (others : List Job) :
    runJobs config (job :: others) services =
      let first := job.run config services
      let rest := runJobs config others first.2
      (first.1 ++ rest.1, rest.2) := rfl

theorem run_recorded (job : Job) : Recorded config services (job.run config services) := by
  cases job with
  | firings fired => exact dispatchAll_recorded config services fired
  | reports now listed => exact checkReports_recorded config services now listed

theorem runJobs_recorded (jobs : List Job) :
    Recorded config services (runJobs config jobs services) := by
  induction jobs generalizing services with
  | nil => exact recorded_nothing services
  | cons job others ih => exact .append (run_recorded config services job) (ih _)

/-! ## Firings that only record an outcome -/

/-- The firing only records an outcome on its fact. -/
def isOutcome (firing : Firing) : Bool :=
  match firing.effect with
  | .outcome .. => true
  | _ => false

theorem dispatch_outcome {firing : Firing} (h : isOutcome firing = true) :
    dispatch config firing services = ({}, services) := by
  rw [isOutcome] at h
  split at h
  · next heffect =>
    rw [dispatch, heffect]
    rfl
  · cases h

theorem dispatchAll_cons (firing : Firing) (others : List Firing) :
    dispatchAll config (firing :: others) services =
      let first := dispatch config firing services
      let rest := dispatchAll config others first.2
      (first.1 ++ rest.1, rest.2) := rfl

/-- Firings that only record an outcome might as well not be dispatched. -/
theorem dispatchAll_filter (firings : List Firing) :
    dispatchAll config (firings.filter fun firing => !isOutcome firing) services =
      dispatchAll config firings services := by
  induction firings generalizing services with
  | nil => rfl
  | cons firing others ih =>
    cases houtcome : isOutcome firing with
    | true =>
      rw [List.filter_cons_of_neg (by simp [houtcome]), dispatchAll_cons,
        dispatch_outcome config services houtcome]
      exact ih services
    | false =>
      rw [List.filter_cons_of_pos (by simp [houtcome])]
      simp only [dispatchAll_cons, ih]

/-- The job without the firings that only record an outcome. -/
def Job.withoutOutcomes : Job → Job
  | .firings fired => .firings (fired.filter fun firing => !isOutcome firing)
  | .reports now listed => .reports now listed

theorem runJobs_withoutOutcomes (jobs : List Job) :
    runJobs config (jobs.map Job.withoutOutcomes) services = runJobs config jobs services := by
  induction jobs generalizing services with
  | nil => rfl
  | cons job others ih =>
    have hjob : job.withoutOutcomes.run config services = job.run config services := by
      cases job with
      | firings fired => exact dispatchAll_filter config services fired
      | reports now listed => rfl
    simp only [List.map_cons, runJobs_cons, hjob, ih]

end Dispatch

end FisheryRules
