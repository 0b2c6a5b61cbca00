import FisheryRules.Proofs.Response.IncidentRecords

/-!
# Alarms and the reports that raised them

When alarms are asked for by reports as received only, and the actions of custom rules by enriched
ones only, the dispatch raises alarms that hold the reports that triggered them, and never finds
that a fact is of the wrong kind: `Dispatch.dispatchAll_answers`.

## Main definitions

* `Firing.Suited` — the fact is of the kind that the effect asks for.
* `Alarm.HoldsTrigger` — the alarm holds the report that triggered it.
* `Task.FailsInAction` — the task fails for a call or for a value that an action lacks, if at all.
* `Summary.Answers` — the alarms of a summary hold what triggered them, and no failure is about the
  kind of a fact.
-/
namespace FisheryRules

/-- The fact is of the kind that the effect asks for: reports as received raise alarms, and actions
of custom rules are about enriched ones. -/
def Firing.Suited (firing : Firing) : Prop :=
  match firing.effect with
  | .alarm => ∃ report, firing.fact = .rawMovement report
  | .custom .. => ∃ movement, firing.fact = .movement movement
  | .outcome .. => True

/-- The alarm holds the report that triggered it, with the plugin that it came through and its
asset, and names the rule. -/
def Alarm.HoldsTrigger (alarm : Alarm) (firing : Firing) : Prop :=
  ∃ report, firing.effect = .alarm ∧ firing.fact = .rawMovement report ∧
    alarm.rawMovement = some report ∧ alarm.pluginType = report.pluginType ∧
    alarm.vesselGuid = report.assetGuid ∧ alarm.items.map (·.ruleName) = [firing.ruleName]

/-- A call failed, or an action lacks its value. -/
def DispatchError.InAction : DispatchError → Prop
  | .call _ | .missingValue _ => True
  | .notAMovement _ => False

/-! ## Errors of tasks -/

/-- The task fails for a call or for a value that an action lacks, if at all. -/
def Task.FailsInAction {α : Type} (task : Task α) : Prop :=
  ∀ services error, (task services).1 = .error error → error.InAction

namespace Task.FailsInAction

variable {α β : Type} {task : Task α}

theorem bind {f : α → Task β} (h : task.FailsInAction) (hf : ∀ a, (f a).FailsInAction) :
    (task >>= f).FailsInAction := by
  intro services error herror
  have hfirst := h services
  rw [Task.bind_eq] at herror
  generalize task services = first at hfirst herror
  obtain ⟨result, next⟩ := first
  cases result with
  | ok a => exact hf a next error herror
  | error failure =>
    obtain rfl : failure = error := Except.error.inj herror
    exact hfirst failure rfl

theorem pure (a : α) : (Pure.pure a : Task α).FailsInAction := by
  intro services error herror
  cases herror

theorem throw {error : DispatchError} (h : error.InAction) :
    (MonadExcept.throw error : Task α).FailsInAction := by
  intro services thrown hthrown
  obtain rfl : error = thrown := Except.error.inj hthrown
  exact h

theorem lift (work : StateM Services α) : (liftM work : Task α).FailsInAction := by
  intro services error herror
  cases herror

theorem perform (call : Call) (effect : Services → Except CallError (α × Services)) :
    (FisheryRules.perform call effect).FailsInAction := by
  intro services error herror
  obtain ⟨failure, hfails⟩ | ⟨value, changed, -, hdone⟩ := perform_cases call effect services
  · rw [hfails] at herror
    cases herror
    trivial
  · rw [hdone] at herror
    cases herror

end Task.FailsInAction

namespace Dispatch

variable (config : DispatchConfig) (ruleName ruleGuid : String) (movement : Movement)

theorem requiredValue_failsInAction (action : DeclaredAction) :
    (requiredValue action).FailsInAction := by
  rw [requiredValue]
  split
  · exact .throw trivial
  · exact .pure _

theorem sendMail_failsInAction (address : String) :
    (sendMail config address ruleName movement).FailsInAction :=
  .bind (.perform _ _) fun _ => .lift _

theorem sendReport_failsInAction (endpoint : String) :
    (sendReport config endpoint ruleName movement).FailsInAction :=
  .bind (.perform _ _) fun _ => .bind (.lift _) fun _ => .bind (.perform _ _) fun _ => .lift _

theorem mailSubscriber_failsInAction (owner : String) :
    (mailSubscriber config owner ruleName movement).FailsInAction := by
  refine .bind (.perform _ _) fun address => ?_
  cases address with
  | some address => exact sendMail_failsInAction config ruleName movement address
  | none => exact .pure ()

theorem openRuleTicket_failsInAction :
    (openRuleTicket config ruleName ruleGuid movement).FailsInAction := by
  intro services error herror
  obtain ⟨ticket, hticket⟩ := openRuleTicket_eq config ruleName ruleGuid movement services
  rw [hticket] at herror
  obtain ⟨failure, -, hfails⟩ | ⟨-, recorded, hdone⟩ :=
    (Incident.ticket ticket).register_cases config ticket services.drawn
  · rw [hfails] at herror
    cases herror
    trivial
  · rw [hdone] at herror
    cases herror

theorem runAction_failsInAction (action : DeclaredAction) :
    (runAction config action ruleName ruleGuid movement).FailsInAction := by
  obtain ⟨kind, value⟩ := action
  cases kind with
  | email =>
    exact .bind (requiredValue_failsInAction _) fun address =>
      .bind (sendMail_failsInAction config ruleName movement address) fun _ => .pure none
  | sendToEndpoint =>
    exact .bind (requiredValue_failsInAction _) fun endpoint =>
      .bind (sendReport_failsInAction config ruleName movement endpoint) fun _ => .pure none
  | ticket =>
    cases hpolicy : config.policy with
    | always =>
      simp only [runAction, hpolicy]
      exact .pure none
    | ifDeclared =>
      simp only [runAction, hpolicy]
      exact .bind (openRuleTicket_failsInAction config ruleName ruleGuid movement) fun _ => .pure _
  | manualPoll | onHold | sms | topBarNotification => exact .pure none

end Dispatch

/-! ## Summaries -/

/-- Every alarm is for one of the firings, in their order, and holds the report that triggered it;
and no failure is about the kind of a fact. -/
structure Summary.Answers (summary : Summary) (firings : List Firing) : Prop where
  alarms : ∃ triggers : List Firing, triggers.Sublist firings ∧
    List.Forall₂ Alarm.HoldsTrigger summary.alarms triggers
  failed : ∀ failed ∈ summary.failed, failed.error.InAction

namespace Summary

variable {summary rest : Summary} {firings others : List Firing}

/-- A summary without alarms and failures answers any firings. -/
theorem answers_of_nil (halarms : summary.alarms = []) (hfailed : summary.failed = []) :
    summary.Answers firings where
  alarms := ⟨[], List.nil_sublist _, by rw [halarms]; exact .nil⟩
  failed := by simp [hfailed]

theorem answers_failure (action : Undertaking) {error : DispatchError} (h : error.InAction) :
    (failure action error).Answers firings where
  alarms := ⟨[], List.nil_sublist _, .nil⟩
  failed := by simpa [failure] using h

theorem Answers.append (h : summary.Answers firings) (h' : rest.Answers others) :
    (summary ++ rest).Answers (firings ++ others) where
  alarms := by
    obtain ⟨triggers, hsub, hholds⟩ := h.alarms
    obtain ⟨triggers', hsub', hholds'⟩ := h'.alarms
    exact ⟨triggers ++ triggers', hsub.append hsub', List.rel_append hholds hholds'⟩
  failed := by
    intro failed hfailed
    rw [failed_append] at hfailed
    exact (List.mem_append.1 hfailed).elim (h.failed failed) (h'.failed failed)

/-- The summary of a task, when it is the failure if the task fails. -/
theorem answers_task {α : Type} (firings : List Firing) {task : Task α}
    (htask : task.FailsInAction) (services : Services)
    {f : Except DispatchError α → Summary} (hok : ∀ a, (f (.ok a)).Answers firings)
    {action : Undertaking} (herror : ∀ error, f (.error error) = failure action error) :
    (f (task services).1).Answers firings := by
  cases hresult : (task services).1 with
  | ok a => exact hok a
  | error error =>
    rw [herror]
    exact answers_failure action (htask services error hresult)

end Summary

/-! ## The dispatch -/

namespace Dispatch

variable (config : DispatchConfig) (ruleName ruleGuid : String) (movement : Movement)
  (services : Services)

/-- Declared actions raise no alarms. -/
theorem runActions_answers (actions : List DeclaredAction) :
    (runActions config ruleName ruleGuid movement actions services).1.Answers [] := by
  induction actions generalizing services with
  | nil => exact Summary.answers_of_nil rfl rfl
  | cons action others ih =>
    rw [runActions_cons]
    have hfirst := Summary.answers_task []
      (runAction_failsInAction config ruleName ruleGuid movement action) services
      (f := .ofAction action.kind) (fun _ => Summary.answers_of_nil rfl rfl) fun _ => rfl
    exact hfirst.append (ih _)

theorem mailEach_answers (owners : List String) :
    (mailEach config ruleName movement owners services).1.Answers [] := by
  induction owners generalizing services with
  | nil => exact Summary.answers_of_nil rfl rfl
  | cons owner others ih =>
    rw [mailEach_cons]
    have hfirst := Summary.answers_task []
      (mailSubscriber_failsInAction config ruleName movement owner) services (f := .ofMail)
      (fun _ => Summary.answers_of_nil rfl rfl) fun _ => rfl
    exact hfirst.append (ih _)

theorem mailSubscribers_answers :
    (mailSubscribers config ruleName ruleGuid movement services).1.Answers [] := by
  rw [mailSubscribers_eq]
  have hfound : (findRule ruleGuid).FailsInAction := .perform _ _
  replace hfound := hfound services
  generalize findRule ruleGuid services = found at hfound
  obtain ⟨result, next⟩ := found
  match result with
  | .ok (some rule) => exact mailEach_answers config ruleName movement next rule.emailSubscribers
  | .ok none => exact Summary.answers_of_nil rfl rfl
  | .error error => exact Summary.answers_failure _ (hfound error rfl)

theorem entailed_answers :
    (entailed config ruleName ruleGuid movement services).1.Answers [] := by
  cases hpolicy : config.policy with
  | ifDeclared =>
    rw [entailed_ifDeclared _ _ _ _ _ hpolicy]
    exact Summary.answers_of_nil rfl rfl
  | always =>
    rw [entailed_always _ _ _ _ _ hpolicy]
    have hfirst := Summary.answers_task []
      (openRuleTicket_failsInAction config ruleName ruleGuid movement) services
      (f := fun result => .ofTicket (result.map some))
      (fun _ => Summary.answers_of_nil rfl rfl) fun _ => rfl
    exact hfirst.append (mailSubscribers_answers config ruleName ruleGuid movement _)

/-- What a custom rule asks for raises no alarms. -/
theorem customRuleFired_answers (firing : Firing) (actions : String) :
    (customRuleFired config firing ruleGuid actions movement services).1.Answers [] :=
  (entailed_answers config firing.ruleName ruleGuid movement _).append
    (runActions_answers config firing.ruleName ruleGuid movement _ _)

/-- An alarm for a report as received holds the report. -/
theorem raiseAlarm_holds {firing : Firing} {report : RawMovement} (heffect : firing.effect = .alarm)
    (hfact : firing.fact = .rawMovement report) : ∃ alarm : Alarm, alarm.HoldsTrigger firing ∧
      raiseAlarm config firing services =
        (Incident.alarm alarm).register config alarm services.drawn.drawn := by
  obtain ⟨category, ruleId, ruleName, effect, factId, fact, firedAt⟩ := firing
  cases hfact
  exact ⟨_, ⟨report, heffect, rfl, rfl, rfl, rfl, rfl⟩, rfl⟩

/-- The dispatch of a firing on a fact of the right kind. -/
theorem dispatch_answers {firing : Firing} (h : firing.Suited) :
    (dispatch config firing services).1.Answers [firing] := by
  rw [Firing.Suited] at h
  cases heffect : firing.effect with
  | alarm =>
    rw [heffect] at h
    obtain ⟨report, hfact⟩ := h
    obtain ⟨alarm, hholds, halarm⟩ := raiseAlarm_holds config services heffect hfact
    rw [dispatch_alarm config services heffect, halarm]
    obtain ⟨failure, -, hfails⟩ | ⟨-, recorded, hdone⟩ :=
      (Incident.alarm alarm).register_cases config alarm services.drawn.drawn
    · rw [hfails]
      exact Summary.answers_failure .alarm trivial
    · rw [hdone]
      exact ⟨⟨[firing], List.Sublist.refl _, .cons hholds .nil⟩, List.forall_mem_nil _⟩
  | custom ruleGuid actions =>
    rw [heffect] at h
    obtain ⟨movement, hfact⟩ := h
    rw [dispatch, heffect, hfact]
    obtain ⟨⟨triggers, hsub, hholds⟩, hfailed⟩ :=
      customRuleFired_answers config ruleGuid movement services firing actions
    exact ⟨⟨triggers, hsub.trans (List.nil_sublist _), hholds⟩, hfailed⟩
  | outcome =>
    rw [dispatch, heffect]
    exact Summary.answers_of_nil rfl rfl

/-- When the facts are of the kinds that the effects ask for, the alarms hold what triggered them,
and nothing fails for the kind of a fact. -/
theorem dispatchAll_answers {firings : List Firing} (h : ∀ firing ∈ firings, firing.Suited) :
    (dispatchAll config firings services).1.Answers firings := by
  induction firings generalizing services with
  | nil => exact Summary.answers_of_nil rfl rfl
  | cons firing others ih =>
    have ⟨hfirst, hothers⟩ := List.forall_mem_cons.1 h
    rw [dispatchAll_cons]
    exact (dispatch_answers config services hfirst).append (ih _ hothers)

end Dispatch

end FisheryRules
