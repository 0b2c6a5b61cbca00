import FisheryRules.Proofs.Response.Incidents

/-!
# Frames of tasks

Most tasks find something out, send something, write to the audit log, or note that a rule fired.
What all of them leave alone is said by a relation between the services before and after, a frame.
That a task stays within a frame is shown once for all frames.

## Main definitions

* `Services.IsFrame` — relations that hold of any such work when they hold of single steps.
* `Task.Within` — the services before and after a task are related.
-/
namespace FisheryRules

/-- The call does not bear on incidents. -/
def Call.Idle : Call → Prop
  | .createTicket _ | .createAlarm _ | .findOpenTicket _ | .audit _ .create _ _ => False
  | _ => True

/-- A relation between the services before and after some work. It holds of a note of a call that
does not bear on incidents and of a note of when a rule fired, and of work put together. -/
structure Services.IsFrame (R : Services → Services → Prop) : Prop where
  refl (services : Services) : R services services
  trans {before between after : Services} : R before between → R between after → R before after
  noted (services : Services) {call : Call} (idle : call.Idle) (succeeded : Bool) :
    R services (services.note (.call call succeeded))
  marked {services : Services} {guid : String} {t : Instant} {rules : RuleStore}
    (marked : services.rules.markTriggered guid t = .ok rules) : R services { services with rules }

/-- The services before and after the task are related. -/
def Task.Within {α : Type} (R : Services → Services → Prop) (task : Task α) : Prop :=
  ∀ services : Services, R services (task services).2

namespace Task.Within

variable {R : Services → Services → Prop} {α β : Type}

theorem bind (hframe : Services.IsFrame R) {task : Task α} {f : α → Task β} (h : task.Within R)
    (hf : ∀ a, (f a).Within R) : (task >>= f).Within R := by
  intro services
  have hfirst := h services
  rw [Task.bind_eq]
  generalize task services = first at hfirst ⊢
  obtain ⟨result, next⟩ := first
  cases result with
  | ok a => exact hframe.trans hfirst (hf a next)
  | error error => exact hfirst

theorem pure (hframe : Services.IsFrame R) (a : α) : (Pure.pure a : Task α).Within R :=
  hframe.refl

theorem throw (hframe : Services.IsFrame R) (error : DispatchError) :
    (MonadExcept.throw error : Task α).Within R :=
  hframe.refl

theorem get (hframe : Services.IsFrame R) : (MonadState.get : Task Services).Within R :=
  hframe.refl

/-- A call that does not bear on incidents, and that finds out something or changes the rules. -/
theorem perform (hframe : Services.IsFrame R) {call : Call} (hcall : call.Idle)
    {effect : Services → Except CallError (α × Services)}
    (heffect : ∀ services value changed, effect services = .ok (value, changed) →
      R services changed) :
    (FisheryRules.perform call effect).Within R := by
  intro services
  obtain ⟨error, hfails⟩ | ⟨value, changed, hchanged, hdone⟩ :=
    perform_cases call effect services
  · rw [hfails]
    exact hframe.noted services hcall false
  · rw [hdone]
    exact hframe.trans (heffect services value changed hchanged)
      (hframe.noted changed hcall true)

/-- A call that does not bear on incidents and only finds out something. -/
theorem look (hframe : Services.IsFrame R) {call : Call} (hcall : call.Idle)
    (find : Services → α) :
    (FisheryRules.perform call fun services => .ok (find services, services)).Within R := by
  refine .perform hframe hcall fun services value changed heffect => ?_
  cases heffect
  exact hframe.refl services

theorem regardless {task : Task α} (h : task.Within R) :
    (liftM (FisheryRules.regardless task) : Task Unit).Within R := h

end Task.Within

namespace Dispatch

variable {R : Services → Services → Prop} (hframe : Services.IsFrame R) (config : DispatchConfig)

include hframe

/-- An entry in the audit log that is about no creation. -/
theorem regardless_audit_within (object : AuditObject) {operation : AuditOperation}
    (hoperation : operation ≠ .create) (subject : String) :
    (liftM (regardless (audit config object operation subject)) : Task Unit).Within R := by
  refine .regardless (.look hframe ?_ _)
  cases operation <;> trivial

theorem sendMail_within (address ruleName : String) (movement : Movement) :
    (sendMail config address ruleName movement).Within R :=
  .bind hframe (.look hframe (by trivial) _) fun _ =>
    regardless_audit_within hframe config _ (by decide) _

theorem sendReport_within (endpoint ruleName : String) (movement : Movement) :
    (sendReport config endpoint ruleName movement).Within R :=
  .bind hframe (.look hframe (by trivial) _) fun _ => .bind hframe (.get hframe) fun _ =>
    .bind hframe (.look hframe (by trivial) _) fun _ =>
      regardless_audit_within hframe config _ (by decide) _

theorem requiredValue_within (action : DeclaredAction) : (requiredValue action).Within R := by
  rw [requiredValue]
  split
  · exact .throw hframe _
  · exact .pure hframe _

theorem mailSubscriber_within (owner ruleName : String) (movement : Movement) :
    (mailSubscriber config owner ruleName movement).Within R := by
  refine .bind hframe (.look hframe (by trivial) _) fun address => ?_
  cases address with
  | some address => exact sendMail_within hframe config address ruleName movement
  | none => exact .pure hframe ()

theorem findRule_within (ruleGuid : String) : (findRule ruleGuid).Within R := by
  refine .perform hframe (by trivial) fun services value changed heffect => ?_
  split at heffect
  · cases heffect
    exact hframe.refl services
  · cases heffect

theorem markTriggered_within (ruleGuid : String) (t : Instant) :
    (markTriggered ruleGuid t).Within R := by
  refine .perform hframe (by trivial) fun services value changed heffect => ?_
  split at heffect
  · next hmarked =>
    cases heffect
    exact hframe.marked hmarked
  · cases heffect

end Dispatch

end FisheryRules
