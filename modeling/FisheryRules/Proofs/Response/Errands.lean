import FisheryRules.Proofs.Results
import FisheryRules.Response.Dispatch

/-!
# Errands

What follows from the firing of a custom rule are errands: calls that are made one after the other
until one of them fails, and an entry in the audit log when none has. The calls of an errand do not
depend on which calls fail.

## Main definitions

* `Services.calls` — the calls that have been made, each with whether it succeeded.
* `Errand`, `Errand.Fares` — calls to be made, and the ways in which this can end.
* `Occasion` — what the errands of a firing depend on, and the errands.
* `Occasion.Entails` — the errands of a firing that the rule does not declare.

## Main results

* `Occasion.tells_of_errand` — how many mails a subscriber gets.
* `Occasion.tickets_entailed` — how many tickets are opened.
-/
namespace FisheryRules

/-- The call opens a ticket. -/
def Call.isTicket : Call → Bool
  | .createTicket _ => true
  | _ => false

/-- The call sends a mail. -/
def Call.isMail : Call → Bool
  | .sendMail .. => true
  | _ => false

/-- The call of an entry, and whether it succeeded. -/
def JournalEntry.call? : JournalEntry → Option (Call × Bool)
  | .call done succeeded => some (done, succeeded)
  | .event _ => none

/-- The calls that have been made, each with whether it succeeded. -/
def Services.calls (services : Services) : List (Call × Bool) :=
  services.journal.filterMap JournalEntry.call?

/-- Calls are made one after the other until one fails. When all have succeeded, an entry is written
to the audit log, where one belongs there; it does not matter if that fails. -/
inductive Attempt (audit : Option Call) :
    (required : List Call) → (made : List (Call × Bool)) → (succeeded : Bool) → Prop
  | failed {call : Call} {others : List Call} : Attempt audit (call :: others) [(call, false)] false
  | further {call : Call} {others : List Call} {made : List (Call × Bool)} {succeeded : Bool} :
    Attempt audit others made succeeded →
      Attempt audit (call :: others) ((call, true) :: made) succeeded
  | finished (recorded : Bool) : Attempt audit [] (audit.toList.map (·, recorded)) true

/-- Only calls of the errand are made. -/
theorem Attempt.mem {audit : Option Call} {required : List Call} {made : List (Call × Bool)}
    {succeeded : Bool} (h : Attempt audit required made succeeded) :
    ∀ done ∈ made, done.1 ∈ required ++ audit.toList := by
  induction h with
  | failed => simp
  | further _ ih =>
    rintro done (_ | ⟨_, hdone⟩)
    · exact List.mem_cons_self
    · exact List.mem_cons_of_mem _ (ih done hdone)
  | finished recorded =>
    intro done hdone
    obtain ⟨call, hcall, rfl⟩ := List.mem_map.1 hdone
    exact hcall

/-- Calls that serve one end. -/
structure Errand where
  /-- The kind of action that a failure is recorded under. -/
  kind : ActionKind
  /-- The calls that have to succeed, unless a value that they need is missing. -/
  required : Option (List Call)
  /-- The entry in the audit log that is written afterwards. -/
  audit : Option Call := none

/-- The calls that are made for an errand, and whether it succeeds. Without a value that it needs
it fails before any call. -/
def Errand.Fares (errand : Errand) (made : List (Call × Bool)) (succeeded : Bool) : Prop :=
  match errand.required with
  | none => made = [] ∧ succeeded = false
  | some required => Attempt errand.audit required made succeeded

/-- An errand that has been attempted. -/
structure Errand.Run where
  errand : Errand
  made : List (Call × Bool)
  succeeded : Bool
  fares : errand.Fares made succeeded

namespace Errand

/-- The calls made for some errands. -/
def calls (runs : List Run) : List (Call × Bool) := runs.flatMap (·.made)

/-- The kinds of the errands that succeeded. -/
def executed (runs : List Run) : List ActionKind := (runs.filter (·.succeeded)).map (·.errand.kind)

/-- What failures are recorded under, one for each errand that failed. -/
def failures (runs : List Run) : List Undertaking :=
  (runs.filter (!·.succeeded)).map (.action ·.errand.kind)

/-- The calls that may be made for an errand. -/
def mayMake (errand : Errand) : List Call := errand.required.getD [] ++ errand.audit.toList

/-- The number of tickets that some errands try to open. -/
def tickets (runs : List Run) : Nat := (calls runs).countP (·.1.isTicket)

@[simp] theorem calls_cons (run : Run) (runs : List Run) :
    calls (run :: runs) = run.made ++ calls runs := List.flatMap_cons

@[simp] theorem calls_append (runs runs' : List Run) :
    calls (runs ++ runs') = calls runs ++ calls runs' := List.flatMap_append

theorem executed_append (runs runs' : List Run) :
    executed (runs ++ runs') = executed runs ++ executed runs' := by
  rw [executed, List.filter_append, List.map_append]
  rfl

@[simp] theorem failures_append (runs runs' : List Run) :
    failures (runs ++ runs') = failures runs ++ failures runs' := by
  rw [failures, List.filter_append, List.map_append]
  rfl

@[simp] theorem tickets_cons (run : Run) (runs : List Run) :
    tickets (run :: runs) = run.made.countP (·.1.isTicket) + tickets runs := List.countP_append

@[simp] theorem tickets_append (runs runs' : List Run) :
    tickets (runs ++ runs') = tickets runs + tickets runs' := by
  rw [tickets, calls_append, List.countP_append]
  rfl

end Errand

theorem Errand.Run.mem_mayMake (run : Run) : ∀ done ∈ run.made, done.1 ∈ run.errand.mayMake := by
  obtain ⟨⟨kind, required, audit⟩, made, succeeded, hfares⟩ := run
  cases required with
  | none =>
    obtain ⟨rfl, -⟩ := hfares
    simp
  | some required => exact hfares.mem

/-- An errand that has no ticket to open tries to open none. -/
theorem Errand.Run.tickets_eq_zero (run : Run)
    (h : ∀ call ∈ run.errand.mayMake, call.isTicket = false) :
    run.made.countP (·.1.isTicket) = 0 := by
  rw [List.countP_eq_zero]
  intro done hdone
  rw [h done.1 (run.mem_mayMake done hdone)]
  exact Bool.false_ne_true

/-! ## The errands of a firing -/

/-- What the errands of a firing of a custom rule depend on: the settings, the rule, the movement,
the time, the directory and which addresses are valid. -/
structure Occasion where
  config : DispatchConfig
  ruleName : String
  ruleGuid : String
  movement : Movement
  now : Instant
  contacts : List (String × String)
  organisations : List (String × List Organisation)
  isUri : (address : String) → Bool

namespace Occasion

variable (occasion : Occasion)

def ticket (guid : String) : Ticket where
  guid := guid
  status := .opened
  openDate := occasion.now
  ruleName := occasion.ruleName
  ruleGuid := occasion.ruleGuid
  movementGuid := occasion.movement.movementGuid
  vesselGuid := occasion.movement.vesselGuid
  recipient := occasion.movement.eezCode
  updatedBy := occasion.config.systemUser

def mail (address : String) : Call :=
  .sendMail address (Mail.subject occasion.ruleName) (Mail.body occasion.ruleName occasion.movement)

/-- The endpoints that get the report: those of the organisations of a name, but for the ones whose
address is not valid. -/
def recipients (endpoint : String) : List RecipientInfo :=
  ((occasion.organisations.lookup endpoint).getD []).flatMap fun organisation =>
    organisation.endpoints.filterMap fun target =>
      if occasion.isUri target.uri then some ⟨target.name, target.uri⟩ else none

def report (endpoint : String) : EndpointReport where
  ruleName := occasion.ruleName
  endpoint := endpoint
  date := occasion.now
  movement := some occasion.movement
  recipients := occasion.recipients endpoint
  vesselName := occasion.movement.vesselName
  vesselIrcs := occasion.movement.vesselIrcs

/-- The entry in the audit log. -/
def entry (object : AuditObject) (operation : AuditOperation) (subject : String) : Call :=
  .audit object operation subject occasion.config.systemUser

/-- Opening a ticket. -/
def ticketErrand (guid : String) : Errand where
  kind := .ticket
  required := some [.createTicket (occasion.ticket guid)]
  audit := some (occasion.entry .ticket .create guid)

/-- Finding the rule whose subscribers are to be told. -/
def findErrand : Errand where
  kind := .email
  required := some [.findRule occasion.ruleGuid]

/-- Telling a subscriber, who gets a mail if the address is known. -/
def subscriberErrand (owner : String) : Errand where
  kind := .email
  required := some (.findContact owner :: (occasion.contacts.lookup owner).toList.map occasion.mail)
  audit := (occasion.contacts.lookup owner).map (occasion.entry .customRuleAction .sendEmail)

/-- A declared action. The guid is that of the ticket which it opens under the policy of tickets
that are declared. -/
def actionErrand (guid : String) (action : DeclaredAction) : Errand :=
  match action.kind with
  | .email => {
      kind := .email
      required := if action.value.isEmpty then none else some [occasion.mail action.value]
      audit := some (occasion.entry .customRuleAction .sendEmail action.value) }
  | .ticket =>
    match occasion.config.policy with
    | .always => { kind := .ticket, required := some [] }
    | .ifDeclared => occasion.ticketErrand guid
  | .sendToEndpoint => {
      kind := .sendToEndpoint
      required :=
        if action.value.isEmpty then none
        else some [.findOrganisations action.value,
          .sendReport action.value (occasion.report action.value)]
      audit := some (occasion.entry .customRuleAction .sendToEndpoint action.value) }
  | kind => { kind, required := some [] }

/-- Whether a declared action opens a ticket. -/
def opensTicket (action : DeclaredAction) : Bool :=
  action.kind == .ticket && occasion.config.policy == .ifDeclared

/-- Declared actions, one after the other. Every ticket takes a new guid. -/
def declaredErrands (ids : IdSupply) : List DeclaredAction → List Errand
  | [] => []
  | action :: others =>
    occasion.actionErrand ids.draw.1.toText action ::
      declaredErrands (if occasion.opensTicket action then ids.draw.2 else ids) others

theorem kind_actionErrand (guid : String) (action : DeclaredAction) :
    (occasion.actionErrand guid action).kind = action.kind := by
  rw [actionErrand]
  cases action.kind <;> try rfl
  cases occasion.config.policy <;> rfl

theorem map_kind_declaredErrands (ids : IdSupply) (declared : List DeclaredAction) :
    (occasion.declaredErrands ids declared).map (·.kind) = declared.map (·.kind) := by
  induction declared generalizing ids with
  | nil => rfl
  | cons action others ih => rw [declaredErrands, List.map_cons, kind_actionErrand, ih]; rfl

/-- Under the policy of a ticket with every firing no declared action draws a guid. -/
theorem declaredErrands_always (h : occasion.config.policy = .always) (ids ids' : IdSupply)
    (declared : List DeclaredAction) :
    occasion.declaredErrands ids declared = occasion.declaredErrands ids' declared := by
  induction declared generalizing ids ids' with
  | nil => rfl
  | cons action others ih =>
    have haction (guid guid' : String) :
        occasion.actionErrand guid action = occasion.actionErrand guid' action := by
      simp only [actionErrand, h]
    rw [declaredErrands, declaredErrands, haction, ih]

/-- A ticket is tried to be opened once, also when that or the entry in the audit log fails. -/
theorem tickets_ticketErrand {guid : String} {run : Errand.Run}
    (h : run.errand = occasion.ticketErrand guid) : run.made.countP (·.1.isTicket) = 1 := by
  obtain ⟨errand, made, succeeded, hfares⟩ := run
  subst h
  cases hfares with
  | failed => rfl
  | further hfares =>
    cases hfares with
    | finished recorded => rfl

theorem isTicket_of_mem_subscriberErrand (owner : String) :
    ∀ call ∈ (occasion.subscriberErrand owner).mayMake, call.isTicket = false := by
  rw [Errand.mayMake, subscriberErrand]
  cases occasion.contacts.lookup owner <;> simp [mail, entry, Call.isTicket]

theorem isTicket_of_mem_actionErrand {action : DeclaredAction}
    (h : occasion.opensTicket action = false) (guid : String) :
    ∀ call ∈ (occasion.actionErrand guid action).mayMake, call.isTicket = false := by
  obtain ⟨kind, value⟩ := action
  rw [Errand.mayMake]
  cases kind with
  | email => simp only [actionErrand]; split <;> simp [mail, entry, Call.isTicket]
  | sendToEndpoint => simp only [actionErrand]; split <;> simp [entry, Call.isTicket]
  | ticket =>
    cases hpolicy : occasion.config.policy with
    | always => simp [actionErrand, hpolicy]
    | ifDeclared => simp [opensTicket, hpolicy] at h
  | manualPoll | onHold | sms | topBarNotification => simp [actionErrand]

/-- A declared action tries to open a ticket if and only if it asks for one of its own. -/
theorem tickets_actionErrand {guid : String} {action : DeclaredAction} {run : Errand.Run}
    (h : run.errand = occasion.actionErrand guid action) :
    run.made.countP (·.1.isTicket) = (occasion.opensTicket action).toNat := by
  cases hopens : occasion.opensTicket action with
  | false => exact run.tickets_eq_zero (h ▸ occasion.isTicket_of_mem_actionErrand hopens guid)
  | true =>
    obtain ⟨hkind, hpolicy⟩ : action.kind = .ticket ∧ occasion.config.policy = .ifDeclared := by
      simpa [opensTicket] using hopens
    rw [actionErrand, hkind, hpolicy] at h
    exact occasion.tickets_ticketErrand h

theorem tickets_declaredErrands {ids : IdSupply} {declared : List DeclaredAction}
    {runs : List Errand.Run} (h : runs.map (·.errand) = occasion.declaredErrands ids declared) :
    Errand.tickets runs = declared.countP occasion.opensTicket := by
  induction declared generalizing ids runs with
  | nil =>
    rw [List.map_eq_nil_iff.1 h]
    rfl
  | cons action others ih =>
    obtain ⟨run, runs, rfl, hrun, hruns⟩ := List.map_eq_cons_iff.1 h
    rw [Errand.tickets_cons, occasion.tickets_actionErrand hrun, ih hruns, List.countP_cons,
      Nat.add_comm]
    cases occasion.opensTicket action <;> rfl

/-- The subscriber is told: unless the address cannot be looked up, there is one mail to the address
that is known. -/
def Tells (owner : String) (run : Errand.Run) : Prop :=
  run.errand = occasion.subscriberErrand owner ∧
    (run.made.filter (·.1.isMail)).map (·.1) =
      if (.findContact owner, true) ∈ run.made then
        (occasion.contacts.lookup owner).toList.map occasion.mail
      else []

/-- What every firing entails: under the policy of a ticket with every firing a ticket is opened,
and the subscribers are told when the rule is found. -/
def Entails (guid : String) (subscribers : List String) (runs : List Errand.Run) : Prop :=
  match occasion.config.policy with
  | .ifDeclared => runs = []
  | .always => ∃ ticket found mailed, runs = ticket :: found :: mailed ∧
      ticket.errand = occasion.ticketErrand guid ∧
      found.errand = occasion.findErrand ∧
      List.Forall₂ occasion.Tells (if found.succeeded then subscribers else []) mailed

/-- Whatever fails for the others, a subscriber is told. -/
theorem tells_of_errand {owner : String} {run : Errand.Run}
    (h : run.errand = occasion.subscriberErrand owner) : occasion.Tells owner run := by
  refine ⟨h, ?_⟩
  obtain ⟨errand, made, succeeded, hfares⟩ := run
  subst h
  rw [Errand.Fares, subscriberErrand] at hfares
  cases haddress : occasion.contacts.lookup owner with
  | none =>
    rw [haddress] at hfares
    cases hfares with
    | failed => simp [Call.isMail]
    | further hfares =>
      cases hfares with
      | finished recorded => simp [Call.isMail]
  | some address =>
    rw [haddress] at hfares
    cases hfares with
    | failed => simp [Call.isMail]
    | further hfares =>
      cases hfares with
      | failed => simp [Call.isMail, mail]
      | further hfares =>
        cases hfares with
        | finished recorded => simp [Call.isMail, mail, entry]

theorem tickets_subscriberErrand {owners : List String} {runs : List Errand.Run}
    (h : List.Forall₂ occasion.Tells owners runs) : Errand.tickets runs = 0 := by
  induction h with
  | nil => rfl
  | cons htells _ ih =>
    rw [Errand.tickets_cons, ih, Errand.Run.tickets_eq_zero]
    exact htells.1 ▸ occasion.isTicket_of_mem_subscriberErrand _

/-- Under the policy of a ticket with every firing one ticket is opened, and otherwise those that
are declared. -/
theorem tickets_entailed {guid : String} {subscribers : List String} {ids : IdSupply}
    {declared : List DeclaredAction} {entailed acted : List Errand.Run}
    (hentailed : occasion.Entails guid subscribers entailed)
    (hacted : acted.map (·.errand) = occasion.declaredErrands ids declared) :
    Errand.tickets (entailed ++ acted) =
      match occasion.config.policy with
      | .always => 1
      | .ifDeclared => declared.countP (·.kind == .ticket) := by
  rw [Errand.tickets_append, occasion.tickets_declaredErrands hacted]
  rw [Entails] at hentailed
  cases hpolicy : occasion.config.policy with
  | ifDeclared =>
    rw [hpolicy] at hentailed
    subst hentailed
    have hopens : occasion.opensTicket = fun action => action.kind == .ticket := by
      funext action
      simp [opensTicket, hpolicy]
    rw [hopens]
    exact Nat.zero_add _
  | always =>
    rw [hpolicy] at hentailed
    obtain ⟨ticket, found, mailed, rfl, hticket, hfound, htells⟩ := hentailed
    have hopens : declared.countP occasion.opensTicket = 0 :=
      List.countP_eq_zero.2 fun action _ => by simp [opensTicket, hpolicy]
    have hrule : found.made.countP (·.1.isTicket) = 0 :=
      found.tickets_eq_zero (by simp [hfound, Errand.mayMake, findErrand, Call.isTicket])
    rw [Errand.tickets_cons, Errand.tickets_cons, occasion.tickets_ticketErrand hticket, hrule,
      occasion.tickets_subscriberErrand htells, hopens]

end Occasion

end FisheryRules
