import FisheryRules.Proofs.Identifier
import FisheryRules.Proofs.Registry.TableRows
import FisheryRules.Proofs.Response.Incidents

/-!
# Tickets of silent vessels

The check of reports opens one ticket for every vessel that is silent and has no open ticket, for
the first report in which it is silent. The check asks the store that it writes to: a ticket that it
opens is one that its later reports find, and so do those of a later check.

The guid that a ticket takes must be fresh, or the ticket would take the place of another one.

## Main definitions

* `Services.StoreAnswers`, `Services.FreshGuids` — what is asked of the services.
* `Dispatch.firstSilent?` — the first report in which a vessel is silent.
* `Dispatch.Opened` — what tickets a check has opened.

## Main results

* `Dispatch.checkReports_opened` — what the check opens, and what the store holds after it.
* `Dispatch.checkReports_once` — one open ticket for every silent vessel, also when the check is
  repeated.
-/
namespace FisheryRules

/-! ## Fresh tickets -/

namespace IncidentStore

variable {store : IncidentStore} {ticket : Ticket} {vessel : String}

theorem addTicket_perm (h : ticket.guid ∉ store.tickets.rows.map Ticket.guid) :
    (store.addTicket ticket).tickets.rows.Perm (ticket :: store.tickets.rows) :=
  Table.putRow_perm h

/-- A vessel has an open ticket if one of the tickets is. -/
theorem isSome_openTicket? : (store.openTicket? vessel).isSome ↔
    ∃ ticket ∈ store.tickets.rows, ticket.status = .opened ∧ ticket.vesselGuid = some vessel := by
  simp [openTicket?]

/-- A new open ticket is found for its vessel, and changes nothing for other vessels. -/
theorem isSome_openTicket?_addTicket (hguid : ticket.guid ∉ store.tickets.rows.map Ticket.guid)
    (hstatus : ticket.status = .opened) {named : String} (hnamed : ticket.vesselGuid = some named) :
    ((store.addTicket ticket).openTicket? vessel).isSome ↔
      vessel = named ∨ (store.openTicket? vessel).isSome := by
  rw [isSome_openTicket?, isSome_openTicket?]
  simp only [(addTicket_perm hguid).mem_iff, List.mem_cons, or_and_right, exists_or,
    exists_eq_left, hstatus, hnamed, Option.some.injEq, true_and, @eq_comm _ named]

end IncidentStore

/-! ## What is asked of the services -/

/-- Each of the next `n` identifiers is new to the tickets of the store. -/
def Services.FreshGuids (services : Services) (n : Nat) : Prop :=
  (services.ids.upcoming n ++ services.incidents.tickets.rows.map Ticket.guid).Nodup

/-- Calls to the ticket store do not fail. -/
def Services.StoreAnswers (services : Services) : Prop :=
  ∀ journaled, (∀ vessel, services.faults journaled (.findOpenTicket vessel) = none) ∧
    ∀ ticket, services.faults journaled (.createTicket ticket) = none

namespace Services

variable {services after : Services} {n : Nat}

theorem FreshGuids.unused (h : services.FreshGuids (n + 1)) :
    services.ids.draw.1.toText ∉ services.incidents.tickets.rows.map Ticket.guid := by
  intro hmem
  exact (List.nodup_cons.1 h).1 (List.mem_append_right _ hmem)

/-- The guids stay fresh when none is taken. -/
theorem FreshGuids.keep (h : services.FreshGuids (n + 1)) (hids : after.ids = services.ids)
    (hincidents : after.incidents = services.incidents) : after.FreshGuids n := by
  rw [FreshGuids, hids, hincidents]
  exact h.sublist ((services.ids.upcoming_sublist n).append (.refl _))

/-- The guids stay fresh when a ticket takes the first of them. -/
theorem FreshGuids.take (h : services.FreshGuids (n + 1)) {ticket : Ticket}
    (hticket : ticket.guid = services.ids.draw.1.toText) (hids : after.ids = services.ids.draw.2)
    (hincidents : after.incidents = services.incidents.addTicket ticket) : after.FreshGuids n := by
  have hrows := (IncidentStore.addTicket_perm (hticket ▸ h.unused)).map Ticket.guid
  rw [FreshGuids, hids, hincidents, (hrows.append_left _).nodup_iff, List.map_cons, hticket]
  exact List.perm_middle.nodup_iff.2 h

end Services

namespace Dispatch

variable (config : DispatchConfig)

/-- The first report in which a vessel is silent. -/
def firstSilent? (now : Instant) (reports : List PreviousReport) (vessel : String) :
    Option PreviousReport :=
  reports.find? fun report =>
    report.isSilent now config.silenceThreshold && report.vesselGuid == vessel

/-- The check of a report of a silent vessel, when the store answers: an open ticket of the vessel
is found, or one is opened. -/
theorem vesselSilent_cases {services : Services} (hanswers : services.StoreAnswers)
    (ruleGuid : String) (report : PreviousReport) :
    let result := vesselSilent config ruleGuid report services
    let ticket := silenceTicket config ruleGuid services.ids.draw.1.toText services.now report
    result.2.faults = services.faults ∧ result.2.now = services.now ∧
    (((services.incidents.openTicket? report.vesselGuid).isSome ∧ result.1 = .ok none ∧
        result.2.incidents = services.incidents ∧ result.2.ids = services.ids) ∨
      (¬ (services.incidents.openTicket? report.vesselGuid).isSome ∧ result.1 = .ok (some ticket) ∧
        result.2.incidents = services.incidents.addTicket ticket ∧
        result.2.ids = services.ids.draw.2)) := by
  intro result ticket
  have hresult : result = _ := vesselSilent_eq config ruleGuid services report
  rw [(hanswers _).1] at hresult
  dsimp only at hresult
  split at hresult
  · next hopen =>
    rw [hresult]
    exact ⟨rfl, rfl, .inl ⟨hopen, rfl, rfl, rfl⟩⟩
  · next hopen =>
    generalize hasked : Services.drawn _ = asked at hresult
    obtain ⟨error, hfault, -⟩ | ⟨-, recorded, hregister⟩ :=
      (Incident.ticket ticket).register_cases config ticket asked
    · subst hasked
      have hnone := (hanswers (services.journal.length + 1)).2 ticket
      exact absurd hfault (by simp [Services.drawn, Services.note, Incident.creation, hnone])
    · rw [hresult, hregister]
      subst hasked
      exact ⟨rfl, rfl, .inr ⟨hopen, rfl, rfl, rfl⟩⟩

variable {config} {now : Instant} {report : PreviousReport} {others : List PreviousReport}
  {vessel : String}

theorem firstSilent?_cons_heard (h : ¬ report.isSilent now config.silenceThreshold = true) :
    firstSilent? config now (report :: others) vessel = firstSilent? config now others vessel :=
  List.find?_cons_of_neg (by simp [h])

theorem firstSilent?_cons_other (h : report.vesselGuid ≠ vessel) :
    firstSilent? config now (report :: others) vessel = firstSilent? config now others vessel :=
  List.find?_cons_of_neg (by simp [h])

theorem firstSilent?_cons_self (h : report.isSilent now config.silenceThreshold = true) :
    firstSilent? config now (report :: others) report.vesselGuid = some report :=
  List.find?_cons_of_pos (by simp [h])

/-- A check has opened tickets: for a vessel without an open ticket, one for the first report in
which it is silent, if there is one; and for no other vessel. They are in the store beside those
that were there before. -/
structure Opened (config : DispatchConfig) (now : Instant) (reports : List PreviousReport)
    (before after : Services) (tickets : List Ticket) : Prop where
  vessel : ∀ vessel, ∃ guid, tickets.filter (·.vesselGuid == some vessel) =
    if (before.incidents.openTicket? vessel).isSome then []
    else ((firstSilent? config now reports vessel).map
      (silenceTicket config silenceRule guid before.now)).toList
  named : ∀ ticket ∈ tickets, ticket.vesselGuid.isSome ∧ ticket.status = .opened
  rows : after.incidents.tickets.rows.Perm (tickets ++ before.incidents.tickets.rows)

namespace Opened

variable {before between after : Services} {tickets : List Ticket}

/-- A report of a vessel that is not silent changes nothing. -/
theorem heard (h : ¬ report.isSilent now config.silenceThreshold = true)
    (hopened : Opened config now others before after tickets) :
    Opened config now (report :: others) before after tickets where
  vessel vessel := by
    rw [firstSilent?_cons_heard h]
    exact hopened.vessel vessel
  named := hopened.named
  rows := hopened.rows

/-- A report of a vessel that has an open ticket changes nothing. -/
theorem known (hopen : (before.incidents.openTicket? report.vesselGuid).isSome)
    (hincidents : between.incidents = before.incidents) (hnow : between.now = before.now)
    (hopened : Opened config now others between after tickets) :
    Opened config now (report :: others) before after tickets where
  vessel vessel := by
    obtain ⟨guid, hguid⟩ := hopened.vessel vessel
    rw [hincidents, hnow] at hguid
    refine ⟨guid, hguid.trans ?_⟩
    by_cases hvessel : report.vesselGuid = vessel
    · rw [if_pos (hvessel ▸ hopen), if_pos (hvessel ▸ hopen)]
    · rw [firstSilent?_cons_other hvessel]
  named := hopened.named
  rows := hincidents ▸ hopened.rows

/-- A ticket that is opened is the only one of its vessel. -/
theorem first {guid : String} (h : report.isSilent now config.silenceThreshold = true)
    (hopen : ¬ (before.incidents.openTicket? report.vesselGuid).isSome)
    (hguid : guid ∉ before.incidents.tickets.rows.map Ticket.guid)
    (hincidents : between.incidents = before.incidents.addTicket
      (silenceTicket config silenceRule guid before.now report))
    (hnow : between.now = before.now)
    (hopened : Opened config now others between after tickets) :
    Opened config now (report :: others) before after
      (silenceTicket config silenceRule guid before.now report :: tickets) where
  vessel vessel := by
    obtain ⟨later, hlater⟩ := hopened.vessel vessel
    have hfound : (between.incidents.openTicket? vessel).isSome ↔
        vessel = report.vesselGuid ∨ (before.incidents.openTicket? vessel).isSome := by
      rw [hincidents]
      exact IncidentStore.isSome_openTicket?_addTicket hguid rfl rfl
    by_cases hvessel : report.vesselGuid = vessel
    · subst hvessel
      rw [if_pos (hfound.2 (.inl rfl))] at hlater
      refine ⟨guid, ?_⟩
      rw [List.filter_cons_of_pos (by simp [silenceTicket]), hlater, if_neg hopen,
        firstSilent?_cons_self h]
      rfl
    · refine ⟨later, ?_⟩
      rw [List.filter_cons_of_neg (by simpa [silenceTicket] using hvessel), hlater, hnow,
        firstSilent?_cons_other hvessel]
      simp only [hfound, Ne.symm hvessel, false_or]
  named := List.forall_mem_cons.2 ⟨⟨rfl, rfl⟩, hopened.named⟩
  rows := by
    refine hopened.rows.trans ?_
    rw [hincidents]
    exact ((IncidentStore.addTicket_perm hguid).append_left tickets).trans List.perm_middle

end Opened

variable (config)

/-- What a check opens. The induction is on the reports; a ticket that is opened for a report is
found for the later reports of its vessel, and changes nothing for the other vessels. -/
theorem checkReports_opened (now : Instant) (reports : List PreviousReport) {services : Services}
    (hanswers : services.StoreAnswers) (hfresh : services.FreshGuids reports.length) :
    let result := checkReports config now reports services
    Opened config now reports services result.2 result.1.tickets := by
  induction reports generalizing services with
  | nil => exact ⟨fun vessel => ⟨"", (ite_self _).symm⟩, List.forall_mem_nil _, .refl _⟩
  | cons report others ih =>
    by_cases hsilent : report.isSilent now config.silenceThreshold = true
    case neg =>
      rw [checkReports_cons_heard config services hsilent]
      exact .heard hsilent (ih hanswers (hfresh.keep rfl rfl))
    case pos =>
      rw [checkReports_cons_silent config services hsilent]
      obtain ⟨hfaults, hnow, hcases⟩ := vesselSilent_cases config hanswers silenceRule report
      generalize vesselSilent config silenceRule report services = first at hfaults hnow hcases
      obtain ⟨result, next⟩ := first
      have hnext : next.StoreAnswers := by rwa [Services.StoreAnswers, hfaults]
      obtain ⟨hopen, rfl, hincidents, hids⟩ | ⟨hopen, rfl, hincidents, hids⟩ := hcases
      · exact .known hopen hincidents hnow (ih hnext (hfresh.keep hids hincidents))
      · exact .first hsilent hopen hfresh.unused hincidents hnow
          (ih hnext (hfresh.take rfl hids hincidents))

/-- A vessel that was silent in a report has an open ticket afterwards. -/
theorem Opened.isSome_openTicket? {before after : Services} {tickets : List Ticket}
    {reports : List PreviousReport} (h : Opened config now reports before after tickets)
    (hreport : report ∈ reports) (hsilent : report.isSilent now config.silenceThreshold = true) :
    (after.incidents.openTicket? report.vesselGuid).isSome := by
  rw [IncidentStore.isSome_openTicket?]
  by_cases hopen : (before.incidents.openTicket? report.vesselGuid).isSome
  · obtain ⟨ticket, hmem, hticket⟩ := IncidentStore.isSome_openTicket?.1 hopen
    exact ⟨ticket, h.rows.mem_iff.2 (List.mem_append_right _ hmem), hticket⟩
  · obtain ⟨guid, hvessel⟩ := h.vessel report.vesselGuid
    have hfirst : (firstSilent? config now reports report.vesselGuid).isSome :=
      List.find?_isSome.2 ⟨report, hreport, by simp [hsilent]⟩
    obtain ⟨first, hfirst⟩ := Option.isSome_iff_exists.1 hfirst
    rw [if_neg hopen, hfirst] at hvessel
    have hmem : silenceTicket config silenceRule guid before.now first ∈
        tickets.filter (·.vesselGuid == some report.vesselGuid) := by
      rw [hvessel]
      exact List.mem_singleton_self _
    obtain ⟨hmem, hnamed⟩ := List.mem_filter.1 hmem
    exact ⟨_, h.rows.mem_iff.2 (List.mem_append_left _ hmem), rfl, by simpa using hnamed⟩

/-- When the ticket store answers and guids are fresh, a check of reports opens exactly one ticket
for every vessel that has no open ticket and is silent in a report, for the first such report, and
none for other vessels. Afterwards every vessel that was silent in a report has an open ticket, and
another check of the same reports, at any instant, opens no ticket for it. -/
theorem checkReports_once (now : Instant) (reports : List PreviousReport) (services : Services)
    (hanswers : services.StoreAnswers) (hfresh : services.FreshGuids reports.length) :
    let result := checkReports config now reports services
    Opened config now reports services result.2 result.1.tickets ∧
    ∀ report ∈ reports, report.isSilent now config.silenceThreshold = true →
      (result.2.incidents.openTicket? report.vesselGuid).isSome ∧
      ∀ (later : Instant) (again : Services), again.incidents = result.2.incidents →
        again.StoreAnswers → again.FreshGuids reports.length →
        ∀ ticket ∈ (checkReports config later reports again).1.tickets,
          ticket.vesselGuid ≠ some report.vesselGuid := by
  intro result
  have hopened : Opened config now reports services result.2 result.1.tickets :=
    checkReports_opened config now reports hanswers hfresh
  refine ⟨hopened, fun report hreport hsilent => ?_⟩
  have hopen := hopened.isSome_openTicket? config hreport hsilent
  refine ⟨hopen, fun later again hincidents hagain hfreshAgain ticket hticket hvessel => ?_⟩
  obtain ⟨guid, hnone⟩ :=
    (checkReports_opened config later reports hagain hfreshAgain).vessel report.vesselGuid
  rw [hincidents, if_pos hopen] at hnone
  exact List.filter_eq_nil_iff.1 hnone ticket hticket (by simp [hvessel])

/-- A vessel is silent in two reports, and another one has an open ticket. The first one is told of
again later, when other guids are fresh. -/
theorem checkReports_once_twoVessels :
    let held : Ticket := {
      guid := "held"
      status := .opened
      openDate := ⟨0, 0⟩
      ruleName := "Area"
      ruleGuid := "area"
      movementGuid := none
      vesselGuid := some "B"
      recipient := none
      updatedBy := "UVMS" }
    let services : Services := {
      incidents := IncidentStore.addTicket {} held
      ids := ⟨Uuid.ofNat, 0⟩
      now := ⟨10000, 0⟩ }
    let reports : List PreviousReport :=
      [⟨"A", none, ⟨0, 0⟩⟩, ⟨"B", none, ⟨0, 0⟩⟩, ⟨"A", none, ⟨9, 0⟩⟩]
    let again : Services := {
      incidents := (checkReports {} ⟨10000, 0⟩ reports services).2.incidents
      ids := ⟨Uuid.ofNat, 7⟩
      now := ⟨20000, 0⟩ }
    services.StoreAnswers ∧ services.FreshGuids 3 ∧ again.StoreAnswers ∧ again.FreshGuids 3 ∧
      Opened {} ⟨10000, 0⟩ reports services (checkReports {} ⟨10000, 0⟩ reports services).2
        (checkReports {} ⟨10000, 0⟩ reports services).1.tickets ∧
      ((checkReports {} ⟨10000, 0⟩ reports services).2.incidents.openTicket? "A").isSome ∧
      ∀ ticket ∈ (checkReports {} ⟨20000, 0⟩ reports again).1.tickets,
        ticket.vesselGuid ≠ some "A" := by
  intro held services reports again
  have hanswers : services.StoreAnswers := fun journaled => ⟨fun _ => rfl, fun _ => rfl⟩
  have hanswersAgain : again.StoreAnswers := fun journaled => ⟨fun _ => rfl, fun _ => rfl⟩
  have hfresh : services.FreshGuids 3 := by
    unfold Services.FreshGuids
    decide +kernel
  have hfreshAgain : again.FreshGuids 3 := by
    unfold Services.FreshGuids
    decide +kernel
  obtain ⟨hopened, hsilent⟩ := checkReports_once {} ⟨10000, 0⟩ reports services hanswers hfresh
  obtain ⟨hopen, honce⟩ := hsilent ⟨"A", none, ⟨0, 0⟩⟩ List.mem_cons_self (by decide)
  have hincidents :
      again.incidents = (checkReports {} ⟨10000, 0⟩ reports services).2.incidents := by
    dsimp only [again]
  exact ⟨hanswers, hfresh, hanswersAgain, hfreshAgain, hopened, hopen,
    honce ⟨20000, 0⟩ again hincidents hanswersAgain hfreshAgain⟩

end Dispatch

end FisheryRules
