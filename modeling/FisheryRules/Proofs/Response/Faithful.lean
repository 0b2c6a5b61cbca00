import FisheryRules.Proofs.Rule.Faithful
import FisheryRules.Response.Serialized

/-!
# Incidents that survive being written

Alarms, tickets, forwarded movements and notifications.
-/
namespace FisheryRules

open Faithful (Coded Ordinary Plain Present depth legible_of_le read?_toData)

/-! ## Alarms and tickets -/

instance : Coded AlarmStatus where
  all := AlarmStatus.all
  code := AlarmStatus.code
  mem_all := by rintro ⟨⟩ <;> decide
  nodup := by decide
  toData_eq _ := rfl
  read?_eq _ := rfl

instance : Coded TicketStatus where
  all := TicketStatus.all
  code := TicketStatus.code
  mem_all := by rintro ⟨⟩ <;> decide
  nodup := by decide
  toData_eq _ := rfl
  read?_eq _ := rfl

instance : Faithful AlarmItem where
  Ordinary _ := True
  depth := 1
  legible _ _ := .record (by simp [legible_of_le, depth])
  read item _ := by
    refine read?_record (fun _ => rfl) rfl (by dsimp only [List.map]; decide) fun hnames => ?_
    simp [Members.required, Members.get?_named hnames, read?_toData]

instance : Plain AlarmItem := ⟨fun _ => trivial⟩

structure Alarm.IsOrdinary (alarm : Alarm) : Prop where
  openDate : Ordinary alarm.openDate
  rawMovement : Ordinary alarm.rawMovement

instance : Faithful Alarm where
  Ordinary := Alarm.IsOrdinary
  depth := 3
  legible alarm h := by
    obtain ⟨_, _⟩ := h
    refine .record ?_
    simp [legible_of_le, depth, *]
  read alarm h := by
    obtain ⟨_, _⟩ := h
    refine read?_record (fun _ => rfl) rfl (by dsimp only [List.map]; decide) fun hnames => ?_
    simp [Members.required, Members.nullable, Members.optional,
      Members.get?_named hnames, read?_toData, *]

structure Ticket.IsOrdinary (ticket : Ticket) : Prop where
  openDate : Ordinary ticket.openDate

instance : Faithful Ticket where
  Ordinary := Ticket.IsOrdinary
  depth := 1
  legible ticket h := by
    obtain ⟨_⟩ := h
    refine .record ?_
    simp [legible_of_le, depth, *]
  read ticket h := by
    obtain ⟨_⟩ := h
    refine read?_record (fun _ => rfl) rfl (by dsimp only [List.map]; decide) fun hnames => ?_
    simp [Members.required, Members.nullable, Members.optional,
      Members.get?_named hnames, read?_toData, *]

/-! ## Messages -/

instance : Faithful RecipientInfo where
  Ordinary _ := True
  depth := 1
  legible _ _ := .record (by simp [legible_of_le, depth])
  read recipient _ := by
    refine read?_record (fun _ => rfl) rfl (by dsimp only [List.map]; decide) fun hnames => ?_
    simp [Members.required, Members.get?_named hnames, read?_toData]

instance : Plain RecipientInfo := ⟨fun _ => trivial⟩

structure EndpointReport.IsOrdinary (report : EndpointReport) : Prop where
  date : Ordinary report.date
  movement : Ordinary report.movement

instance : Faithful EndpointReport where
  Ordinary := EndpointReport.IsOrdinary
  depth := 3
  legible report h := by
    obtain ⟨_, _⟩ := h
    refine .record ?_
    simp [legible_of_le, depth, *]
  read report h := by
    obtain ⟨_, _⟩ := h
    refine read?_record (fun _ => rfl) rfl (by dsimp only [List.map]; decide) fun hnames => ?_
    simp [Members.required, Members.nullable, Members.optional,
      Members.get?_named hnames, read?_toData, *]

instance : Faithful NotificationEvent where
  Ordinary _ := True
  depth := 1
  legible event _ := by
    cases event <;> exact .record (by simp [legible_of_le, depth, Data.Legible.text])
  read event _ := by
    cases event <;>
      simp [Data.read?, Serialized.ofData?, toData, Data.members?, Members.required, Members.get?,
        Data.textOf?]

instance : Plain NotificationEvent := ⟨fun _ => trivial⟩

end FisheryRules
