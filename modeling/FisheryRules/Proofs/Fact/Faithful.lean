import FisheryRules.Fact.Serialized
import FisheryRules.Proofs.Data.Faithful

/-!
# Facts that survive being written

A fact is ordinary when the numbers and instants in it are; its texts, its identifier and its keys
may be any.
-/
namespace FisheryRules

open Faithful (Ordinary Plain Present depth legible_of_le read?_toData)

namespace Faithful

instance : Coded Severity where
  all := Severity.all
  code := Severity.code
  mem_all := by rintro ⟨⟩ <;> decide
  nodup := by decide
  toData_eq _ := rfl
  read?_eq _ := rfl

instance : Coded FactType where
  all := FactType.all
  code := FactType.code
  mem_all := by rintro ⟨⟩ <;> decide
  nodup := by decide
  toData_eq _ := rfl
  read?_eq _ := rfl

end Faithful

/-! ## Contents -/

structure RawMovement.IsOrdinary (report : RawMovement) : Prop where
  latitude : Ordinary report.latitude
  longitude : Ordinary report.longitude
  altitude : Ordinary report.altitude
  positionTime : Ordinary report.positionTime
  dateReceived : Ordinary report.dateReceived
  reportedSpeed : Ordinary report.reportedSpeed
  reportedCourse : Ordinary report.reportedCourse

instance : Faithful RawMovement where
  Ordinary := RawMovement.IsOrdinary
  depth := 1
  legible report h := by
    obtain ⟨_, _, _, _, _, _, _⟩ := h
    refine .record ?_
    simp [legible_of_le, depth, *]
  read report h := by
    obtain ⟨_, _, _, _, _, _, _⟩ := h
    refine read?_record (fun _ => rfl) rfl (by dsimp only [List.map]; decide) fun hnames => ?_
    simp [Members.optional, Members.get?_named hnames, read?_toData, *]

instance : Present RawMovement := ⟨fun _ => Data.record_ne_null⟩

structure Movement.IsOrdinary (report : Movement) : Prop where
  altitude : Ordinary report.altitude
  latitude : Ordinary report.latitude
  longitude : Ordinary report.longitude
  positionTime : Ordinary report.positionTime
  reportedSpeed : Ordinary report.reportedSpeed
  reportedCourse : Ordinary report.reportedCourse
  calculatedSpeed : Ordinary report.calculatedSpeed
  calculatedCourse : Ordinary report.calculatedCourse

instance : Faithful Movement where
  Ordinary := Movement.IsOrdinary
  depth := 2
  legible report h := by
    obtain ⟨_, _, _, _, _, _, _, _⟩ := h
    refine .record ?_
    simp [legible_of_le, depth, *]
  read report h := by
    obtain ⟨_, _, _, _, _, _, _, _⟩ := h
    refine read?_record (fun _ => rfl) rfl (by dsimp only [List.map]; decide) fun hnames => ?_
    simp [Members.optional, Members.defaulted, Members.get?_named hnames, read?_toData, *]

instance : Present Movement := ⟨fun _ => Data.record_ne_null⟩

structure Amount.IsOrdinary (amount : Amount) : Prop where
  value : Ordinary amount.value

instance : Faithful Amount where
  Ordinary := Amount.IsOrdinary
  depth := 1
  legible amount h := by
    obtain ⟨_⟩ := h
    refine .record ?_
    simp [legible_of_le, depth, *]
  read amount h := by
    obtain ⟨_⟩ := h
    refine read?_record (fun _ => rfl) rfl (by dsimp only [List.map]; decide) fun hnames => ?_
    simp [Members.required, Members.optional, Members.get?_named hnames, read?_toData, *]

structure SalesPrice.IsOrdinary (sale : SalesPrice) : Prop where
  chargeAmounts : Ordinary sale.chargeAmounts

instance : Faithful SalesPrice where
  Ordinary := SalesPrice.IsOrdinary
  depth := 3
  legible sale h := by
    obtain ⟨_⟩ := h
    refine .record ?_
    simp [legible_of_le, depth, *]
  read sale h := by
    obtain ⟨_⟩ := h
    refine read?_record (fun _ => rfl) rfl (by dsimp only [List.map]; decide) fun hnames => ?_
    simp [Members.defaulted, Members.get?_named hnames, read?_toData, *]

structure FishingActivity.IsOrdinary (activity : FishingActivity) : Prop where
  occurrence : Ordinary activity.occurrence
  catchWeight : Ordinary activity.catchWeight
  operationCount : Ordinary activity.operationCount

instance : Faithful FishingActivity where
  Ordinary := FishingActivity.IsOrdinary
  depth := 2
  legible activity h := by
    obtain ⟨_, _, _⟩ := h
    refine .record ?_
    simp [legible_of_le, depth, *]
  read activity h := by
    obtain ⟨_, _, _⟩ := h
    refine read?_record (fun _ => rfl) rfl (by dsimp only [List.map]; decide) fun hnames => ?_
    simp [Members.optional, Members.defaulted, Members.get?_named hnames, read?_toData, *]

structure PreviousReport.IsOrdinary (report : PreviousReport) : Prop where
  positionTime : Ordinary report.positionTime

instance : Faithful PreviousReport where
  Ordinary := PreviousReport.IsOrdinary
  depth := 1
  legible report h := by
    obtain ⟨_⟩ := h
    refine .record ?_
    simp [legible_of_le, depth, *]
  read report h := by
    obtain ⟨_⟩ := h
    refine read?_record (fun _ => rfl) rfl (by dsimp only [List.map]; decide) fun hnames => ?_
    simp [Members.required, Members.optional, Members.get?_named hnames, read?_toData, *]

/-! ## Facts -/

def Payload.IsOrdinary : Payload → Prop
  | .rawMovement fact => fact.IsOrdinary
  | .movement fact => fact.IsOrdinary
  | .salesPrice fact => fact.IsOrdinary
  | .fishingActivity fact => fact.IsOrdinary

instance : Faithful Payload where
  Ordinary := Payload.IsOrdinary
  depth := 4
  legible payload h := by
    have hcontents {α : Type} [Serialized α] [Faithful α] {fact : α} (hfact : Ordinary fact)
        (hle : depth α ≤ 3) : ∀ member ∈ [("type", toData payload.factType),
          ("payload", toData fact)], Data.Legible 3 member.2 := by
      simp [legible_of_le, depth, hfact, hle]
    cases payload with
    | rawMovement fact | movement fact | salesPrice fact | fishingActivity fact =>
      exact .record (hcontents h (by decide))
  read payload h := by
    cases payload with
    | rawMovement fact | movement fact | salesPrice fact | fishingActivity fact =>
      have hfact : Ordinary fact := h
      refine read?_record (fun _ => rfl) rfl (by dsimp only [List.map]; decide) fun hnames => ?_
      dsimp only [Payload.factType] at hnames ⊢
      simp [Members.namedCase, Members.required, Members.get?_named hnames, read?_toData, hfact]

instance : Faithful Outcome where
  Ordinary _ := True
  depth := 1
  legible _ _ := .record (by simp [legible_of_le, depth])
  read outcome _ := by
    refine read?_record (fun _ => rfl) rfl (by dsimp only [List.map]; decide) fun hnames => ?_
    simp [Members.required, Members.defaulted, Members.get?_named hnames, read?_toData]

instance : Plain Outcome := ⟨fun _ => trivial⟩

instance : Faithful SourceRef where
  Ordinary _ := True
  depth := 1
  legible _ _ := .record (by simp [legible_of_le, depth])
  read source _ := by
    refine read?_record (fun _ => rfl) rfl (by dsimp only [List.map]; decide) fun hnames => ?_
    simp [Members.required, Members.get?_named hnames, read?_toData]

instance : Plain SourceRef := ⟨fun _ => trivial⟩

instance : Present SourceRef := ⟨fun _ => Data.record_ne_null⟩

structure Fact.IsOrdinary (fact : Fact) : Prop where
  payload : fact.payload.IsOrdinary

section Sources

variable {id : Uuid} {payload : Payload} {outcomes : List Outcome} {ok : Bool} {uniqueIds : KeySet}

theorem toData_fact_none : toData (⟨id, payload, outcomes, ok, uniqueIds, none⟩ : Fact) = .record
    [("id", toData id), ("kind", toData payload), ("outcomes", toData outcomes), ("ok", toData ok),
      ("unique_ids", toData uniqueIds)] := rfl

theorem toData_fact_some {source : SourceRef} :
    toData (⟨id, payload, outcomes, ok, uniqueIds, some source⟩ : Fact) = .record
      [("id", toData id), ("kind", toData payload), ("outcomes", toData outcomes),
        ("ok", toData ok), ("unique_ids", toData uniqueIds), ("source", toData (some source))] :=
  rfl

end Sources

instance : Faithful Fact where
  Ordinary := Fact.IsOrdinary
  depth := 5
  legible fact h := by
    obtain ⟨id, payload, outcomes, ok, uniqueIds, source⟩ := fact
    have hpayload : Ordinary payload := h.payload
    cases source with
    | none =>
      rw [toData_fact_none]
      refine .record ?_
      simp [legible_of_le, depth, hpayload]
    | some source =>
      rw [toData_fact_some]
      refine .record ?_
      simp [legible_of_le, depth, hpayload]
  read fact h := by
    obtain ⟨id, payload, outcomes, ok, uniqueIds, source⟩ := fact
    have hpayload : Ordinary payload := h.payload
    cases source with
    | none =>
      refine read?_record (fun _ => rfl) toData_fact_none (by dsimp only [List.map]; decide)
        fun hnames => ?_
      simp [Members.required, Members.defaulted, Members.optional, Members.get?_named hnames,
        Members.get?_absent, read?_toData, hpayload]
    | some source =>
      refine read?_record (fun _ => rfl) toData_fact_some (by dsimp only [List.map]; decide)
        fun hnames => ?_
      simp [Members.required, Members.defaulted, Members.optional, Members.get?_named hnames,
        read?_toData, hpayload]

end FisheryRules
