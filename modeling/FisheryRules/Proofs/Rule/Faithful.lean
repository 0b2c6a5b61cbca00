import FisheryRules.Proofs.Fact.Faithful
import FisheryRules.Rule.Serialized

/-!
# Rules that survive being written

A rule is ordinary when the instants in it are; a document is when its rules are.
-/
namespace FisheryRules

open Faithful (Coded Ordinary Plain Present depth legible_of_le read?_toData)

/-! ## Segments, actions and subscriptions -/

instance : Coded Criteria where
  all := Criteria.all
  code := Criteria.code
  mem_all := by rintro ⟨⟩ <;> decide
  nodup := by decide
  toData_eq _ := rfl
  read?_eq _ := rfl

instance : Coded SubCriteria where
  all := SubCriteria.all
  code := SubCriteria.code
  mem_all := by rintro ⟨⟩ <;> decide
  nodup := by decide
  toData_eq _ := rfl
  read?_eq _ := rfl

instance : Coded CompareOp where
  all := CompareOp.all
  code := CompareOp.code
  mem_all := by rintro ⟨⟩ <;> decide
  nodup := by decide
  toData_eq _ := rfl
  read?_eq _ := rfl

instance : Coded Availability where
  all := Availability.all
  code := Availability.code
  mem_all := by rintro ⟨⟩ <;> decide
  nodup := by decide
  toData_eq _ := rfl
  read?_eq _ := rfl

instance : Coded LogicOperator where
  all := LogicOperator.all
  code := LogicOperator.code
  mem_all := by rintro ⟨⟩ <;> decide
  nodup := by decide
  toData_eq _ := rfl
  read?_eq _ := rfl

instance : Coded ActionKind where
  all := ActionKind.all
  code := ActionKind.code
  mem_all := by rintro ⟨⟩ <;> decide
  nodup := by decide
  toData_eq _ := rfl
  read?_eq _ := rfl

instance : Coded SubscriptionKind where
  all := SubscriptionKind.all
  code := SubscriptionKind.code
  mem_all := by rintro ⟨⟩ <;> decide
  nodup := by decide
  toData_eq _ := rfl
  read?_eq _ := rfl

instance : Faithful Segment where
  Ordinary _ := True
  depth := 1
  legible _ _ := .record (by simp [legible_of_le, depth])
  read segment _ := by
    refine read?_record (fun _ => rfl) rfl (by dsimp only [List.map]; decide) fun hnames => ?_
    simp [Members.required, Members.defaulted, Members.get?_named hnames, read?_toData]

instance : Plain Segment := ⟨fun _ => trivial⟩

instance : Faithful RuleAction where
  Ordinary _ := True
  depth := 1
  legible _ _ := .record (by simp [legible_of_le, depth])
  read action _ := by
    refine read?_record (fun _ => rfl) rfl (by dsimp only [List.map]; decide) fun hnames => ?_
    simp [Members.required, Members.optional, Members.defaulted,
      Members.get?_named hnames, read?_toData]

instance : Plain RuleAction := ⟨fun _ => trivial⟩

instance : Faithful Subscription where
  Ordinary _ := True
  depth := 1
  legible _ _ := .record (by simp [legible_of_le, depth])
  read subscription _ := by
    refine read?_record (fun _ => rfl) rfl (by dsimp only [List.map]; decide) fun hnames => ?_
    simp [Members.required, Members.get?_named hnames, read?_toData]

instance : Plain Subscription := ⟨fun _ => trivial⟩

/-! ## Definitions -/

structure TimeInterval.IsOrdinary (interval : TimeInterval) : Prop where
  start : Ordinary interval.start
  stop : Ordinary interval.stop

instance : Faithful TimeInterval where
  Ordinary := TimeInterval.IsOrdinary
  depth := 1
  legible interval h := by
    obtain ⟨_, _⟩ := h
    refine .record ?_
    simp [legible_of_le, depth, *]
  read interval h := by
    obtain ⟨_, _⟩ := h
    refine read?_record (fun _ => rfl) rfl (by dsimp only [List.map]; decide) fun hnames => ?_
    simp [Members.optional, Members.get?_named hnames, read?_toData, *]

structure CustomRule.IsOrdinary (rule : CustomRule) : Prop where
  intervals : Ordinary rule.intervals
  lastTriggered : Ordinary rule.lastTriggered
  updated : Ordinary rule.updated

instance : Faithful CustomRule where
  Ordinary := CustomRule.IsOrdinary
  depth := 3
  legible rule h := by
    obtain ⟨_, _, _⟩ := h
    refine .record ?_
    simp [legible_of_le, depth, *]
  read rule h := by
    obtain ⟨_, _, _⟩ := h
    refine read?_record (fun _ => rfl) rfl (by dsimp only [List.map]; decide) fun hnames => ?_
    simp [Members.required, Members.optional, Members.defaulted,
      Members.get?_named hnames, read?_toData, *]

structure SanityRule.IsOrdinary (rule : SanityRule) : Prop where
  updated : Ordinary rule.updated

instance : Faithful SanityRule where
  Ordinary := SanityRule.IsOrdinary
  depth := 1
  legible rule h := by
    obtain ⟨_⟩ := h
    refine .record ?_
    simp [legible_of_le, depth, *]
  read rule h := by
    obtain ⟨_⟩ := h
    refine read?_record (fun _ => rfl) rfl (by dsimp only [List.map]; decide) fun hnames => ?_
    simp [Members.required, Members.optional, Members.get?_named hnames, read?_toData, *]

structure BusinessRule.IsOrdinary (rule : BusinessRule) : Prop where
  updated : Ordinary rule.updated

instance : Faithful BusinessRule where
  Ordinary := BusinessRule.IsOrdinary
  depth := 1
  legible rule h := by
    obtain ⟨_⟩ := h
    refine .record ?_
    simp [legible_of_le, depth, *]
  read rule h := by
    obtain ⟨_⟩ := h
    refine read?_record (fun _ => rfl) rfl (by dsimp only [List.map]; decide) fun hnames => ?_
    simp [Members.required, Members.optional, Members.defaulted,
      Members.get?_named hnames, read?_toData, *]

structure RuleDocument.IsOrdinary (document : RuleDocument) : Prop where
  sanityRules : Ordinary document.sanityRules
  customRules : Ordinary document.customRules
  businessRules : Ordinary document.businessRules

instance : Faithful RuleDocument where
  Ordinary := RuleDocument.IsOrdinary
  depth := 5
  legible document h := by
    obtain ⟨_, _, _⟩ := h
    refine .record ?_
    simp [legible_of_le, depth, *]
  read document h := by
    obtain ⟨_, _, _⟩ := h
    refine read?_record (fun _ => rfl) rfl (by dsimp only [List.map]; decide) fun hnames => ?_
    simp [Members.defaulted, Members.get?_named hnames, read?_toData, *]

end FisheryRules
