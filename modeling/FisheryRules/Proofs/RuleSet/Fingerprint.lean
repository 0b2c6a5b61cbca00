import FisheryRules.Proofs.Data.Json
import FisheryRules.Proofs.RuleSet.Definition
import FisheryRules.RuleSet.Fingerprint

/-!
# What a fingerprint tells apart

The text that is digested for the fingerprint of a snapshot has the signatures of all definitions,
and a signature has the parts of its definition, as long as no text of a definition has the
separators in it.

## Main definitions

* `Definition.signature`, `Definition.fields` — the signature of a definition, and the parts of it.
* `Definition.Separable` — the definitions whose parts are found again in the text.
-/
namespace FisheryRules

open Text

namespace Definition

/-- The text that stands for a definition in a fingerprint. -/
def signature : Definition → List Char
  | sanity rule => rule.signature
  | custom rule => rule.signature
  | business rule => rule.signature

/-- The spelling of the time of a change. -/
def changeTime (updated : Option Instant) : List Char := (updated.map (·.toOffset.toList)).getD []

/-- The parts of a signature but for the last one, which is the author. -/
def fields : Definition → List (List Char)
  | sanity rule =>
    [caselessPart rule.name, caselessPart rule.expression, caselessPart (rule.description.getD ""),
      changeTime rule.updated]
  | custom rule =>
    [rule.guid.toList, caselessPart rule.name, lowerChars (toData rule.sortedSegments).toJson,
      rule.actionChars, (toData rule.intervals).toJson, caselessPart (rule.description.getD ""),
      changeTime rule.updated]
  | business rule =>
    [rule.brId.toList, rule.factType.name.toList, caselessPart rule.expression,
      rule.message.toList, rule.errorType.code.toList, rule.level.toList,
      (rule.propertyNames.getD "").toList, changeTime rule.updated]

/-- Who changed a definition last. -/
def author : Definition → String
  | sanity rule => rule.updatedBy.getD ""
  | custom rule => rule.updatedBy.getD ""
  | business rule => rule.updatedBy.getD ""

theorem signature_eq (definition : Definition) :
    definition.signature =
      joinWith [signatureSeparator] (definition.fields ++ [definition.author.toList]) := by
  cases definition <;> rfl

/-- The texts that go into the parts of a signature. -/
def texts : Definition → List String
  | sanity rule => [rule.name, rule.expression, rule.description.getD ""]
  | custom rule => [rule.guid, rule.name, rule.actionList, rule.description.getD ""]
  | business rule =>
    [rule.brId, rule.expression, rule.message, rule.level, rule.propertyNames.getD ""]

/-- When a rule may fire. -/
def intervals : Definition → List TimeInterval
  | custom rule => rule.intervals
  | sanity _ | business _ => []

/-- No text of the definition has the separator of parts in it, the author has no line feed, and the
ends of all windows are proper instants. -/
structure Separable (definition : Definition) : Prop where
  texts : ∀ text ∈ definition.texts, signatureSeparator ∉ text.toList
  author : '\n' ∉ definition.author.toList
  intervals : ∀ interval ∈ definition.intervals, interval.IsProper

def category : Definition → RuleCategory
  | sanity _ => .sanity
  | custom _ => .custom
  | business _ => .business

/-! ## Fields -/

theorem isControl_separator : IsControl signatureSeparator := ⟨by decide, by decide⟩

theorem separator_notMem_caselessPart {s : String} (h : signatureSeparator ∉ s.toList) :
    signatureSeparator ∉ caselessPart s := by
  rwa [caselessPart, mem_lowerChars isControl_separator]

theorem separator_notMem_changeTime (updated : Option Instant) :
    signatureSeparator ∉ changeTime updated := by
  cases updated with
  | none => simp [changeTime]
  | some t =>
    intro hmem
    have hall := Timestamp.all_write
      (by decide : ['+', '0', '0', ':', '0', '0'].all Timestamp.isStampChar = true) t
    have hmem : signatureSeparator ∈ Timestamp.write ['+', '0', '0', ':', '0', '0'] t := by
      simpa [changeTime, Instant.toOffset] using hmem
    exact absurd (List.all_eq_true.1 hall _ hmem) (by decide)

theorem separator_notMem_toJson (data : Data) : signatureSeparator ∉ data.toJson := fun hmem =>
  absurd (List.all_eq_true.1 (Data.all_toJson data) _ hmem) (by decide)

theorem Separable.fields {definition : Definition} (h : definition.Separable) :
    ∀ field ∈ definition.fields, signatureSeparator ∉ field := by
  have htexts := h.texts
  cases definition with
  | sanity rule =>
    simp only [Definition.texts, List.forall_mem_cons] at htexts
    obtain ⟨hname, hexpression, hdescription, -⟩ := htexts
    simp only [Definition.fields, List.forall_mem_cons]
    exact ⟨separator_notMem_caselessPart hname, separator_notMem_caselessPart hexpression,
      separator_notMem_caselessPart hdescription, separator_notMem_changeTime _,
      List.forall_mem_nil _⟩
  | custom rule =>
    simp only [Definition.texts, List.forall_mem_cons] at htexts
    obtain ⟨hguid, hname, hactions, hdescription, -⟩ := htexts
    simp only [Definition.fields, List.forall_mem_cons]
    refine ⟨hguid, separator_notMem_caselessPart hname, ?_, ?_, separator_notMem_toJson _,
      separator_notMem_caselessPart hdescription, separator_notMem_changeTime _,
      List.forall_mem_nil _⟩
    · rw [mem_lowerChars isControl_separator]
      exact separator_notMem_toJson _
    · simpa [CustomRule.actionList] using hactions
  | business rule =>
    simp only [Definition.texts, List.forall_mem_cons] at htexts
    obtain ⟨hid, hexpression, hmessage, hlevel, hproperty, -⟩ := htexts
    simp only [Definition.fields, List.forall_mem_cons]
    refine ⟨hid, ?_, separator_notMem_caselessPart hexpression, hmessage, ?_, hlevel, hproperty,
      separator_notMem_changeTime _, List.forall_mem_nil _⟩
    · cases rule.factType <;> decide
    · cases rule.errorType <;> decide

/-- How many parts a signature has before the last one. -/
def width : RuleCategory → Nat
  | .sanity => 4
  | .custom => 7
  | .business => 8

theorem length_fields (definition : Definition) :
    definition.fields.length = width definition.category := by
  cases definition <;> rfl

theorem Separable.isRecord {definition : Definition} (h : definition.Separable) :
    IsRecord signatureSeparator '\n' (width definition.category) definition.signature :=
  ⟨definition.fields, definition.author.toList, definition.length_fields, h.fields, h.author,
    definition.signature_eq⟩

/-- A signature has the parts of its definition. -/
theorem Separable.parts_eq {a b : Definition} (ha : a.Separable) (hb : b.Separable)
    (hcategory : a.category = b.category) (h : a.signature = b.signature) :
    a.fields = b.fields ∧ a.author = b.author := by
  have hlength : a.fields.length = b.fields.length := by
    rw [length_fields, length_fields, hcategory]
  have hjoined : joinWith [signatureSeparator] (a.fields ++ [a.author.toList]) ++ [] =
      joinWith [signatureSeparator] (b.fields ++ [b.author.toList]) ++ [] := by
    rw [List.append_nil, List.append_nil, ← signature_eq, ← signature_eq, h]
  obtain ⟨hfields, hauthor, -⟩ := joinWith_append_inj hlength ha.fields hb.fields ha.author
    hb.author (by simp) (by simp) hjoined
  exact ⟨hfields, String.toList_inj.1 hauthor⟩

theorem Separable.fields_eq {a b : Definition} (ha : a.Separable) (hb : b.Separable)
    (hcategory : a.category = b.category) (h : a.signature = b.signature) :
    a.fields = b.fields :=
  (ha.parts_eq hb hcategory h).1

end Definition

namespace Snapshot

theorem category_of_mem {snapshot : Snapshot} {definition : Definition}
    (h : definition ∈ snapshot.definitions) : definition.category = snapshot.category := by
  cases snapshot <;> obtain ⟨rule, -, rfl⟩ := List.mem_map.1 h <;> rfl

theorem signatures_perm (snapshot : Snapshot) :
    snapshot.signatures.Perm (snapshot.definitions.map Definition.signature) := by
  cases snapshot <;>
  · simp only [signatures, definitions, List.map_map]
    exact List.mergeSort_perm _ _

/-- The digested text has the signatures of all definitions. -/
theorem perm_of_fingerprintChars_eq {a b : Snapshot} (hcategory : a.category = b.category)
    (ha : ∀ definition ∈ a.definitions, definition.Separable)
    (hb : ∀ definition ∈ b.definitions, definition.Separable)
    (h : a.fingerprintChars = b.fingerprintChars) :
    (a.definitions.map Definition.signature).Perm (b.definitions.map Definition.signature) := by
  have hrecord (snapshot : Snapshot)
      (hall : ∀ definition ∈ snapshot.definitions, definition.Separable) :
      ∀ record ∈ snapshot.signatures,
        IsRecord signatureSeparator '\n' (Definition.width snapshot.category) record := by
    intro record hmem
    obtain ⟨definition, hdefinition, rfl⟩ :=
      List.mem_map.1 (snapshot.signatures_perm.mem_iff.1 hmem)
    exact category_of_mem hdefinition ▸ (hall definition hdefinition).isRecord
  rw [fingerprintChars, fingerprintChars, hcategory] at h
  have hsignatures : a.signatures = b.signatures :=
    records_inj (hcategory ▸ hrecord a ha) (hrecord b hb) (List.append_cancel_left h)
  exact a.signatures_perm.symm.trans (hsignatures ▸ b.signatures_perm)

end Snapshot

end FisheryRules
