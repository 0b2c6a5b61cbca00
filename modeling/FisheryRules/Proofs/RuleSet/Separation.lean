import FisheryRules.Proofs.RuleSet.Wording
import FisheryRules.Proofs.Rule.SegmentForm

/-!
# Differences that a fingerprint shows

The bytes that are digested for the fingerprint of a snapshot say what its definitions say, up to
their order and to letter case where it does not matter. Two kinds of differences do not show: an
absent text is digested as an empty one, and a separator that stands in a text is digested as one
that stands between texts.

## Main definitions

* `Definition.Content`, `Definition.content` — what a definition says, and who changed it when.
* `Snapshot.digested` — the bytes that are digested.
* `Snapshot.Legible` — the two snapshots have no difference of the kinds that do not show.
* `Snapshot.Confused` — the two snapshots have such a difference.
-/
namespace FisheryRules

open Text

namespace Definition

/-- What a definition says, without regard to letter case in its name, its condition and its
description, and who changed it when. -/
structure Content where
  /-- The id and the name. -/
  names : List String
  condition : String ⊕ List Segment
  description : Option String
  updated : Option Instant
  updatedBy : Option String
deriving DecidableEq

def names : Definition → List String
  | sanity rule => [lowerCase rule.name]
  | custom rule => [rule.guid, lowerCase rule.name]
  | business rule => [rule.brId]

def condition : Definition → String ⊕ List Segment
  | sanity rule => .inl (lowerCase rule.expression)
  | custom rule => .inr (rule.sortedSegments.map Segment.foldCase)
  | business rule => .inl (lowerCase rule.expression)

def description : Definition → Option String
  | sanity rule => rule.description
  | custom rule => rule.description
  | business _ => none

def updated : Definition → Option Instant
  | sanity rule => rule.updated
  | custom rule => rule.updated
  | business rule => rule.updated

def updatedBy : Definition → Option String
  | sanity rule => rule.updatedBy
  | custom rule => rule.updatedBy
  | business rule => rule.updatedBy

def content (definition : Definition) : Content where
  names := definition.names
  condition := definition.condition
  description := definition.description.map lowerCase
  updated := definition.updated
  updatedBy := definition.updatedBy

/-! ## Parts of a signature -/

theorem author_eq (definition : Definition) : definition.author = definition.updatedBy.getD "" := by
  cases definition <;> rfl

theorem lowerCase_eq_of_caselessPart_eq {s t : String} (h : caselessPart s = caselessPart t) :
    lowerCase s = lowerCase t := congrArg String.ofList h

/-- What the parts of a signature say. -/
theorem said_of_fields_eq {a b : Definition} (hcategory : a.category = b.category)
    (h : a.fields = b.fields) :
    a.names = b.names ∧ a.condition = b.condition ∧
      lowerCase (a.description.getD "") = lowerCase (b.description.getD "") ∧
      changeTime a.updated = changeTime b.updated := by
  cases a with
  | sanity a =>
    cases b with
    | custom | business => cases hcategory
    | sanity b =>
      simp only [fields, List.cons.injEq] at h
      obtain ⟨hname, hexpression, hdescription, htime, -⟩ := h
      simp only [names, condition, description, updated, lowerCase_eq_of_caselessPart_eq hname,
        lowerCase_eq_of_caselessPart_eq hexpression, lowerCase_eq_of_caselessPart_eq hdescription,
        htime, and_self]
  | custom a =>
    cases b with
    | sanity | business => cases hcategory
    | custom b =>
      simp only [fields, List.cons.injEq] at h
      obtain ⟨hguid, hname, hsegments, -, -, hdescription, htime, -⟩ := h
      simp only [names, condition, description, updated, String.toList_inj.1 hguid,
        lowerCase_eq_of_caselessPart_eq hname, Segment.map_foldCase_eq hsegments,
        lowerCase_eq_of_caselessPart_eq hdescription, htime, and_self]
  | business a =>
    cases b with
    | sanity | custom => cases hcategory
    | business b =>
      simp only [fields, List.cons.injEq] at h
      obtain ⟨hid, -, hexpression, -, -, -, -, htime, -⟩ := h
      simp only [names, condition, description, updated, String.toList_inj.1 hid,
        lowerCase_eq_of_caselessPart_eq hexpression, htime, and_self]

theorem changeTime_injective {updated updated' : Option Instant}
    (hproper : ∀ t ∈ updated, t.IsProper) (hproper' : ∀ t ∈ updated', t.IsProper)
    (h : changeTime updated = changeTime updated') : updated = updated' := by
  have hwritten (t : Instant) :
      changeTime (some t) = Timestamp.write ['+', '0', '0', ':', '0', '0'] t :=
    String.toList_ofList
  have hsome (t : Instant) : changeTime (some t) ≠ changeTime none := by
    rw [hwritten]
    simp [changeTime, Timestamp.write]
  cases updated with
  | none =>
    cases updated' with
    | none => rfl
    | some t' => exact absurd h.symm (hsome t')
  | some t =>
    cases updated' with
    | none => exact absurd h (hsome t)
    | some t' =>
      rw [hwritten, hwritten] at h
      rw [Timestamp.write_injective (hproper t rfl) (hproper' t' rfl) h]

theorem eq_empty_of_lowerCase_eq {s : String} (h : lowerCase s = lowerCase "") : s = "" := by
  have hchars : lowerFrom [] s.toList = [] := by
    simpa [lowerCase, lowerChars, lowerFrom] using congrArg String.toList h
  cases hs : s.toList with
  | nil => exact String.toList_inj.1 hs
  | cons c rest =>
    rw [hs, lowerFrom] at hchars
    split at hchars
    · simp at hchars
    · split at hchars <;> simp at hchars

/-- Texts that are both there, or both absent, are the same up to letter case as soon as they are
with an empty text for an absent one. -/
theorem map_lowerCase_eq {s t : Option String} (hpresent : s.getD "" = t.getD "" → s = t)
    (h : lowerCase (s.getD "") = lowerCase (t.getD "")) : s.map lowerCase = t.map lowerCase := by
  cases s with
  | none =>
    cases t with
    | none => rfl
    | some t =>
      obtain rfl : t = "" := eq_empty_of_lowerCase_eq h.symm
      cases hpresent rfl
  | some s =>
    cases t with
    | none =>
      obtain rfl : s = "" := eq_empty_of_lowerCase_eq h
      cases hpresent rfl
    | some t => exact congrArg some h

end Definition

namespace Snapshot

/-- The bytes that are digested for the fingerprint. -/
def digested (snapshot : Snapshot) : List UInt8 :=
  (String.ofList snapshot.fingerprintChars).toUTF8.data.toList

/-- No separator of the fingerprint stands in a text of the definitions, all instants are proper
ones, and no text that is absent on one side is empty on the other. -/
structure Legible (a b : Snapshot) : Prop where
  separable : ∀ definition ∈ a.definitions ++ b.definitions, definition.Separable
  updated : ∀ definition ∈ a.definitions ++ b.definitions, ∀ t ∈ definition.updated, t.IsProper
  description : ∀ x ∈ a.definitions, ∀ y ∈ b.definitions,
    x.description.getD "" = y.description.getD "" → x.description = y.description
  updatedBy : ∀ x ∈ a.definitions, ∀ y ∈ b.definitions,
    x.updatedBy.getD "" = y.updatedBy.getD "" → x.updatedBy = y.updatedBy

theorem digested_inj {a b : Snapshot} :
    a.digested = b.digested ↔ a.fingerprintChars = b.fingerprintChars := by
  refine ⟨fun h => ?_, fun h => by rw [digested, digested, h]⟩
  have hbytes := ByteArray.ext (Array.toList_inj.1 h)
  exact String.ofList_injective (String.toByteArray_inj.1 hbytes)

/-- The digested bytes say what the definitions say. -/
theorem content_perm_of_digested_eq {a b : Snapshot} (hcategory : a.category = b.category)
    (hlegible : a.Legible b) (h : a.digested = b.digested) :
    (a.definitions.map Definition.content).Perm (b.definitions.map Definition.content) := by
  obtain ⟨hseparableA, hseparableB⟩ := List.forall_mem_append.1 hlegible.separable
  obtain ⟨hproperA, hproperB⟩ := List.forall_mem_append.1 hlegible.updated
  have hsignatures := perm_of_fingerprintChars_eq hcategory hseparableA hseparableB
    (digested_inj.1 h)
  refine perm_map_of_perm_map hsignatures fun x hx y hy hsignature => ?_
  have hcategories : x.category = y.category := by
    rw [category_of_mem hx, category_of_mem hy, hcategory]
  obtain ⟨hfields, hauthor⟩ :=
    (hseparableA x hx).parts_eq (hseparableB y hy) hcategories hsignature
  obtain ⟨hnames, hcondition, hdescription, htime⟩ :=
    Definition.said_of_fields_eq hcategories hfields
  rw [Definition.author_eq, Definition.author_eq] at hauthor
  simp only [Definition.content, hnames, hcondition,
    Definition.map_lowerCase_eq (hlegible.description x hx y hy) hdescription,
    Definition.changeTime_injective (hproperA x hx) (hproperB y hy) htime,
    hlegible.updatedBy x hx y hy hauthor]

/-- The two snapshots say different things, but the same bytes are digested for both. -/
def Confused (a b : Snapshot) : Prop :=
  a.category = b.category ∧
    ¬ (a.definitions.map Definition.content).Perm (b.definitions.map Definition.content) ∧
    a.digested = b.digested

/-- A text that is absent is confused with an empty one, the end of an expression from a separator
on with the start of a description, and a second definition with the end of an author from a line
feed on. -/
theorem confused_absent_and_moved :
    let plain : SanityRule := { name := "Flag", expression := "latitude == null" }
    let longer : SanityRule := { plain with expression := "latitude == null\x1f" }
    let other : SanityRule := { name := "Sign", expression := "longitude == null" }
    let author := "x\nsign\x1flongitude == null\x1f\x1f\x1f"
    Confused (.sanity [plain]) (.sanity [{ plain with description := some "" }]) ∧
      Confused (.sanity [plain]) (.sanity [{ plain with updatedBy := some "" }]) ∧
      Confused (.sanity [{ plain with description := some "\x1fx" }])
        (.sanity [{ longer with description := some "x" }]) ∧
      Confused (.sanity [{ plain with updatedBy := some "x" }, other])
        (.sanity [{ plain with updatedBy := some author }]) := by
  intro plain longer other author
  have hsorted : (sanity [{ plain with updatedBy := some "x" }, other]).signatures =
      [SanityRule.signature { plain with updatedBy := some "x" }, other.signature] := by
    refine List.mergeSort_of_pairwise ?_
    simp only [List.map_cons, List.map_nil, List.pairwise_pair]
    decide +kernel
  have hmerged : (sanity [{ plain with updatedBy := some "x" }, other]).fingerprintChars =
      (sanity [{ plain with updatedBy := some author }]).fingerprintChars := by
    rw [fingerprintChars, hsorted]
    decide +kernel
  refine ⟨⟨rfl, ?_, digested_inj.2 ?_⟩, ⟨rfl, ?_, digested_inj.2 ?_⟩,
    ⟨rfl, ?_, digested_inj.2 ?_⟩, rfl, ?_, digested_inj.2 hmerged⟩
  all_goals decide +kernel

end Snapshot

end FisheryRules
