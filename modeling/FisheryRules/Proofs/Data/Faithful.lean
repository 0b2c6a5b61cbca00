import FisheryRules.Data.Serialized
import FisheryRules.Proofs.Data.JsonText
import FisheryRules.Proofs.Identifier
import FisheryRules.Proofs.Keys
import FisheryRules.Proofs.Time.LooseTimestamp

/-!
# Values that survive being written

A value survives when the JSON text that it is written as is read as that value. Whether it does is
settled type by type: what is asked of a value is asked of the numbers and instants inside it, and
a record survives when its members do.

## Main definitions

* `Faithful` — the types whose ordinary values survive.
* `Faithful.Plain` — those of them whose values are all ordinary.
* `reread?` — writes a value as a JSON text and reads it again.

## Main results

* `Faithful.reread?_eq` — ordinary values survive.
* `Members.get?_named` — how a written member is read.
-/
namespace FisheryRules

/-- A type whose values survive being written, those of them that are ordinary. -/
class Faithful (α : Type) [Serialized α] where
  Ordinary : α → Prop
  /-- How deep the lists and records inside a value nest. -/
  depth : Nat
  legible : ∀ a, Ordinary a → (toData a).Legible depth
  read : ∀ a, Ordinary a → (toData a).read? = some a

/-- Writes a value as a JSON text and reads it again. -/
def reread? {α : Type} [Serialized α] (a : α) : Option α :=
  (Data.ofJson? (String.ofList (toData a).toJson)).bind Data.read?

/-! ## Sets -/

namespace KeySet

theorem insertKey_of_lt {key : String} {keys : List String} (h : ∀ x ∈ keys, x < key) :
    insertKey key keys = keys ++ [key] := by
  induction keys with
  | nil => rfl
  | cons first others ih =>
    obtain ⟨hfirst, hothers⟩ := List.forall_mem_cons.1 h
    have hne : key ≠ first := by
      rintro rfl
      exact String.lt_irrefl _ hfirst
    rw [insertKey, if_neg (String.lt_asymm hfirst), if_neg hne, ih hothers, List.cons_append]

/-- Ascending members are inserted one after the other. -/
theorem toList_foldl_insert {set : KeySet} {keys : List String}
    (h : (set.toList ++ keys).Pairwise (· < ·)) :
    (keys.foldl insert set).toList = set.toList ++ keys := by
  induction keys generalizing set with
  | nil => simp
  | cons key keys ih =>
    obtain ⟨-, -, hbelow⟩ := List.pairwise_append.1 h
    have hinsert : (set.insert key).toList = set.toList ++ [key] :=
      insertKey_of_lt fun x hx => hbelow x hx key List.mem_cons_self
    rw [List.foldl_cons, ih (by simpa [hinsert] using h), hinsert, List.append_assoc]
    rfl

theorem ofList_toList (set : KeySet) : ofList set.toList = set :=
  ext (toList_foldl_insert set.ascending)

end KeySet

namespace Faithful

/-- All values of the type are ordinary. -/
class Plain (α : Type) [Serialized α] [Faithful α] : Prop where
  ordinary : ∀ a : α, Ordinary a

/-- No value of the type is written as an absent one is. -/
class Present (α : Type) [Serialized α] : Prop where
  ne_null : ∀ a : α, toData a ≠ .null

section Values

variable {α : Type} [Serialized α] [Faithful α]

@[simp] theorem ordinary_of_plain [Plain α] (a : α) : Ordinary a := Plain.ordinary a

theorem read?_toData {a : α} (h : Ordinary a) : (toData a).read? = some a := read a h

theorem legible_of_le {a : α} {limit : Nat} (h : Ordinary a) (hle : depth α ≤ limit) :
    (toData a).Legible limit := (legible a h).mono hle

/-- An ordinary value is read back from its JSON text. -/
theorem reread?_eq {a : α} (h : Ordinary a) (hdepth : depth α ≤ Json.maxDepth) :
    reread? a = some a := by
  rw [reread?, Data.ofJson?_toJson (legible_of_le h hdepth), Option.bind_some, read?_toData h]

end Values

/-! ## Scalars -/

instance : Faithful String where
  Ordinary _ := True
  depth := 0
  legible _ _ := .text
  read _ _ := rfl

instance : Plain String := ⟨fun _ => trivial⟩

instance : Present String := ⟨nofun⟩

instance : Faithful Bool where
  Ordinary _ := True
  depth := 0
  legible _ _ := .bool
  read _ _ := rfl

instance : Plain Bool := ⟨fun _ => trivial⟩

theorem read?_integer (value : Int) : (Data.integer value).read? =
    if 0 ≤ value && value < 4294967296 then some (UInt32.ofNat value.toNat) else none := by
  simp only [Data.read?, Serialized.ofData?, Option.bind_some]

instance : Faithful UInt32 where
  Ordinary _ := True
  depth := 0
  legible n _ := .integer <| by
    have hlt : n.toNat < 4294967296 := n.toNat_lt
    have hneg : ¬ (n.toNat : Int) < 0 := by omega
    simp only [hneg, decide_false, Json.isShort, Int.natAbs_natCast, Bool.false_eq_true, if_false,
      decide_eq_true_eq]
    omega
  read n _ := by
    have hlt : n.toNat < 4294967296 := n.toNat_lt
    have hrange : (0 ≤ (n.toNat : Int) && (n.toNat : Int) < 4294967296) = true := by
      simp only [Bool.and_eq_true, decide_eq_true_eq]
      omega
    have hdata : toData n = .integer n.toNat := by simp only [toData]
    rw [hdata, read?_integer, if_pos hrange, Int.toNat_natCast, UInt32.ofNat_toNat]

instance : Plain UInt32 := ⟨fun _ => trivial⟩

instance : Faithful Binary64 where
  Ordinary x := x.isFinite = true
  depth := 0
  legible _ := .real
  read _ _ := rfl

instance : Present Binary64 := ⟨nofun⟩

instance : Faithful Instant where
  Ordinary t := t.IsProper ∧ t.HasPlainYear
  depth := 0
  legible _ _ := .text
  read t h := by
    simp only [Data.read?, Serialized.ofData?, toData, Data.textOf?, Option.bind_some]
    exact Timestamp.readLoose?_toZulu h.1 h.2

instance : Present Instant := ⟨nofun⟩

instance : Faithful Uuid where
  Ordinary _ := True
  depth := 0
  legible _ _ := .text
  read id _ := by
    simp only [Data.read?, Serialized.ofData?, toData, Data.textOf?, Option.bind_some]
    exact Uuid.parse?_toText id

instance : Plain Uuid := ⟨fun _ => trivial⟩

/-! ## Enumerations -/

/-- An enumeration whose cases are written as codes, each case as one of its own. -/
class Coded (α : Type) [Serialized α] where
  all : List α
  code : α → String
  mem_all : ∀ a, a ∈ all
  nodup : (all.map code).Nodup
  toData_eq : ∀ a : α, toData a = .text (code a)
  read?_eq : ∀ data : Data, data.read? = data.readCase? all code

section Enumerations

variable {α : Type} [Serialized α] [Coded α]

instance : Faithful α where
  Ordinary _ := True
  depth := 0
  legible a _ := by
    rw [Coded.toData_eq]
    exact .text
  read a _ := by
    rw [Coded.toData_eq, Coded.read?_eq]
    exact find?_key_eq_some Coded.nodup (Coded.mem_all a)

instance : Plain α := ⟨fun _ => trivial⟩

end Enumerations

/-! ## Containers -/

section Containers

variable {α : Type} [Serialized α] [Faithful α]

instance [Present α] : Faithful (Option α) where
  Ordinary value := ∀ a ∈ value, Ordinary a
  depth := depth α
  legible value h := by
    cases value with
    | none => exact .null
    | some a => exact legible a (h a rfl)
  read value h := by
    cases value with
    | none => rfl
    | some a =>
      have hread : (toData a).read? = some a := read a (h a rfl)
      have hlegible := legible a (h a rfl)
      have hnull := Present.ne_null a
      show Data.read? (toData a) = some (some a)
      generalize toData a = data at hread hlegible hnull ⊢
      have hsome : (data.read? : Option (Option α)) = (data.read? : Option α).map some := by
        cases data with
        | null => exact absurd rfl hnull
        | plain raw => exact absurd rfl (hlegible.ne_plain raw)
        | _ => rfl
      rw [hsome, hread, Option.map_some]

instance [Present α] [Plain α] : Plain (Option α) := ⟨fun _ a _ => Plain.ordinary a⟩

instance : Faithful (List α) where
  Ordinary items := ∀ a ∈ items, Ordinary a
  depth := depth α + 1
  legible items h := .list <| by
    simpa using fun a ha => legible a (h a ha)
  read items h := by
    have hitem : (items.map toData).mapM (Data.read? : Data → Option α) = some items := by
      induction items with
      | nil => rfl
      | cons a items ih =>
        obtain ⟨ha, hitems⟩ := List.forall_mem_cons.1 h
        simp [read?_toData ha, ih hitems]
    exact hitem

instance [Plain α] : Plain (List α) := ⟨fun _ a _ => Plain.ordinary a⟩

instance : Present (List α) := ⟨nofun⟩

end Containers

instance : Faithful KeySet where
  Ordinary _ := True
  depth := 1
  legible set _ := legible set.toList (Plain.ordinary _)
  read set _ := by
    have hread : (toData set.toList).read? = some set.toList := read?_toData (Plain.ordinary _)
    show (Data.read? (toData set.toList)).map KeySet.ofList = some set
    rw [hread, Option.map_some, KeySet.ofList_toList]

instance : Plain KeySet := ⟨fun _ => trivial⟩

end Faithful

/-! ## Records -/

theorem Data.record_ne_null {members : List (String × Data)} : record members ≠ null := nofun

/-- A record whose members have names of their own is read by its members. -/
theorem read?_record {α : Type} [Serialized α] {count : Nat} {members : List (String × Data)}
    {read : Members → Option α} {a : α}
    (hreader : ∀ data : Data, data.read? = data.members? count >>= read)
    (hdata : toData a = .record members) (hnames : (members.map Prod.fst).Nodup)
    (hread : (members.map Prod.fst).Nodup → read (.named members) = some a) :
    (toData a).read? = some a := by
  rw [hreader, hdata]
  exact hread hnames

/-- The member at a position is read under its own name. -/
theorem Members.get?_named {α : Type} {members : List (String × Data)}
    (hnames : (members.map Prod.fst).Nodup) {position : Nat} {name : String} {absent : Option α}
    {read : Data → Option α} (hposition : position < members.length)
    (hname : members[position].1 = name) :
    (named members).get? position name absent read = read members[position].2 := by
  have hfilter := filter_key_eq_singleton hnames (List.getElem_mem hposition)
  rw [hname] at hfilter
  simp only [get?, hfilter]

/-- A member that was not written is absent. -/
theorem Members.get?_absent {α : Type} {members : List (String × Data)} {position : Nat}
    {name : String} {absent : Option α} {read : Data → Option α}
    (hname : name ∉ members.map Prod.fst) :
    (named members).get? position name absent read = absent := by
  have hfilter : members.filter (·.1 == name) = [] :=
    List.filter_eq_nil_iff.2 fun member hmem heq =>
      hname (beq_iff_eq.1 heq ▸ List.mem_map_of_mem hmem)
  simp only [get?, hfilter]

end FisheryRules
