/-!
# Key sets

A set of texts, listed in ascending order without repetition. Two sets with the same members are
equal.

## Main definitions

* `KeySet` — the type; the order of its list is part of it.
* `KeySet.insert`, `KeySet.ofList` — adding members.
-/
namespace FisheryRules

/-- A set of texts as its ascending list. -/
structure KeySet where
  toList : List String
  ascending : toList.Pairwise (· < ·)

namespace KeySet

theorem ext {a b : KeySet} (h : a.toList = b.toList) : a = b := by
  cases a; cases b; cases h; rfl

instance : DecidableEq KeySet := fun a b =>
  if h : a.toList = b.toList then isTrue (ext h) else isFalse fun e => h (e ▸ rfl)

theorem ascending_nil : ([] : List String).Pairwise (· < ·) := .nil

def empty : KeySet := ⟨[], ascending_nil⟩

instance : Inhabited KeySet := ⟨empty⟩

/-- Inserts a key into an ascending list that may hold it already. -/
def insertKey (key : String) : List String → List String
  | [] => [key]
  | first :: others =>
    if key < first then key :: first :: others
    else if key = first then first :: others
    else first :: insertKey key others

theorem mem_insertKey {key x : String} {keys : List String} :
    x ∈ insertKey key keys ↔ x = key ∨ x ∈ keys := by
  induction keys with
  | nil => simp [insertKey]
  | cons first others ih =>
    unfold insertKey
    split
    · simp
    · split
      · next h => subst h; simp
      · simp only [List.mem_cons, ih]
        constructor
        · rintro (h | h | h) <;> simp [h]
        · rintro (h | h | h) <;> simp [h]

theorem insertKey_ascending {key : String} {keys : List String}
    (h : keys.Pairwise (· < ·)) : (insertKey key keys).Pairwise (· < ·) := by
  induction keys with
  | nil => simp [insertKey]
  | cons first others ih =>
    obtain ⟨below, rest⟩ := List.pairwise_cons.1 h
    unfold insertKey
    split
    · next lt =>
      refine List.pairwise_cons.2 ⟨fun x hx => ?_, h⟩
      rcases List.mem_cons.1 hx with rfl | hx
      · exact lt
      · exact String.lt_trans lt (below x hx)
    · split
      · exact h
      · next nlt ne =>
        refine List.pairwise_cons.2 ⟨fun x hx => ?_, ih rest⟩
        rcases mem_insertKey.1 hx with rfl | hx
        · exact Std.lt_of_le_of_ne (String.not_lt.1 nlt) (Ne.symm ne)
        · exact below x hx

/-- The set with one more member. -/
def insert (set : KeySet) (key : String) : KeySet :=
  ⟨insertKey key set.toList, insertKey_ascending set.ascending⟩

/-- The set of the members of a list. -/
def ofList (keys : List String) : KeySet := keys.foldl insert empty

instance : Membership String KeySet := ⟨fun set key => key ∈ set.toList⟩

@[simp] theorem mem_insert {set : KeySet} {key x : String} :
    x ∈ set.insert key ↔ x = key ∨ x ∈ set := mem_insertKey

end KeySet

end FisheryRules
