/-!
# Tables

Rows in ascending order of a key that each of them carries, no two with the same key.

## Main definitions

* `Table` — the rows of a table, and that their keys ascend.
* `Table.put`, `Table.erase`, `Table.find?` — the operations.
-/
namespace FisheryRules

/-- Rows in ascending order of their keys. A key is read off its row, so no row is ever kept under a
key that is not its own. -/
structure Table (α : Type) (key : α → String) where
  rows : List α
  ascending : (rows.map key).Pairwise (· < ·)

namespace Table

variable {α : Type} {key : α → String}

def empty : Table α key := ⟨[], .nil⟩

instance : Inhabited (Table α key) := ⟨empty⟩

theorem ext {s t : Table α key} (h : s.rows = t.rows) : s = t := by
  cases s; cases t; cases h; rfl

/-- Puts a row into ascending rows. It takes the place of a row with the same key. -/
def putRow (key : α → String) (row : α) : List α → List α
  | [] => [row]
  | first :: others =>
    if key row < key first then row :: first :: others
    else if key row = key first then row :: others
    else first :: putRow key row others

theorem keys_putRow {row : α} {rows : List α} {k : String} :
    k ∈ (putRow key row rows).map key ↔ k = key row ∨ k ∈ rows.map key := by
  induction rows with
  | nil => simp [putRow]
  | cons first others ih =>
    unfold putRow
    split
    · simp
    · split
      · next h => simp [h]
      · simp only [List.map_cons, List.mem_cons, ih]
        constructor
        · rintro (h | h | h) <;> simp [h]
        · rintro (h | h | h) <;> simp [h]

theorem putRow_ascending {row : α} {rows : List α}
    (h : (rows.map key).Pairwise (· < ·)) :
    ((putRow key row rows).map key).Pairwise (· < ·) := by
  induction rows with
  | nil => simp [putRow]
  | cons first others ih =>
    obtain ⟨below, rest⟩ := List.pairwise_cons.1 h
    unfold putRow
    split
    · next lt =>
      refine List.pairwise_cons.2 ⟨fun k hk => ?_, h⟩
      rcases List.mem_cons.1 hk with rfl | hk
      · exact lt
      · exact String.lt_trans lt (below k hk)
    · split
      · next e => exact List.pairwise_cons.2 ⟨fun k hk => e ▸ below k hk, rest⟩
      · next nlt ne =>
        refine List.pairwise_cons.2 ⟨fun k hk => ?_, ih rest⟩
        rcases keys_putRow.1 hk with rfl | hk
        · exact Std.lt_of_le_of_ne (String.not_lt.1 nlt) (Ne.symm ne)
        · exact below k hk

/-- The table with a row in the place of its key. -/
def put (table : Table α key) (row : α) : Table α key :=
  ⟨putRow key row table.rows, putRow_ascending table.ascending⟩

/-- The table without the row of a key. -/
def erase (table : Table α key) (k : String) : Table α key :=
  ⟨table.rows.filter (key · != k), table.ascending.sublist (List.filter_sublist.map key)⟩

/-- The row of a key. -/
def find? (table : Table α key) (k : String) : Option α := table.rows.find? (key · == k)

theorem find?_putRow (row : α) (rows : List α) (k : String) :
    (putRow key row rows).find? (key · == k) =
      if key row = k then some row else rows.find? (key · == k) := by
  induction rows with
  | nil =>
    rw [putRow, List.find?_singleton]
    simp
  | cons first others ih =>
    unfold putRow
    split
    · by_cases hrow : key row = k
      · simp [hrow]
      · rw [List.find?_cons_of_neg (by simpa using hrow), if_neg hrow]
    · split
      · next heq =>
        by_cases hrow : key row = k
        · simp [hrow]
        · rw [List.find?_cons_of_neg (by simpa using hrow), if_neg hrow,
            List.find?_cons_of_neg (by simpa [← heq] using hrow)]
      · next hne =>
        by_cases hfirst : key first = k
        · have hrow : key row ≠ k := hfirst ▸ hne
          simp [hfirst, hrow]
        · rw [List.find?_cons_of_neg (by simpa using hfirst),
            List.find?_cons_of_neg (by simpa using hfirst), ih]

/-- A row that is put into a table is found under its key, and other rows are as before. -/
theorem find?_put (table : Table α key) (row : α) (k : String) :
    (table.put row).find? k = if key row = k then some row else table.find? k :=
  find?_putRow row table.rows k

end Table

end FisheryRules
