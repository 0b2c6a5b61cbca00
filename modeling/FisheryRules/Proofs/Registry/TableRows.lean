import FisheryRules.Proofs.Keys
import FisheryRules.Proofs.Results
import FisheryRules.Registry.Table

/-!
# Rows of tables

What the operations make of the rows of a table, as a set and up to order. The keys ascend, so a
table is known once its rows are known up to order: `Table.eq_of_perm`.

## Main results

* `Table.find?_eq_some_iff` — every row is found under its own key, and under no other.
* `Table.mem_put` — the rows after a row is put among them.
* `Table.foldl_put_perm` — rows without a key in common are all kept.
-/
namespace FisheryRules.Table

variable {α : Type} {key : α → String}

/-! ## Rows and keys -/

theorem nodup_keys (table : Table α key) : (table.rows.map key).Nodup :=
  List.nodup_iff_pairwise_ne.2 (table.ascending.imp String.ne_of_lt)

theorem find?_eq_some_iff {table : Table α key} {k : String} {row : α} :
    table.find? k = some row ↔ row ∈ table.rows ∧ key row = k := by
  constructor
  · intro h
    exact ⟨List.mem_of_find?_eq_some h, by simpa using List.find?_some h⟩
  · rintro ⟨hmem, rfl⟩
    exact find?_key_eq_some table.nodup_keys hmem

/-- Ascending keys leave the rows no choice of order. -/
theorem eq_of_perm {table other : Table α key} (h : other.rows.Perm table.rows) :
    other = table := by
  apply ext
  have hascends (table : Table α key) : table.rows.Pairwise fun a b => key a < key b :=
    List.pairwise_map.1 table.ascending
  refine h.eq_of_pairwise ?_ (hascends other) (hascends table)
  intro a b _ _ hab hba
  exact absurd hba (String.lt_asymm hab)

/-! ## One change -/

/-- A row that takes the place of one with the same key, and has the same picture, leaves the
pictures of all rows as they are. -/
theorem map_putRow {β : Type} {f : α → β} {row changed : α} {rows : List α}
    (hascending : (rows.map key).Pairwise (· < ·)) (hmem : row ∈ rows)
    (hkey : key changed = key row) (hf : f changed = f row) :
    (putRow key changed rows).map f = rows.map f := by
  induction rows with
  | nil => cases hmem
  | cons first others ih =>
    obtain ⟨habove, hothers⟩ := List.pairwise_cons.1 hascending
    unfold putRow
    obtain rfl | hmem := List.mem_cons.1 hmem
    · rw [if_neg (hkey ▸ String.lt_irrefl _), if_pos hkey, List.map_cons, List.map_cons, hf]
    -- The rows before the one that is replaced have smaller keys.
    · have hlt : key first < key changed := hkey ▸ habove _ (List.mem_map_of_mem hmem)
      rw [if_neg (String.lt_asymm hlt), if_neg fun heq => String.lt_irrefl _ (heq ▸ hlt),
        List.map_cons, List.map_cons, ih hothers hmem]

/-- A row with a key of its own is put beside the other rows. -/
theorem putRow_perm {row : α} {rows : List α} (h : key row ∉ rows.map key) :
    (putRow key row rows).Perm (row :: rows) := by
  induction rows with
  | nil => exact .refl _
  | cons first others ih =>
    obtain ⟨hfirst, hothers⟩ : key row ≠ key first ∧ key row ∉ others.map key := by simpa using h
    unfold putRow
    split
    · exact .refl _
    · exact ((ih hothers).cons first).trans (.swap row first others)

theorem mem_put {table : Table α key} {row other : α} :
    other ∈ (table.put row).rows ↔ other = row ∨ other ∈ table.rows ∧ key other ≠ key row := by
  have hfound : other ∈ (table.put row).rows ↔
      (table.put row).find? (key other) = some other := by
    simp [find?_eq_some_iff]
  rw [hfound, find?_put]
  split
  · next hkey => grind
  · next hkey => grind [find?_eq_some_iff]

/-! ## Many rows -/

/-- Rows with new keys, none twice, are put beside those that are there. -/
theorem foldl_put_perm {rows : List α} {table : Table α key}
    (h : (rows.map key ++ table.rows.map key).Nodup) :
    (rows.foldl put table).rows.Perm (rows ++ table.rows) := by
  induction rows generalizing table with
  | nil => exact .refl _
  | cons row others ih =>
    obtain ⟨hnew, hothers⟩ := List.nodup_cons.1 h
    have hperm : (table.put row).rows.Perm (row :: table.rows) :=
      putRow_perm fun hmem => hnew (List.mem_append_right _ hmem)
    have hkeys : (others.map key ++ (table.put row).rows.map key).Perm
        ((row :: others).map key ++ table.rows.map key) :=
      ((hperm.map key).append_left _).trans List.perm_middle
    calc (others.foldl put (table.put row)).rows
        |>.Perm (others ++ (table.put row).rows) := ih (hkeys.nodup_iff.2 h)
      _ |>.Perm (others ++ row :: table.rows) := hperm.append_left _
      _ |>.Perm (row :: others ++ table.rows) := List.perm_middle

theorem foldl_put_empty_perm {rows : List α} (h : (rows.map key).Nodup) :
    (rows.foldl put (empty : Table α key)).rows.Perm rows := by
  have hperm := @foldl_put_perm α key rows empty
    (by simpa [empty] using h)
  simpa [empty] using hperm

end FisheryRules.Table
