import Mathlib

/-!
# Items with keys of their own

In a list where no key occurs twice, an item is the only one with its key, so it is what a search
for that key finds.
-/
namespace FisheryRules

variable {α : Type} {key : α → String} {xs : List α} {x : α}

/-- In a list with keys of their own there is one item with the key of an item. -/
theorem filter_key_eq_singleton (hkeys : (xs.map key).Nodup) (hx : x ∈ xs) :
    xs.filter (key · == key x) = [x] := by
  obtain ⟨before, after, rfl⟩ := List.append_of_mem hx
  rw [List.map_append, List.map_cons, List.nodup_middle, List.nodup_cons, List.mem_append] at hkeys
  have hothers {others : List α} (h : key x ∉ others.map key) :
      others.filter (key · == key x) = [] :=
    List.filter_eq_nil_iff.2 fun y hy heq => h (beq_iff_eq.1 heq ▸ List.mem_map_of_mem hy)
  rw [List.filter_append, List.filter_cons_of_pos (by simp), hothers fun h => hkeys.1 (.inl h),
    hothers fun h => hkeys.1 (.inr h), List.nil_append]

theorem find?_key_eq_some (hkeys : (xs.map key).Nodup) (hx : x ∈ xs) :
    xs.find? (key · == key x) = some x := by
  rw [← List.head?_filter, filter_key_eq_singleton hkeys hx, List.head?_cons]

end FisheryRules
