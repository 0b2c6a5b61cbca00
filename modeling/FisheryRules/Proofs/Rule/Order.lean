import FisheryRules.Proofs.Results
import FisheryRules.Rule.Definition

/-!
# Items in their order

Segments and actions of a custom rule carry a number that says where they come. Sorting by it keeps
those of equal number in their places. If no two items are of equal rank, sorting leaves nothing of
the order in which they came.
-/
namespace FisheryRules

variable {α : Type}

/-! ## Ranks of any kind -/

section Ranks

variable {β : Type} [LE β] [DecidableLE β] [Std.IsLinearOrder β] {rank : α → β}
  {items others : List α}

theorem ascending_mergeSort (items : List α) :
    (items.mergeSort fun a b => rank a ≤ rank b).Pairwise fun a b => rank a ≤ rank b := by
  have hpairwise : (items.mergeSort fun a b => rank a ≤ rank b).Pairwise
      fun a b => decide (rank a ≤ rank b) = true := by
    refine List.pairwise_mergeSort (fun a b c hab hbc => ?_) (fun a b => ?_) items
    · rw [decide_eq_true_eq] at hab hbc ⊢
      exact Std.le_trans hab hbc
    · simpa using Std.le_total
  simpa using hpairwise

/-- Items of which no two are of equal rank are sorted in one way only. -/
theorem mergeSort_eq_of_perm (hrank : ∀ a ∈ items, ∀ b ∈ items, rank a = rank b → a = b)
    (h : others.Perm items) : (others.mergeSort fun a b => rank a ≤ rank b) =
      items.mergeSort fun a b => rank a ≤ rank b := by
  have hsame (items : List α) := List.mergeSort_perm items fun a b => decide (rank a ≤ rank b)
  refine ((hsame others).trans (h.trans (hsame items).symm)).eq_of_pairwise ?_
    (ascending_mergeSort others) (ascending_mergeSort items)
  intro a b ha hb hab hba
  have ha : a ∈ items := h.mem_iff.1 ((hsame others).mem_iff.1 ha)
  have hb : b ∈ items := (hsame items).mem_iff.1 hb
  exact hrank a ha b hb (Std.le_antisymm hab hba)

end Ranks

/-! ## Numbers of segments and actions -/

/-- The items by ascending order, where those of equal order keep their places. -/
structure SortedBy (order : α → UInt32) (items sorted : List α) : Prop where
  perm : sorted.Perm items
  ascending : sorted.Pairwise fun a b => order a ≤ order b
  stable : ∀ n, sorted.filter (order · == n) = items.filter (order · == n)

theorem sortedBy_mergeSort (order : α → UInt32) (items : List α) :
    SortedBy order items (items.mergeSort fun a b => order a ≤ order b) := by
  have htrans : ∀ a b c : α, decide (order a ≤ order b) = true →
      decide (order b ≤ order c) = true → decide (order a ≤ order c) = true := by
    intro a b c hab hbc
    simp only [decide_eq_true_eq] at *
    exact UInt32.le_trans hab hbc
  have htotal : ∀ a b : α, (decide (order a ≤ order b) || decide (order b ≤ order a)) = true := by
    intro a b
    simpa using UInt32.le_total (order a) (order b)
  have hperm : (items.mergeSort fun a b => order a ≤ order b).Perm items :=
    List.mergeSort_perm _ _
  refine ⟨hperm, ?_, fun n => ?_⟩
  · exact ascending_mergeSort items
  · -- Items of equal order are sorted already, so sorting does not move them past each other.
    have hsame : (items.filter (order · == n)).Pairwise
        fun a b => decide (order a ≤ order b) = true := by
      refine List.pairwise_iff_forall_sublist.2 fun {a b} hpair => ?_
      have ha : order a = n := by
        simpa using (List.mem_filter.1 (hpair.subset (by simp : a ∈ [a, b]))).2
      have hb : order b = n := by
        simpa using (List.mem_filter.1 (hpair.subset (by simp : b ∈ [a, b]))).2
      simp [ha, hb]
    have hsublist := List.sublist_mergeSort htrans htotal hsame List.filter_sublist
    have hfilter : (items.filter (order · == n)).Sublist
        ((items.mergeSort fun a b => order a ≤ order b).filter (order · == n)) := by
      simpa using hsublist.filter (order · == n)
    exact (hfilter.eq_of_length (hperm.filter _).length_eq.symm).symm

namespace CustomRule

theorem sortedSegments_sortedBy (rule : CustomRule) :
    SortedBy Segment.order rule.segments rule.sortedSegments :=
  sortedBy_mergeSort Segment.order rule.segments

theorem sortedActions_sortedBy (rule : CustomRule) :
    SortedBy RuleAction.order rule.actions rule.sortedActions :=
  sortedBy_mergeSort RuleAction.order rule.actions

end CustomRule

end FisheryRules
