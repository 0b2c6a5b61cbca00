import FisheryRules.Proofs.Number.Rounding

/-!
# Shortest decimals

The search for the shortest decimal of a number ends at a decimal in the span of the number:
`Binary64.shortest_holds`. On a grid that is finer than half of the last place, the first point
above the number lies in its span, and the search reaches such a grid.
-/
namespace FisheryRules

/-- A power of ten has at most ten binary digits for every three of its factors. -/
theorem Decimal.ten_pow_le_two_pow (n : ℕ) : 10 ^ n ≤ 2 ^ (10 * (n / 3) + 4 * (n % 3)) := by
  calc 10 ^ n = (10 ^ 3) ^ (n / 3) * 10 ^ (n % 3) := by
        rw [← pow_mul, ← pow_add, Nat.div_add_mod]
    _ ≤ (2 ^ 10) ^ (n / 3) * (2 ^ 4) ^ (n % 3) :=
        Nat.mul_le_mul (Nat.pow_le_pow_left (by norm_num) _) (Nat.pow_le_pow_left (by norm_num) _)
    _ = 2 ^ (10 * (n / 3) + 4 * (n % 3)) := by rw [pow_add, pow_mul, pow_mul]

namespace Binary64.Span

/-! ## Grids -/

/-- Points of a span and points of a grid of decimals are compared as whole numbers. -/
theorem exists_common_scale (k unit : ℤ) : ∃ c : ℚ, 0 < c ∧
    (∀ a : ℕ, ((a * (Nat.pow 10 (-k).toNat <<< unit.toNat) : ℕ) : ℚ) = a * 2 ^ unit * c) ∧
    ∀ b : ℕ, ((b * (Nat.pow 10 k.toNat <<< (-unit).toNat) : ℕ) : ℚ) = b * 10 ^ k * c := by
  have hten : (10 : ℚ) ^ k * 10 ^ (-k).toNat = 10 ^ k.toNat := by
    rw [zpow_eq_div (by norm_num), div_mul_cancel₀ _ (by positivity)]
  have htwo : (2 : ℚ) ^ unit * 2 ^ (-unit).toNat = 2 ^ unit.toNat := by
    rw [zpow_eq_div two_ne_zero, div_mul_cancel₀ _ (by positivity)]
  refine ⟨10 ^ (-k).toNat * 2 ^ (-unit).toNat, by positivity, fun a => ?_, fun b => ?_⟩
  · rw [Nat.shiftLeft_eq, Nat.pow_eq]
    push_cast
    rw [← htwo]
    ring
  · rw [Nat.shiftLeft_eq, Nat.pow_eq]
    push_cast
    rw [← hten]
    ring

/-- The units of a span, and the steps of a grid, as whole numbers. -/
def scale (s : Span) (k : ℤ) : ℕ := Nat.pow 10 (-k).toNat <<< s.unit.toNat

def step (s : Span) (k : ℤ) : ℕ := Nat.pow 10 k.toNat <<< (-s.unit).toNat

/-- Whether a point of a grid lies in the span. -/
def isInside (s : Span) (k : ℤ) (factor : ℕ) : Bool :=
  if s.closed then s.low * s.scale k ≤ factor * s.step k && factor * s.step k ≤ s.high * s.scale k
  else s.low * s.scale k < factor * s.step k && factor * s.step k < s.high * s.scale k

variable {s : Span} {k : ℤ}

theorem isInside_iff {factor : ℕ} : s.isInside k factor = true ↔ s.Holds (factor * 10 ^ k) := by
  obtain ⟨c, hc, hspan, hgrid⟩ := exists_common_scale k s.unit
  have hle (a b : ℕ) : a * s.scale k ≤ b * s.step k ↔ (a : ℚ) * 2 ^ s.unit ≤ b * 10 ^ k := by
    rw [← mul_le_mul_iff_of_pos_right hc, ← hspan, ← hgrid]
    exact_mod_cast Iff.rfl
  have hge (a b : ℕ) : b * s.step k ≤ a * s.scale k ↔ (b : ℚ) * 10 ^ k ≤ a * 2 ^ s.unit := by
    rw [← mul_le_mul_iff_of_pos_right hc, ← hspan, ← hgrid]
    exact_mod_cast Iff.rfl
  unfold isInside
  split
  · next hclosed =>
    rw [Bool.and_eq_true, decide_eq_true_eq, decide_eq_true_eq, hle, hge]
    exact ⟨fun h => ⟨h.1, h.2, by simp [hclosed]⟩, fun h => ⟨h.low, h.high⟩⟩
  · next hopen =>
    rw [Bool.and_eq_true, decide_eq_true_eq, decide_eq_true_eq, ← not_le, ← not_le, hge, hle,
      not_le, not_le]
    exact ⟨fun h => ⟨h.1.le, h.2.le, fun _ => h⟩, fun h => h.inside (by simpa using hopen)⟩

theorem nearestOnGrid?_eq (s : Span) (k : ℤ) : s.nearestOnGrid? k =
    if s.isInside k (s.value * s.scale k / s.step k) &&
        (!s.isInside k (s.value * s.scale k / s.step k + 1) ||
          2 * (s.value * s.scale k - s.value * s.scale k / s.step k * s.step k) < s.step k) then
      some (s.value * s.scale k / s.step k)
    else if s.isInside k (s.value * s.scale k / s.step k + 1) then
      some (s.value * s.scale k / s.step k + 1)
    else none := rfl

/-- A point that is found on a grid lies in the span. -/
theorem holds_of_nearestOnGrid? {factor : ℕ} (h : s.nearestOnGrid? k = some factor) :
    s.Holds (factor * 10 ^ k) := by
  rw [← isInside_iff]
  rw [nearestOnGrid?_eq] at h
  split at h
  · next hbelow =>
    obtain rfl := Option.some.inj h
    exact (Bool.and_eq_true_iff.1 hbelow).1
  · split at h
    · next habove =>
      obtain rfl := Option.some.inj h
      exact habove
    · cases h

/-- A grid that is fine enough has a point above the value, and in the span. -/
theorem isSome_nearestOnGrid? (hlow : s.low < s.value) (hhigh : s.value + 2 ≤ s.high)
    (hfine : (10 : ℚ) ^ k < 2 * 2 ^ s.unit) : (s.nearestOnGrid? k).isSome = true := by
  have hscale : 0 < s.scale k := by
    rw [scale, Nat.shiftLeft_eq]
    exact Nat.mul_pos (Nat.pow_pos (by decide)) (Nat.two_pow_pos _)
  have hstep : 0 < s.step k := by
    rw [step, Nat.shiftLeft_eq]
    exact Nat.mul_pos (Nat.pow_pos (by decide)) (Nat.two_pow_pos _)
  have hwidth : s.step k < 2 * s.scale k := by
    obtain ⟨c, hc, hspan, hgrid⟩ := exists_common_scale k s.unit
    have hlt : ((1 * s.step k : ℕ) : ℚ) < (2 * s.scale k : ℕ) := by
      rw [step, scale, hgrid, hspan]
      exact mul_lt_mul_of_pos_right (by simpa using hfine) hc
    simpa using (by exact_mod_cast hlt : 1 * s.step k < 2 * s.scale k)
  have hinside : s.isInside k (s.value * s.scale k / s.step k + 1) = true := by
    have hdiv := Nat.div_add_mod (s.value * s.scale k) (s.step k)
    have hmod := Nat.mod_lt (s.value * s.scale k) hstep
    have hpoint : (s.value * s.scale k / s.step k + 1) * s.step k =
        s.step k * (s.value * s.scale k / s.step k) + s.step k := by ring
    have hleft : s.low * s.scale k < s.value * s.scale k := Nat.mul_lt_mul_of_pos_right hlow hscale
    have hright : s.value * s.scale k + 2 * s.scale k ≤ s.high * s.scale k := by
      rw [← add_mul]
      exact Nat.mul_le_mul_right _ hhigh
    unfold isInside
    split <;> simp only [Bool.and_eq_true, decide_eq_true_eq] <;> omega
  rw [nearestOnGrid?_eq]
  simp only [hinside, if_true]
  split <;> rfl

/-! ## The search -/

/-- The search ends at the first grid that has a point in the span. -/
theorem search_spec {tries j : ℕ} (hj : j < tries)
    (h : (s.nearestOnGrid? (k - j)).isSome = true) : ∃ factor k',
      s.search tries k = (factor, k') ∧ s.nearestOnGrid? k' = some factor := by
  induction tries generalizing k j with
  | zero => omega
  | succ tries ih =>
    unfold search
    cases hgrid : s.nearestOnGrid? k with
    | some factor => exact ⟨factor, k, rfl, hgrid⟩
    | none =>
      obtain rfl | hpos := Nat.eq_zero_or_pos j
      · simp [hgrid] at h
      · refine ih (j := j - 1) (by omega) ?_
        rwa [show k - 1 - ((j - 1 : ℕ) : ℤ) = k - j by omega]

end Binary64.Span

namespace Binary64

/-- Twenty-one decimal places below a number the grid is finer than half of its last place. -/
theorem ten_zpow_lt {m : ℕ} {power : ℤ} (hm : m < 2 * hiddenBit)
    (hpower : -1074 ≤ power ∧ power ≤ 971) :
    (10 : ℚ) ^ (((Nat.log2 m : ℤ) + 1 + power) * 30103 / 100000 + 2 - (23 : ℕ)) <
      2 ^ (power - 1) := by
  have hlog : Nat.log2 m ≤ 52 := by
    obtain rfl | hpos := Nat.eq_zero_or_pos m
    · simp
    · exact Nat.le_of_lt_succ ((Nat.log2_lt hpos.ne').2 hm)
  generalize hk : ((Nat.log2 m : ℤ) + 1 + power) * 30103 / 100000 + 2 - (23 : ℕ) = k
  generalize Nat.log2 m = log at *
  obtain ⟨n, rfl | rfl⟩ := k.eq_nat_or_neg
  · have hten : (10 : ℚ) ^ n ≤ 2 ^ (10 * (n / 3) + 4 * (n % 3)) := by
      exact_mod_cast Decimal.ten_pow_le_two_pow n
    rw [zpow_natCast]
    refine hten.trans_lt ?_
    rw [← zpow_natCast]
    exact zpow_lt_zpow_right₀ (by norm_num) (by omega)
  · have hten : (2 : ℚ) ^ (33 * (n / 10) + 3 * (n % 10)) ≤ 10 ^ n := by
      exact_mod_cast Decimal.two_pow_le_ten_pow n
    rw [zpow_neg, zpow_natCast]
    refine (inv_anti₀ (by positivity) hten).trans_lt ?_
    rw [← zpow_natCast, ← zpow_neg]
    exact zpow_lt_zpow_right₀ (by norm_num) (by omega)

/-- The shortest decimal of a number lies in its span. -/
theorem shortest_holds {x : Binary64} (hfinite : x.isFinite = true) (hzero : x.magnitude ≠ 0) :
    x.span.Holds (x.shortest.1 * 10 ^ x.shortest.2) := by
  obtain ⟨⟨m, power⟩, hparts⟩ : ∃ parts, x.significand = parts := ⟨_, rfl⟩
  obtain ⟨hpower, hm, -⟩ := significand_spec hfinite hparts
  have hpos := significand_pos hfinite hzero hparts
  have hfine : (10 : ℚ) ^ (((Nat.log2 m : ℤ) + 1 + power) * 30103 / 100000 + 2 - (23 : ℕ)) <
      2 * 2 ^ (power - 2) := by
    have hunit : (2 : ℚ) * 2 ^ (power - 2) = 2 ^ (power - 1) := by
      rw [← zpow_one_add₀ two_ne_zero]
      congr 1
      ring
    exact (ten_zpow_lt hm hpower).trans_eq hunit.symm
  have hgrid : (x.span.nearestOnGrid?
      (((Nat.log2 m : ℤ) + 1 + power) * 30103 / 100000 + 2 - (23 : ℕ))).isSome = true := by
    apply Span.isSome_nearestOnGrid?
    · simp only [span, hparts]
      split <;> omega
    · simp [span, hparts]
    · simpa [span, hparts] using hfine
  obtain ⟨factor, k, hsearch, hfound⟩ := Span.search_spec (by decide : 23 < 24) hgrid
  have hshortest : x.shortest = (factor, k) := by
    unfold shortest
    rw [hparts]
    exact hsearch
  rw [hshortest]
  exact Span.holds_of_nearestOnGrid? hfound

end Binary64

end FisheryRules
