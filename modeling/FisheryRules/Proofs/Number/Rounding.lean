import FisheryRules.Number.Shortest
import FisheryRules.Proofs.Number.Digits

/-!
# Rounding

A quotient is read as the number whose span it lies in: `Binary64.ofRatio_of_holds`. The span of a
number reaches half way to its neighbours, and a tie goes to the even significand, so spans do not
overlap.

## Main definitions

* `IsNearest` — the whole numbers nearest to a quotient, of two the even one.
* `Binary64.place` — the place that a quotient is rounded at.
* `Binary64.Span.Holds` — the quotients in a span.

## Main results

* `Binary64.floorLog2_eq`, `Binary64.nearestEven_isNearest` — the parts of the computation.
* `Binary64.ofRatio_of_holds`, `Decimal.toBinary64_of_holds` — what is read back.
-/
namespace FisheryRules

/-- A whole number is nearest to a quotient; of two that are as near, the even one. -/
def IsNearest (q : ℚ) (n : ℕ) : Prop := |q - n| ≤ 1 / 2 ∧ (|q - n| = 1 / 2 → n % 2 = 0)

theorem IsNearest.unique {q : ℚ} {m n : ℕ} (hm : IsNearest q m) (hn : IsNearest q n) : m = n := by
  have hne (a b : ℕ) (ha : IsNearest q a) (hb : IsNearest q b) : ¬ a < b := by
    intro hlt
    have hstep : (a : ℚ) + 1 ≤ b := by exact_mod_cast hlt
    obtain ⟨-, hahigh⟩ := abs_le.1 ha.1
    obtain ⟨hblow, -⟩ := abs_le.1 hb.1
    -- The two are half a step away on either side, so both are even.
    have haeven := ha.2 (by rw [abs_of_nonneg] <;> linarith)
    have hbeven := hb.2 (by rw [abs_of_nonpos] <;> linarith)
    have hnext : (b : ℚ) = a + 1 := by linarith
    have : b = a + 1 := by exact_mod_cast hnext
    omega
  have h₁ := hne m n hm hn
  have h₂ := hne n m hn hm
  omega

/-- A power with an exponent of either sign, as a quotient of two powers without one. -/
theorem zpow_eq_div {base : ℚ} (hbase : base ≠ 0) (k : ℤ) :
    base ^ k = base ^ k.toNat / base ^ (-k).toNat := by
  rw [← zpow_natCast, ← zpow_natCast, ← zpow_sub₀ hbase]
  congr 1
  omega

theorem log_eq {q : ℚ} (hq : 0 < q) {k : ℤ} (hlow : (2 : ℚ) ^ k ≤ q) (hhigh : q < 2 ^ (k + 1)) :
    Int.log 2 q = k := by
  have h₁ := (Int.zpow_le_iff_le_log (b := 2) (by decide) hq).1 hlow
  have h₂ := (Int.lt_zpow_iff_log_lt (b := 2) (by decide) hq).1 hhigh
  omega

namespace Binary64

theorem nearestEven_isNearest (num : ℕ) {den : ℕ} (hden : 0 < den) :
    IsNearest ((num : ℚ) / den) (nearestEven num den) := by
  have hdenQ : (0 : ℚ) < den := by exact_mod_cast hden
  have hsplit : (num : ℚ) / den = (num / den : ℕ) + (num % den : ℕ) / (den : ℚ) := by
    have hwhole : (num : ℚ) = den * (num / den : ℕ) + (num % den : ℕ) := by
      exact_mod_cast (Nat.div_add_mod num den).symm
    rw [eq_comm, ← eq_sub_iff_add_eq', div_eq_iff hdenQ.ne', sub_mul, div_mul_cancel₀ _ hdenQ.ne']
    linarith
  have hrest : num % den < den := Nat.mod_lt num hden
  unfold nearestEven
  rw [hsplit]
  dsimp only
  generalize num / den = quotient
  generalize num % den = rest at *
  -- The fraction is compared with a half as twice the remainder is with the divisor.
  have hhalf : (2 * rest < den ↔ (rest : ℚ) / den < 1 / 2) ∧
      (den < 2 * rest ↔ 1 / 2 < (rest : ℚ) / den) := by
    rw [div_lt_div_iff₀ hdenQ two_pos, div_lt_div_iff₀ two_pos hdenQ, mul_comm (rest : ℚ), one_mul]
    exact ⟨by exact_mod_cast Iff.rfl, by exact_mod_cast Iff.rfl⟩
  have hlow : 0 ≤ (rest : ℚ) / den := by positivity
  have hhigh : (rest : ℚ) / den < 1 := (div_lt_one hdenQ).2 (by exact_mod_cast hrest)
  generalize (rest : ℚ) / den = fraction at *
  split
  · next hdown =>
    rw [IsNearest, add_sub_cancel_left, abs_of_nonneg hlow]
    constructor
    · by_contra hgt
      have := hhalf.2.2 (not_le.1 hgt)
      omega
    · intro htie
      have hbelow := hhalf.1.not.2 (not_lt.2 htie.ge)
      omega
  · next hup =>
    have hdistance : (quotient : ℚ) + fraction - (quotient + 1 : ℕ) = -(1 - fraction) := by
      push_cast
      ring
    rw [IsNearest, hdistance, abs_neg, abs_of_nonneg (by linarith)]
    constructor
    · by_contra hgt
      have := hhalf.1.2 (by linarith)
      omega
    · intro htie
      have habove := hhalf.2.not.2 (not_lt.2 (by linarith))
      omega

/-- The powers of two around a number are those around its digits. -/
theorem floorLog2_eq {num den : ℕ} (hnum : 0 < num) (hden : 0 < den) :
    floorLog2 num den = Int.log 2 ((num : ℚ) / den) := by
  have hdenQ : (0 : ℚ) < den := by exact_mod_cast hden
  have hq : 0 < (num : ℚ) / den := div_pos (by exact_mod_cast hnum) hdenQ
  have hpow (n : ℕ) (hn : 0 < n) :
      (2 : ℚ) ^ (Nat.log2 n : ℤ) ≤ n ∧ (n : ℚ) < (2 : ℚ) ^ ((Nat.log2 n : ℤ) + 1) := by
    constructor
    · rw [zpow_natCast]
      exact_mod_cast Nat.log2_self_le hn.ne'
    · have hlt : n < 2 ^ (Nat.log2 n + 1) := Nat.lt_log2_self
      exact_mod_cast hlt
  obtain ⟨hnumLow, hnumHigh⟩ := hpow num hnum
  obtain ⟨hdenLow, hdenHigh⟩ := hpow den hden
  unfold floorLog2
  dsimp only
  generalize (Nat.log2 num : ℤ) = a at *
  generalize (Nat.log2 den : ℤ) = b at *
  have hlow : (2 : ℚ) ^ (a - b - 1) ≤ num / den := by
    rw [le_div_iff₀ hdenQ]
    calc (2 : ℚ) ^ (a - b - 1) * den ≤ (2 : ℚ) ^ (a - b - 1) * (2 : ℚ) ^ (b + 1) := by gcongr
      _ = (2 : ℚ) ^ a := by rw [← zpow_add₀ two_ne_zero]; congr 1; ring
      _ ≤ num := hnumLow
  have hhigh : (num : ℚ) / den < (2 : ℚ) ^ (a - b + 1) := by
    rw [div_lt_iff₀ hdenQ]
    calc (num : ℚ) < (2 : ℚ) ^ (a + 1) := hnumHigh
      _ = (2 : ℚ) ^ (a - b + 1) * (2 : ℚ) ^ b := by rw [← zpow_add₀ two_ne_zero]; congr 1; ring
      _ ≤ (2 : ℚ) ^ (a - b + 1) * den := by gcongr
  have hreached : (if 0 ≤ a - b then den <<< (a - b).toNat ≤ num
      else den ≤ num <<< (-(a - b)).toNat) ↔ (2 : ℚ) ^ (a - b) ≤ num / den := by
    rw [le_div_iff₀ hdenQ, zpow_eq_div two_ne_zero, Nat.shiftLeft_eq, Nat.shiftLeft_eq]
    split
    · next hsign =>
      rw [show (-(a - b)).toNat = 0 by omega, pow_zero, div_one, mul_comm]
      exact_mod_cast Iff.rfl
    · next hsign =>
      rw [show (a - b).toNat = 0 by omega, pow_zero, div_mul_eq_mul_div, one_mul,
        div_le_iff₀ (by positivity)]
      exact_mod_cast Iff.rfl
  by_cases h : (2 : ℚ) ^ (a - b) ≤ num / den
  · rw [if_pos (hreached.2 h), log_eq hq h hhigh]
  · rw [if_neg (hreached.not.2 h), log_eq hq hlow (by simpa using h)]

/-- The place that a quotient is rounded at: the last one of its binade, but not below that of the
least numbers. -/
def place (q : ℚ) : ℤ := max (Int.log 2 q - 52) (-1074)

theorem ofRatio_eq (negative : Bool) {num den : ℕ} (hnum : 0 < num) (hden : 0 < den) :
    ∃ n, IsNearest ((num : ℚ) / den / 2 ^ place ((num : ℚ) / den)) n ∧
      ofRatio negative num den = ofMagnitude negative
        (min ((place ((num : ℚ) / den) + 1074).toNat * hiddenBit + n) infiniteBits) := by
  unfold ofRatio
  rw [if_neg hnum.ne', floorLog2_eq hnum hden]
  dsimp only
  rw [← place]
  generalize place ((num : ℚ) / den) = power
  refine ⟨_, ?_, rfl⟩
  rw [zpow_eq_div two_ne_zero]
  split
  · next hsign =>
    have hscaled := nearestEven_isNearest num (Nat.mul_pos hden (Nat.two_pow_pos power.toNat))
    rw [show (-power).toNat = 0 by omega, pow_zero, div_one, div_div, Nat.shiftLeft_eq]
    exact_mod_cast hscaled
  · next hsign =>
    have hscaled := nearestEven_isNearest (num * 2 ^ (-power).toNat) hden
    rw [show power.toNat = 0 by omega, pow_zero, div_div_eq_mul_div, div_one, div_mul_eq_mul_div,
      Nat.shiftLeft_eq]
    exact_mod_cast hscaled

theorem two_zpow_add (power k : ℤ) : (2 : ℚ) ^ (power + k) = 2 ^ k * 2 ^ power := by
  rw [add_comm, zpow_add₀ two_ne_zero]

theorem hiddenBit_eq : (hiddenBit : ℚ) = 2 ^ (52 : ℤ) := by norm_num [hiddenBit]

/-- What has all bits of a significand is rounded at the place of that significand, and so is what
lies at the least place. -/
theorem place_within {power : ℤ} (hleast : -1074 ≤ power) {t : ℚ} (ht : 0 < t)
    (hlow : power = -1074 ∨ (hiddenBit : ℚ) ≤ t) (hhigh : t < 2 * hiddenBit) :
    place (t * 2 ^ power) = power := by
  have hq : 0 < t * 2 ^ power := by positivity
  have hbelow : Int.log 2 (t * 2 ^ power) < power + 53 := by
    refine (Int.lt_zpow_iff_log_lt (b := 2) (by decide) hq).1 ?_
    rw [Nat.cast_ofNat, two_zpow_add]
    gcongr
    norm_num [hiddenBit] at hhigh ⊢
    exact hhigh
  have habove : power = -1074 ∨ power + 52 ≤ Int.log 2 (t * 2 ^ power) := by
    refine hlow.imp_right fun hlow => ?_
    refine (Int.zpow_le_iff_le_log (b := 2) (by decide) hq).1 ?_
    rw [Nat.cast_ofNat, two_zpow_add, ← hiddenBit_eq]
    gcongr
  rw [place]
  omega

/-- Just below a power of two the places are half as far apart. -/
theorem place_below {power : ℤ} (hleast : -1074 < power) {t : ℚ}
    (hlow : (hiddenBit : ℚ) - 1 / 4 ≤ t) (hhigh : t < hiddenBit) :
    place (t * 2 ^ power) = power - 1 := by
  have hhalf : (2 : ℚ) ^ (51 : ℤ) ≤ t := by
    norm_num [hiddenBit] at hlow ⊢
    linarith
  have ht : 0 < t := lt_of_lt_of_le (by positivity) hhalf
  have hlog : Int.log 2 (t * 2 ^ power) = power + 51 := by
    refine log_eq (by positivity) ?_ ?_
    · rw [two_zpow_add]
      gcongr
    · rw [add_assoc, two_zpow_add]
      gcongr
      exact hhigh.trans_eq hiddenBit_eq
  rw [place, hlog]
  omega

/-! ## Spans -/

/-- The parts of a finite number: its significand fits into fifty-three bits, and has all of them
unless the exponent is the least one. -/
theorem significand_spec {x : Binary64} (hfinite : x.isFinite = true) {m : ℕ} {power : ℤ}
    (h : x.significand = (m, power)) :
    (-1074 ≤ power ∧ power ≤ 971) ∧ m < 2 * hiddenBit ∧ (power = -1074 ∨ hiddenBit ≤ m) ∧
      x.magnitude = (power + 1074).toNat * hiddenBit + m := by
  have hbits : x.magnitude < infiniteBits := by simpa [isFinite] using hfinite
  unfold significand at h
  dsimp only at h
  split at h <;> obtain ⟨rfl, rfl⟩ := Prod.mk.inj h
  · next hexponent =>
    refine ⟨by decide, ?_, .inl rfl, ?_⟩
    · exact Nat.lt_trans (Nat.mod_lt _ (by decide)) (by decide)
    · simp only [hiddenBit] at *
      omega
  · simp only [infiniteBits, hiddenBit] at *
    omega

theorem significand_pos {x : Binary64} (hfinite : x.isFinite = true) (hzero : x.magnitude ≠ 0)
    {m : ℕ} {power : ℤ} (h : x.significand = (m, power)) : 0 < m := by
  obtain ⟨-, -, hnormal, hmagnitude⟩ := significand_spec hfinite h
  by_contra hm
  obtain rfl : m = 0 := by omega
  obtain rfl | hnormal := hnormal
  · exact hzero (by simpa using hmagnitude)
  · exact absurd hnormal (by decide)

/-- A quotient lies between the ends of a span, or on one of them when they belong to it. -/
structure Span.Holds (s : Span) (q : ℚ) : Prop where
  low : s.low * (2 : ℚ) ^ s.unit ≤ q
  high : q ≤ s.high * (2 : ℚ) ^ s.unit
  inside : s.closed = false → s.low * (2 : ℚ) ^ s.unit < q ∧ q < s.high * (2 : ℚ) ^ s.unit

/-- The significand is the whole number that is nearest to what lies in the span, counted in last
places. Below a power of two the span reaches half as far. -/
theorem Span.Holds.isNearest {x : Binary64} {m : ℕ} {power : ℤ}
    (hparts : x.significand = (m, power)) {q : ℚ} (h : x.span.Holds q) :
    IsNearest (q / 2 ^ power) m ∧
      (m = hiddenBit → power ≠ -1074 → (m : ℚ) - 1 / 4 ≤ q / 2 ^ power) := by
  have hu : (0 : ℚ) < 2 ^ power := by positivity
  have hunit : (2 : ℚ) ^ (power - 2) = 2 ^ power / 4 := by
    rw [zpow_sub₀ two_ne_zero]
    norm_num
  obtain ⟨hlow, hhigh, hinside⟩ := h
  simp only [span, hparts, hunit, decide_eq_false_iff_not] at hlow hhigh hinside
  have hlowest : (m = hiddenBit → power ≠ -1074 → 4 * m ≤
      (if m = hiddenBit ∧ power ≠ -1074 then 4 * m - 1 else 4 * m - 2) + 1) ∧
      4 * m ≤ (if m = hiddenBit ∧ power ≠ -1074 then 4 * m - 1 else 4 * m - 2) + 2 := by
    split <;> omega
  generalize (if m = hiddenBit ∧ power ≠ -1074 then 4 * m - 1 else 4 * m - 2) = low at *
  have hlowest₂ : (4 * m : ℚ) ≤ low + 2 := by exact_mod_cast hlowest.2
  -- Everything is counted in last places from here on.
  obtain ⟨t, rfl⟩ : ∃ t, q = t * 2 ^ power := ⟨q / 2 ^ power, by field_simp⟩
  rw [mul_div_cancel_right₀ _ hu.ne']
  have hlow' : (low : ℚ) ≤ 4 * t := le_of_mul_le_mul_right (by linarith) hu
  have hhigh' : 4 * t ≤ (4 * m + 2 : ℕ) := le_of_mul_le_mul_right (by linarith) hu
  have hinside' (hodd : ¬ m % 2 = 0) : (low : ℚ) < 4 * t ∧ 4 * t < (4 * m + 2 : ℕ) := by
    obtain ⟨habove, hbelow⟩ := hinside hodd
    exact ⟨lt_of_mul_lt_mul_right (by linarith) hu.le, lt_of_mul_lt_mul_right (by linarith) hu.le⟩
  push_cast at hhigh' hinside'
  refine ⟨⟨abs_le.2 ⟨by linarith, by linarith⟩, fun htie => ?_⟩, fun hhidden hleast => ?_⟩
  · by_contra hodd
    obtain ⟨habove, hbelow⟩ := hinside' hodd
    obtain htie | htie := (abs_eq (by norm_num)).1 htie <;> linarith
  · have hlowest₁ : (4 * m : ℚ) ≤ low + 1 := by exact_mod_cast hlowest.1 hhidden hleast
    linarith

/-- What lies in the span of a number is rounded to the significand of that number; just below a
power of two, to twice that. -/
theorem Span.Holds.rounds {x : Binary64} (hfinite : x.isFinite = true) {q : ℚ} (hq : 0 < q)
    (h : x.span.Holds q) : ∃ n, IsNearest (q / 2 ^ place q) n ∧
      (place q + 1074).toNat * hiddenBit + n = x.magnitude := by
  obtain ⟨⟨m, power⟩, hparts⟩ : ∃ parts, x.significand = parts := ⟨_, rfl⟩
  obtain ⟨⟨hleast, -⟩, hm, hnormal, hmagnitude⟩ := significand_spec hfinite hparts
  obtain ⟨hnearest, hquarter⟩ := h.isNearest hparts
  have hu : (0 : ℚ) < 2 ^ power := by positivity
  -- The quotient is counted in last places of the number.
  obtain ⟨t, rfl⟩ : ∃ t, q = t * 2 ^ power := ⟨q / 2 ^ power, by field_simp⟩
  rw [mul_div_cancel_right₀ _ hu.ne'] at hnearest hquarter
  have ht : 0 < t := pos_of_mul_pos_left hq hu.le
  obtain ⟨habove, hbelow⟩ := abs_le.1 hnearest.1
  by_cases hlower : (m = hiddenBit ∧ power ≠ -1074) ∧ t < m
  · obtain ⟨⟨rfl, hpower⟩, hlower⟩ := hlower
    have hquarter := hquarter rfl hpower
    have htwice : t * 2 ^ power / 2 ^ (power - 1) = 2 * t := by
      rw [sub_eq_add_neg, two_zpow_add, zpow_neg_one]
      field_simp
    rw [place_below (by omega) hquarter hlower]
    refine ⟨2 * hiddenBit, ⟨?_, fun _ => by simp⟩, ?_⟩
    · rw [htwice, abs_le]
      push_cast
      constructor <;> linarith
    · have hnext : (power + 1074).toNat = (power - 1 + 1074).toNat + 1 := by omega
      rw [hmagnitude, hnext]
      ring
  · have hhigh : t < 2 * hiddenBit := by
      have hm' : (m : ℚ) + 1 ≤ 2 * hiddenBit := by exact_mod_cast hm
      linarith
    have hlow : power = -1074 ∨ (hiddenBit : ℚ) ≤ t := by
      by_cases hpower : power = -1074
      · exact .inl hpower
      · obtain heq | hlt := (hnormal.resolve_left hpower).eq_or_lt
        · rw [heq]
          exact .inr (not_lt.1 fun hlt => hlower ⟨⟨heq.symm, hpower⟩, hlt⟩)
        · have hm' : (hiddenBit : ℚ) + 1 ≤ m := by exact_mod_cast hlt
          exact .inr (by linarith)
    rw [place_within hleast ht hlow hhigh]
    exact ⟨m, by rwa [mul_div_cancel_right₀ _ hu.ne'], hmagnitude.symm⟩

/-- What lies in the span of a number is read as that number. -/
theorem ofRatio_of_holds {x : Binary64} (hfinite : x.isFinite = true) (negative : Bool)
    {num den : ℕ} (hnum : 0 < num) (hden : 0 < den) (hspan : x.span.Holds ((num : ℚ) / den)) :
    ofRatio negative num den = ofMagnitude negative x.magnitude := by
  have hbits : x.magnitude < infiniteBits := of_decide_eq_true hfinite
  have hq : 0 < (num : ℚ) / den := div_pos (by exact_mod_cast hnum) (by exact_mod_cast hden)
  obtain ⟨n, hnearest, hmagnitude⟩ := hspan.rounds hfinite hq
  obtain ⟨rounded, hrounded, hresult⟩ := ofRatio_eq negative hnum hden
  rw [hresult, hrounded.unique hnearest, hmagnitude, min_eq_left hbits.le]

/-- No span of a number other than zero comes near zero. -/
theorem Span.Holds.ge_least {x : Binary64} (hfinite : x.isFinite = true) (hzero : x.magnitude ≠ 0)
    {q : ℚ} (h : x.span.Holds q) : (2 : ℚ) ^ (-1075 : ℤ) ≤ q := by
  obtain ⟨⟨m, power⟩, hparts⟩ : ∃ parts, x.significand = parts := ⟨_, rfl⟩
  obtain ⟨⟨hleast, -⟩, -⟩ := significand_spec hfinite hparts
  obtain ⟨hnearest, -⟩ := h.isNearest hparts
  obtain ⟨habove, -⟩ := abs_le.1 hnearest.1
  have hm : (1 : ℚ) ≤ m := by exact_mod_cast significand_pos hfinite hzero hparts
  have hu : (0 : ℚ) < 2 ^ power := by positivity
  calc (2 : ℚ) ^ (-1075 : ℤ) ≤ 2 ^ (power - 1) := zpow_le_zpow_right₀ (by norm_num) (by omega)
    _ = 1 / 2 * 2 ^ power := by rw [zpow_sub_one₀ two_ne_zero]; ring
    _ ≤ q := (le_div_iff₀ hu).1 (by linarith)

theorem Span.Holds.digits_pos {x : Binary64} (hfinite : x.isFinite = true)
    (hzero : x.magnitude ≠ 0) {digits : ℕ} {k : ℤ} (h : x.span.Holds (digits * 10 ^ k)) :
    0 < digits := by
  refine Nat.pos_of_ne_zero fun hnone => ?_
  have hleast := h.ge_least hfinite hzero
  have hpos : (0 : ℚ) < 2 ^ (-1075 : ℤ) := by positivity
  rw [hnone, Nat.cast_zero, zero_mul] at hleast
  exact absurd hleast hpos.not_ge

end Binary64

namespace Decimal

/-- A power of ten has at least three binary digits for each of its factors, and thirty-three for
ten of them. -/
theorem two_pow_le_ten_pow (n : ℕ) : 2 ^ (33 * (n / 10) + 3 * (n % 10)) ≤ 10 ^ n := by
  calc 2 ^ (33 * (n / 10) + 3 * (n % 10)) = (2 ^ 33) ^ (n / 10) * (2 ^ 3) ^ (n % 10) := by
        rw [pow_add, pow_mul, pow_mul]
    _ ≤ (10 ^ 10) ^ (n / 10) * 10 ^ (n % 10) :=
        Nat.mul_le_mul (Nat.pow_le_pow_left (by norm_num) _) (Nat.pow_le_pow_left (by norm_num) _)
    _ = 10 ^ n := by rw [← pow_mul, ← pow_add, Nat.div_add_mod]

/-- What is not far below the least number is not taken for zero. -/
theorem not_tiny {digits : ℕ} {exponent : ℤ}
    (h : (2 : ℚ) ^ (-1075 : ℤ) ≤ digits * 10 ^ exponent) (hexponent : exponent ≤ 0) :
    ¬ exponent + Nat.log2 digits / 3 + 1 < -330 := by
  obtain ⟨n, rfl⟩ : ∃ n : ℕ, exponent = -n := ⟨exponent.natAbs, by omega⟩
  have hten : 10 ^ n ≤ digits * 2 ^ 1075 := by
    rw [zpow_neg, zpow_neg, zpow_natCast, zpow_ofNat, ← div_eq_mul_inv, ← one_div,
      div_le_div_iff₀ (by positivity) (by positivity), one_mul] at h
    exact_mod_cast h
  have hbits : 33 * (n / 10) + 3 * (n % 10) < Nat.log2 digits + 1 + 1075 := by
    refine (Nat.pow_lt_pow_iff_right (a := 2) (by decide)).1 ?_
    calc 2 ^ (33 * (n / 10) + 3 * (n % 10)) ≤ 10 ^ n := two_pow_le_ten_pow n
      _ ≤ digits * 2 ^ 1075 := hten
      _ < 2 ^ (Nat.log2 digits + 1) * 2 ^ 1075 :=
        Nat.mul_lt_mul_of_pos_right Nat.lt_log2_self (by positivity)
      _ = 2 ^ (Nat.log2 digits + 1 + 1075) := by rw [← pow_add]
  omega

/-- A decimal in the span of a number is read as that number. -/
theorem toBinary64_of_holds {d : Decimal} {x : Binary64} (hfinite : x.isFinite = true)
    (hzero : x.magnitude ≠ 0) (hexponent : d.exponent ≤ 0)
    (h : x.span.Holds (d.digits * 10 ^ d.exponent)) :
    d.toBinary64 = .ofMagnitude d.negative x.magnitude := by
  have hleast := h.ge_least hfinite hzero
  have hdigits := h.digits_pos hfinite hzero
  have hhuge : ¬ 310 < d.exponent := by omega
  unfold toBinary64
  rw [if_neg hdigits.ne', if_neg hhuge, if_neg (not_tiny hleast hexponent)]
  split
  · next hsign =>
    have hnone : d.exponent = 0 := by omega
    refine Binary64.ofRatio_of_holds hfinite _ (by simp [hnone, hdigits]) Nat.one_pos ?_
    simpa [hnone] using h
  · next hsign =>
    have hscaled : (10 : ℚ) ^ d.exponent = 1 / (10 ^ (-d.exponent).toNat : ℕ) := by
      rw [zpow_eq_div (by norm_num), show d.exponent.toNat = 0 by omega, pow_zero]
      push_cast
      rfl
    refine Binary64.ofRatio_of_holds hfinite _ hdigits (Nat.pow_pos (by decide)) ?_
    rwa [hscaled, mul_one_div] at h

end Decimal

end FisheryRules
