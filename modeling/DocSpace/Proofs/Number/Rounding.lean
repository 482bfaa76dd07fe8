import DocSpace.Number.Shortest
import Mathlib.Algebra.Order.Field.Power
import Mathlib.Data.Rat.Cast.Order
import Mathlib.Tactic.FieldSimp
import Mathlib.Tactic.Linarith
import Mathlib.Tactic.Positivity
import Mathlib.Tactic.Ring

set_option autoImplicit false

namespace DocSpace

/-- The quotients in a neighbourhood, whose ends are there only if it is closed. -/
structure Number.Neighbourhood.Contains (n : Neighbourhood) (exponent : Int) (q : ℚ) : Prop where
  lower : n.low * 2 ^ (exponent - 2) ≤ q
  upper : q ≤ n.high * 2 ^ (exponent - 2)
  inside : n.closed = false → n.low * 2 ^ (exponent - 2) < q ∧ q < n.high * 2 ^ (exponent - 2)

namespace Double

open Number

/-- Numbers as they are made: 53 bits, and fewer only at the bottom of the range. -/
structure IsProper (mantissa : Nat) (exponent : Int) : Prop where
  below : mantissa < 2 ^ 53
  least : -1074 ≤ exponent
  most : exponent ≤ 971
  tight : exponent = -1074 ∨ 2 ^ 52 ≤ mantissa

theorem cast_pow2 (n : Nat) : ((pow2 n : Nat) : ℚ) = 2 ^ n := by
  show (((2 : Nat) ^ n : Nat) : ℚ) = 2 ^ n
  push_cast
  rfl

theorem cast_pow10 (n : Nat) : ((pow10 n : Nat) : ℚ) = 10 ^ n := by
  show (((10 : Nat) ^ n : Nat) : ℚ) = 10 ^ n
  push_cast
  rfl

theorem pow_toNat_div {b : ℚ} (nonzero : b ≠ 0) (e : Int) :
    b ^ e.toNat / b ^ (-e).toNat = b ^ e := by
  rw [← zpow_natCast, ← zpow_natCast, ← zpow_sub₀ nonzero]
  have difference : (e.toNat : Int) - ((-e).toNat : Int) = e := by omega
  rw [difference]

/-- A number that is at most half a step from a quotient is the nearest one; in the middle between
two numbers it has to be even. -/
theorem roundQuotient_eq {num den m : Nat} (lower : 2 * (den * m) ≤ 2 * num + den)
    (upper : 2 * num ≤ 2 * (den * m) + den) (positive : 0 < den)
    (middle : m % 2 = 1 → 2 * (den * m) < 2 * num + den ∧ 2 * num < 2 * (den * m) + den) :
    roundQuotient num den = m := by
  have split : den * (num / den) + num % den = num := Nat.div_add_mod num den
  have rest : num % den < den := Nat.mod_lt num positive
  unfold roundQuotient
  generalize num / den = q at split ⊢
  generalize num % den = r at split rest ⊢
  have notBelow : q ≤ m := by
    by_contra less
    have step : den * (m + 1) ≤ den * q := Nat.mul_le_mul_left den (by omega)
    rw [Nat.mul_succ] at step
    omega
  have notAbove : m ≤ q + 1 := by
    by_contra more
    have step : den * (q + 2) ≤ den * m := Nat.mul_le_mul_left den (by omega)
    rw [Nat.mul_add] at step
    omega
  rcases Nat.lt_or_ge q m with above | same
  · obtain rfl : m = q + 1 := by omega
    rw [Nat.mul_succ] at lower upper middle
    dsimp only
    split
    · omega
    · split
      · rfl
      · omega
  · obtain rfl : m = q := by omega
    dsimp only
    split
    · rfl
    · split
      · omega
      · omega

theorem roundQuotient_eq_of_ratio {num den m : Nat} {q : ℚ} (ratio : (num : ℚ) / den = q)
    (positive : 0 < den) (lower : 2 * (m : ℚ) - 1 ≤ 2 * q) (upper : 2 * q ≤ 2 * m + 1)
    (middle : m % 2 = 1 → 2 * (m : ℚ) - 1 < 2 * q ∧ 2 * q < 2 * m + 1) :
    roundQuotient num den = m := by
  have den_pos : (0 : ℚ) < den := by exact_mod_cast positive
  have whole : (num : ℚ) = q * den := by rw [← ratio]; field_simp
  have below (strict : 2 * (m : ℚ) - 1 < 2 * q) : 2 * (den * m) < 2 * num + den := by
    have scaled : (2 * (den * m) : ℚ) < 2 * num + den := by rw [whole]; nlinarith
    exact_mod_cast scaled
  have above (strict : 2 * q < 2 * (m : ℚ) + 1) : 2 * num < 2 * (den * m) + den := by
    have scaled : (2 * num : ℚ) < 2 * (den * m) + den := by rw [whole]; nlinarith
    exact_mod_cast scaled
  refine roundQuotient_eq ?_ ?_ positive fun odd => ⟨below (middle odd).1, above (middle odd).2⟩
  · have scaled : (2 * (den * m) : ℚ) ≤ 2 * num + den := by rw [whole]; nlinarith
    exact_mod_cast scaled
  · have scaled : (2 * num : ℚ) ≤ 2 * (den * m) + den := by rw [whole]; nlinarith
    exact_mod_cast scaled

theorem scaleDown_ratio (num den : Nat) (e : Int) :
    ((scaleDown num den e).1 : ℚ) / (scaleDown num den e).2 = num / den * 2 ^ (-e) := by
  simp only [scaleDown]
  push_cast [cast_pow2]
  rw [mul_div_mul_comm]
  have power := pow_toNat_div (b := 2) (by norm_num) (-e)
  rw [neg_neg] at power
  rw [power]

theorem scaleDown_pos (num : Nat) {den : Nat} (positive : 0 < den) (e : Int) :
    0 < (scaleDown num den e).2 :=
  Nat.mul_pos positive (Nat.two_pow_pos e.toNat)

/-- Where a quotient lies by the lengths of its numerator and its denominator. -/
theorem ratio_between {num den : Nat} (nonzero : 0 < num) (positive : 0 < den) :
    (2 : ℚ) ^ ((num.log2 : Int) - den.log2 - 1) < num / den ∧
      (num / den : ℚ) < 2 ^ ((num.log2 : Int) - den.log2 + 1) := by
  have two : (2 : ℚ) ≠ 0 := by norm_num
  have numLow : (2 : ℚ) ^ (num.log2 : Int) ≤ num := by
    rw [zpow_natCast]
    exact_mod_cast Nat.log2_self_le (Nat.ne_of_gt nonzero)
  have numHigh : (num : ℚ) < 2 ^ ((num.log2 : Int) + 1) := by
    have bound := Nat.lt_log2_self (n := num)
    exact_mod_cast bound
  have denLow : (2 : ℚ) ^ (den.log2 : Int) ≤ den := by
    rw [zpow_natCast]
    exact_mod_cast Nat.log2_self_le (Nat.ne_of_gt positive)
  have denHigh : (den : ℚ) < 2 ^ ((den.log2 : Int) + 1) := by
    have bound := Nat.lt_log2_self (n := den)
    exact_mod_cast bound
  have num_pos : (0 : ℚ) < num := by exact_mod_cast nonzero
  have den_pos : (0 : ℚ) < den := by exact_mod_cast positive
  constructor
  · have power : (num.log2 : Int) - den.log2 - 1 = num.log2 - ((den.log2 : Int) + 1) := by ring
    rw [power, zpow_sub₀ two]
    exact div_lt_div₀' numLow denHigh num_pos den_pos
  · have power : (num.log2 : Int) - den.log2 + 1 = (num.log2 : Int) + 1 - den.log2 := by ring
    rw [power, zpow_sub₀ two]
    exact div_lt_div₀ numHigh denLow (by positivity) (by positivity)

/-- Brought to 53 bits by its length, a quotient has too many just if it is not below the power of
two of this length. -/
theorem scaleDown_div_lt_iff (num : Nat) {den : Nat} (positive : 0 < den) (length : Int) :
    (scaleDown num den (length - 53)).1 / (scaleDown num den (length - 53)).2 < pow2 53 ↔
      (num / den : ℚ) < 2 ^ length := by
  have scaled := scaleDown_ratio num den (length - 53)
  have scaled_pos := scaleDown_pos num positive (length - 53)
  generalize (scaleDown num den (length - 53)).1 = n at scaled ⊢
  generalize (scaleDown num den (length - 53)).2 = d at scaled scaled_pos ⊢
  have d_pos : (0 : ℚ) < d := by exact_mod_cast scaled_pos
  have cast : n < pow2 53 * d ↔ (n : ℚ) / d < 2 ^ 53 := by
    rw [div_lt_iff₀ d_pos, ← cast_pow2]
    exact_mod_cast Iff.rfl
  have power : (2 : ℚ) ^ length = 2 ^ (length - 53) * 2 ^ 53 := by
    rw [← zpow_natCast, ← zpow_add₀ (by norm_num)]
    norm_num
  rw [Nat.div_lt_iff_lt_mul scaled_pos, cast, scaled, zpow_neg, ← div_eq_mul_inv,
    div_lt_iff₀ (by positivity), power, mul_comm]

/-- The exponent is the one that leaves 53 bits, or the least there is. -/
theorem exponentOf_eq {num den : Nat} {q : ℚ} (ratio : (num : ℚ) / den = q) (nonzero : 0 < num)
    (positive : 0 < den) {e : Int} (least : -1074 ≤ e) (upper : q < 2 ^ (e + 53))
    (lower : e = -1074 ∨ 2 ^ (e + 52) ≤ q) : exponentOf num den = e := by
  have two : (1 : ℚ) < 2 := by norm_num
  obtain ⟨low, high⟩ := ratio_between nonzero positive
  rw [ratio] at low high
  unfold exponentOf
  generalize (num.log2 : Int) - den.log2 = length at low high ⊢
  have fits := scaleDown_div_lt_iff num positive length
  obtain ⟨n, d, same⟩ : ∃ n d, scaleDown num den (length - 53) = (n, d) := ⟨_, _, rfl⟩
  simp only [same, ratio] at fits ⊢
  -- the exponent before it is cut off at the bottom of the range
  obtain ⟨free, own⟩ : ∃ free, free = if n / d < pow2 53 then length - 53 else length - 53 + 1 :=
    ⟨_, rfl⟩
  have within : (2 : ℚ) ^ (free + 52) ≤ q ∧ q < 2 ^ (free + 53) := by
    by_cases small : n / d < pow2 53
    · rw [if_pos small] at own
      have start : free + 52 = length - 1 := by omega
      have stop : free + 53 = length := by omega
      rw [start, stop]
      exact ⟨low.le, fits.mp small⟩
    · rw [if_neg small] at own
      have start : free + 52 = length := by omega
      have stop : free + 53 = length + 1 := by omega
      rw [start, stop]
      exact ⟨not_lt.mp fun less => small (fits.mpr less), high⟩
  have notAbove : free ≤ e := by
    have order := (zpow_lt_zpow_iff_right₀ two).mp (within.1.trans_lt upper)
    omega
  rw [← own]
  rcases lower with bottom | full
  · omega
  · have order := (zpow_lt_zpow_iff_right₀ two).mp (full.trans_lt within.2)
    omega

/-- What is worked out of a quotient, once the exponent is known. -/
theorem ofQuotient_of_exponent {num den : Nat} {q : ℚ} (ratio : (num : ℚ) / den = q)
    (nonzero : 0 < num) (positive : 0 < den) {e : Int} (exponent : exponentOf num den = e) {m : Nat}
    (lower : 2 * (m : ℚ) - 1 ≤ 2 * (q * 2 ^ (-e))) (upper : 2 * (q * 2 ^ (-e)) ≤ 2 * m + 1)
    (middle : m % 2 = 1 →
      2 * (m : ℚ) - 1 < 2 * (q * 2 ^ (-e)) ∧ 2 * (q * 2 ^ (-e)) < 2 * m + 1)
    (negative : Bool) :
    ofQuotient negative num den =
      let (m, e) := if m < pow2 53 then (m, e) else (m / 2, e + 1)
      if 971 < e then infinite negative else finite negative m e := by
  have scaled := scaleDown_ratio num den e
  rw [ratio] at scaled
  have rounded := roundQuotient_eq_of_ratio scaled (scaleDown_pos num positive e) lower upper middle
  rw [ofQuotient, if_neg (Nat.ne_of_gt nonzero)]
  simp only [exponent, rounded]

theorem zpow_eq_quarters (e : Int) (k : Nat) :
    (2 : ℚ) ^ (e + k) = 2 ^ (k + 2) * 2 ^ (e - 2) := by
  rw [← zpow_natCast, ← zpow_add₀ (by norm_num)]
  congr 1
  push_cast
  ring

/-- A neighbourhood reaches half a bit to either side at most. -/
theorem between_of_contains {m : Nat} {e : Int} {q : ℚ} (mantissa : 0 < m)
    (contains : (Neighbourhood.of m e).Contains e q) :
    (4 * m - 2) * (2 : ℚ) ^ (e - 2) ≤ q ∧ q ≤ (4 * m + 2) * (2 : ℚ) ^ (e - 2) ∧
      (m % 2 = 1 → (4 * m - 2) * (2 : ℚ) ^ (e - 2) < q ∧ q < (4 * m + 2) * (2 : ℚ) ^ (e - 2)) := by
  obtain ⟨lower, upper, inside⟩ := contains
  have unit_pos : (0 : ℚ) < 2 ^ (e - 2) := by positivity
  have high : ((Neighbourhood.of m e).high : ℚ) = 4 * m + 2 := by
    simp only [Neighbourhood.of]
    push_cast
    ring
  have low : 4 * (m : ℚ) - 2 ≤ (Neighbourhood.of m e).low := by
    have whole : 4 * m ≤ (Neighbourhood.of m e).low + 2 := by
      simp only [Neighbourhood.of]
      split <;> omega
    have cast : (4 * m : ℚ) ≤ (Neighbourhood.of m e).low + 2 := by exact_mod_cast whole
    linarith
  rw [high] at upper inside
  have reach := mul_le_mul_of_nonneg_right low unit_pos.le
  refine ⟨reach.trans lower, upper, fun odd => ?_⟩
  have opened : (Neighbourhood.of m e).closed = false := by
    simp only [Neighbourhood.of, odd]
    rfl
  exact ⟨reach.trans_lt (inside opened).1, (inside opened).2⟩

section Nearest

variable {num den : Nat} {q : ℚ} {m : Nat} {e : Int}

/-- A quotient with the exponent of the number rounds to its mantissa. -/
theorem ofQuotient_eq_of_full (ratio : (num : ℚ) / den = q) (nonzero : 0 < num)
    (positive : 0 < den) (proper : IsProper m e) (mantissa : 0 < m)
    (contains : (Neighbourhood.of m e).Contains e q)
    (exponent : exponentOf num den = e) (negative : Bool) :
    ofQuotient negative num den = finite negative m e := by
  obtain ⟨lower, upper, inside⟩ := between_of_contains mantissa contains
  obtain ⟨t, scaled⟩ : ∃ t, q * 2 ^ (-e) = t := ⟨_, rfl⟩
  have unit_pos : (0 : ℚ) < 2 ^ (e - 2) := by positivity
  have back : q = 4 * t * 2 ^ (e - 2) := by
    have whole := zpow_eq_quarters e 0
    rw [Nat.cast_zero, add_zero] at whole
    rw [← scaled, zpow_neg, whole]
    field_simp
    norm_num
  rw [back] at lower upper inside
  have below := le_of_mul_le_mul_right lower unit_pos
  have above := le_of_mul_le_mul_right upper unit_pos
  have middle (odd : m % 2 = 1) : 2 * (m : ℚ) - 1 < 2 * t ∧ 2 * t < 2 * m + 1 := by
    have left := lt_of_mul_lt_mul_right (inside odd).1 unit_pos.le
    have right := lt_of_mul_lt_mul_right (inside odd).2 unit_pos.le
    constructor <;> linarith
  have run := ofQuotient_of_exponent ratio nonzero positive exponent (m := m)
    (by rw [scaled]; linarith) (by rw [scaled]; linarith) (by rw [scaled]; exact middle) negative
  have fits : m < pow2 53 := proper.below
  have inRange : ¬971 < e := not_lt.mpr proper.most
  simpa only [fits, inRange, ↓reduceIte] using run

/-- Only the neighbourhood of a power of two reaches below it. -/
theorem eq_of_contains_short (proper : IsProper m e) (above : e ≠ -1074) (mantissa : 0 < m)
    (contains : (Neighbourhood.of m e).Contains e q) (short : q < 2 ^ (e + 52)) :
    m = 2 ^ 52 := by
  have normal : 2 ^ 52 ≤ m := proper.tight.resolve_left above
  have unit_pos : (0 : ℚ) < 2 ^ (e - 2) := by positivity
  have power := zpow_eq_quarters e 52
  norm_num at power
  rw [power] at short
  by_contra other
  have more : 2 ^ 52 + 1 ≤ m := by omega
  have moreCast : (2 : ℚ) ^ 52 + 1 ≤ m := by exact_mod_cast more
  obtain ⟨lower, _⟩ := between_of_contains mantissa contains
  have reach := lt_of_mul_lt_mul_right (lower.trans_lt short) unit_pos.le
  linarith

/-- A quotient just below a power of two has the exponent before, and is rounded up to it. -/
theorem ofQuotient_eq_of_short (ratio : (num : ℚ) / den = q) (nonzero : 0 < num)
    (positive : 0 < den) (proper : IsProper m e) (above : e ≠ -1074) (mantissa : 0 < m)
    (contains : (Neighbourhood.of m e).Contains e q) (short : q < 2 ^ (e + 52))
    (negative : Bool) : ofQuotient negative num den = finite negative m e := by
  have least := proper.least
  obtain rfl := eq_of_contains_short proper above mantissa contains short
  have unit_pos : (0 : ℚ) < 2 ^ (e - 2) := by positivity
  have power := zpow_eq_quarters e 52
  norm_num at power
  rw [power] at short
  have low : (Neighbourhood.of (2 ^ 52) e).low = 4 * 2 ^ 52 - 1 := by
    have gap : 2 ^ 52 = pow2 52 ∧ -1074 < e := ⟨rfl, by omega⟩
    simp only [Neighbourhood.of, if_pos gap]
  have lower := contains.lower
  rw [low] at lower
  norm_num at lower
  have exponent : exponentOf num den = e - 1 := by
    have last : e - 1 + 53 = e + (52 : Nat) := by push_cast; ring
    have first : e - 1 + 52 = e + (51 : Nat) := by push_cast; ring
    refine exponentOf_eq ratio nonzero positive (by omega) ?_ (Or.inr ?_)
    · rw [last, zpow_eq_quarters]
      norm_num
      linarith
    · rw [first, zpow_eq_quarters]
      norm_num
      linarith
  obtain ⟨t, scaled⟩ : ∃ t, q * 2 ^ (-(e - 1)) = t := ⟨_, rfl⟩
  have back : q = 2 * t * 2 ^ (e - 2) := by
    have half : (2 : ℚ) ^ (e - 1) = 2 * 2 ^ (e - 2) := by
      rw [← zpow_one_add₀ (by norm_num)]
      congr 1
      ring
    rw [← scaled, zpow_neg, half]
    field_simp
  rw [back] at lower short
  have left := le_of_mul_le_mul_right lower unit_pos
  have right := lt_of_mul_lt_mul_right short unit_pos.le
  have run := ofQuotient_of_exponent ratio nonzero positive exponent (m := 2 ^ 53)
    (by rw [scaled]; norm_num; linarith) (by rw [scaled]; norm_num; linarith)
    (fun odd => absurd odd (by decide)) negative
  have large : ¬2 ^ 53 < pow2 53 := Nat.lt_irrefl _
  have inRange : ¬971 < e := not_lt.mpr proper.most
  have same : e - 1 + 1 = e := by ring
  have halved : 2 ^ 53 / 2 = 2 ^ 52 := by norm_num
  simpa only [large, ↓reduceIte, halved, same, inRange] using run

/-- A number is the nearest one to every quotient in its neighbourhood. -/
theorem ofQuotient_eq (proper : IsProper m e) (mantissa : 0 < m) (positive : 0 < den)
    (contains : (Neighbourhood.of m e).Contains e (num / den : ℚ)) (negative : Bool) :
    ofQuotient negative num den = finite negative m e := by
  obtain ⟨lower, upper, _⟩ := between_of_contains mantissa contains
  have unit_pos : (0 : ℚ) < 2 ^ (e - 2) := by positivity
  have one_le : (1 : ℚ) ≤ m := by exact_mod_cast mantissa
  have nonzero : 0 < num := by
    rcases Nat.eq_zero_or_pos num with rfl | more
    · rw [Nat.cast_zero, zero_div] at lower
      nlinarith
    · exact more
  by_cases full : e = -1074 ∨ (2 : ℚ) ^ (e + 52) ≤ num / den
  · have top : (num / den : ℚ) < 2 ^ (e + 53) := by
      have m_lt : (m : ℚ) + 1 ≤ 2 ^ 53 := by exact_mod_cast proper.below
      have power := zpow_eq_quarters e 53
      norm_num at power m_lt
      rw [power]
      refine upper.trans_lt (mul_lt_mul_of_pos_right ?_ unit_pos)
      linarith
    have exponent := exponentOf_eq rfl nonzero positive proper.least top full
    exact ofQuotient_eq_of_full rfl nonzero positive proper mantissa contains exponent negative
  · obtain ⟨above, short⟩ := not_or.mp full
    exact ofQuotient_eq_of_short rfl nonzero positive proper above mantissa contains
      (not_le.mp short) negative

end Nearest

end Double

end DocSpace
