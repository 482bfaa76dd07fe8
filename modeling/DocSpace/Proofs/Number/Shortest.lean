import DocSpace.Proofs.Number.Decimal
import DocSpace.Proofs.Number.Rounding

set_option autoImplicit false

namespace DocSpace.Number

open Double

theorem decimalPoint_between {num den : Nat} (nonzero : 0 < num) (positive : 0 < den) :
    (10 : ℚ) ^ (decimalPoint num den - 1) ≤ num / den ∧
      (num / den : ℚ) < 10 ^ decimalPoint num den := by
  have den_pos : (0 : ℚ) < den := by exact_mod_cast positive
  have num_pos : (0 : ℚ) < num := by exact_mod_cast nonzero
  unfold decimalPoint
  split
  · next large =>
      have whole : 0 < num / den := Nat.div_pos large positive
      have lower := pow_le_of_length_natDigits whole
      have upper := lt_pow_length_natDigits (num / den)
      have length := length_natDigits_pos (num / den)
      simp only [natDigits] at lower upper length
      generalize (Nat.toDigits 10 (num / den)).length = k at lower upper length ⊢
      rw [Nat.le_div_iff_mul_le positive] at lower
      rw [Nat.div_lt_iff_lt_mul positive] at upper
      have power : ((k : Int) - 1) = ((k - 1 : Nat) : Int) := by omega
      rw [power, zpow_natCast, zpow_natCast, le_div_iff₀ den_pos, div_lt_iff₀ den_pos]
      exact ⟨by exact_mod_cast lower, by exact_mod_cast upper⟩
  · next small =>
      have whole : 0 < (den - 1) / num := Nat.div_pos (by omega) nonzero
      have lower := pow_le_of_length_natDigits whole
      have upper := lt_pow_length_natDigits ((den - 1) / num)
      have length := length_natDigits_pos ((den - 1) / num)
      simp only [natDigits] at lower upper length
      generalize (Nat.toDigits 10 ((den - 1) / num)).length = k at lower upper length ⊢
      rw [Nat.le_div_iff_mul_le nonzero] at lower
      rw [Nat.div_lt_iff_lt_mul nonzero] at upper
      have below : 10 ^ (k - 1) * num < den := by omega
      have above : den ≤ 10 ^ k * num := by omega
      have first : 1 - (k : Int) - 1 = -(k : Int) := by omega
      have last : 1 - (k : Int) = -((k - 1 : Nat) : Int) := by omega
      rw [first, last, zpow_neg, zpow_neg, zpow_natCast, zpow_natCast, inv_le_comm₀ (by positivity)
        (by positivity), lt_inv_comm₀ (by positivity) (by positivity), inv_div,
        div_le_iff₀ num_pos, lt_div_iff₀ num_pos]
      exact ⟨by exact_mod_cast above, by exact_mod_cast below⟩

namespace Neighbourhood

variable {n : Neighbourhood} {part unit : Nat} {e power : Int}

/-- What stands for a quarter of the last bit, and for a step of the grid. -/
structure Scaled (part unit : Nat) (e power : Int) : Prop where
  common : ∃ s : ℚ, 0 < s ∧ (part : ℚ) = s * 2 ^ (e - 2) ∧ (unit : ℚ) = s * 10 ^ power

theorem scaled_of_pow (e power : Int) :
    Scaled (pow2 (e - 2).toNat * pow10 (-power).toNat) (pow2 (2 - e).toNat * pow10 power.toNat)
      e power := by
  refine ⟨⟨2 ^ (2 - e).toNat * 10 ^ (-power).toNat, by positivity, ?_, ?_⟩⟩
  · have two := pow_toNat_div (b := 2) (by norm_num) (e - 2)
    have opposite : -(e - 2) = 2 - e := by ring
    rw [opposite] at two
    push_cast [cast_pow2, cast_pow10]
    rw [← two]
    field_simp
  · have ten := pow_toNat_div (b := 10) (by norm_num) power
    push_cast [cast_pow2, cast_pow10]
    rw [← ten]
    field_simp

theorem Scaled.le_iff (scaled : Scaled part unit e power) (a b : Nat) :
    a * part ≤ b * unit ↔ (a : ℚ) * 2 ^ (e - 2) ≤ b * 10 ^ power := by
  obtain ⟨s, s_pos, parts, units⟩ := scaled.common
  have cast : a * part ≤ b * unit ↔ s * ((a : ℚ) * 2 ^ (e - 2)) ≤ s * (b * 10 ^ power) := by
    rw [mul_left_comm, mul_left_comm s, ← parts, ← units]
    exact_mod_cast Iff.rfl
  rw [cast, mul_le_mul_iff_right₀ s_pos]

theorem Scaled.ge_iff (scaled : Scaled part unit e power) (a b : Nat) :
    b * unit ≤ a * part ↔ (b : ℚ) * 10 ^ power ≤ a * 2 ^ (e - 2) := by
  obtain ⟨s, s_pos, parts, units⟩ := scaled.common
  have cast : b * unit ≤ a * part ↔ s * ((b : ℚ) * 10 ^ power) ≤ s * (a * 2 ^ (e - 2)) := by
    rw [mul_left_comm, mul_left_comm s, ← parts, ← units]
    exact_mod_cast Iff.rfl
  rw [cast, mul_le_mul_iff_right₀ s_pos]

/-- The check on whole numbers is the one on quotients. -/
theorem holds_iff (scaled : Scaled part unit e power) (candidate : Nat) :
    n.holds part unit candidate = true ↔ n.Contains e (candidate * 10 ^ power) := by
  have above : n.low * part < candidate * unit ↔
      (n.low : ℚ) * 2 ^ (e - 2) < candidate * 10 ^ power := by
    rw [← not_le, ← not_le, scaled.ge_iff]
  have below : candidate * unit < n.high * part ↔
      (candidate : ℚ) * 10 ^ power < n.high * 2 ^ (e - 2) := by
    rw [← not_le, ← not_le, scaled.le_iff]
  unfold holds
  cases closed : n.closed with
  | true =>
      simp only [↓reduceIte, Bool.and_eq_true, decide_eq_true_eq, scaled.le_iff, scaled.ge_iff]
      exact ⟨fun ends => ⟨ends.1, ends.2, fun opened => absurd closed (by simp [opened])⟩,
        fun contains => ⟨contains.lower, contains.upper⟩⟩
  | false =>
      simp only [Bool.false_eq_true, ↓reduceIte, Bool.and_eq_true, decide_eq_true_eq, above, below]
      exact ⟨fun ends => ⟨ends.1.le, ends.2.le, fun _ => ends⟩,
        fun contains => contains.inside closed⟩

/-- The grid points on both sides of the value. -/
theorem below_between (scaled : Scaled part unit e power) (unit_pos : 0 < unit) :
    ((n.value * part / unit : Nat) : ℚ) * 10 ^ power ≤ n.value * 2 ^ (e - 2) ∧
      (n.value : ℚ) * 2 ^ (e - 2) < (n.value * part / unit + 1 : Nat) * 10 ^ power := by
  have lower := Nat.div_mul_le_self (n.value * part) unit
  have upper : n.value * part < (n.value * part / unit + 1) * unit :=
    Nat.lt_mul_of_div_lt (Nat.lt_succ_self _) unit_pos
  refine ⟨(scaled.ge_iff _ _).mp lower, ?_⟩
  rw [← not_le, ← scaled.ge_iff]
  exact not_le.mpr upper

/-- What is found lies inside, next to the value. -/
theorem nearest?_eq_some {d : Nat} (found : n.nearest? part unit = some d) :
    n.holds part unit d = true ∧
      (d = n.value * part / unit ∨ d = n.value * part / unit + 1) := by
  unfold nearest? at found
  generalize n.value * part / unit = below at found ⊢
  cases first : n.holds part unit below <;> cases second : n.holds part unit (below + 1) <;>
    simp only [first, second] at found
  · cases found
  · obtain rfl := Option.some.inj found
    exact ⟨second, Or.inr rfl⟩
  · obtain rfl := Option.some.inj found
    exact ⟨first, Or.inl rfl⟩
  · have either : d = below ∨ d = below + 1 := by
      split at found
      · exact Or.inl (Option.some.inj found).symm
      · split at found
        · exact Or.inr (Option.some.inj found).symm
        · have parity := Option.some.inj found
          omega
    rcases either with rfl | rfl
    · exact ⟨first, Or.inl rfl⟩
    · exact ⟨second, Or.inr rfl⟩

theorem nearest?_isSome (either : n.holds part unit (n.value * part / unit) = true ∨
    n.holds part unit (n.value * part / unit + 1) = true) :
    ∃ d, n.nearest? part unit = some d := by
  unfold nearest?
  generalize n.value * part / unit = below at either ⊢
  cases first : n.holds part unit below <;> cases second : n.holds part unit (below + 1) <;>
    simp only [first, second] at either ⊢
  · exact absurd either (by decide)
  · exact ⟨_, rfl⟩
  · exact ⟨_, rfl⟩
  · split
    · exact ⟨_, rfl⟩
    · split <;> exact ⟨_, rfl⟩

/-- What is found is less than one step from the value, or one step above it. -/
theorem nearest?_between (scaled : Scaled part unit e power) (unit_pos : 0 < unit) {d : Nat}
    (found : n.nearest? part unit = some d) :
    (n.value : ℚ) * 2 ^ (e - 2) < (d + 1) * 10 ^ power ∧
      (d : ℚ) * 10 ^ power ≤ n.value * 2 ^ (e - 2) + 10 ^ power := by
  obtain ⟨lower, upper⟩ := below_between (n := n) scaled unit_pos
  have step : (0 : ℚ) < 10 ^ power := by positivity
  push_cast at upper
  rcases (nearest?_eq_some found).2 with rfl | rfl
  · exact ⟨upper, by linarith⟩
  · push_cast
    constructor <;> linarith

/-- A grid that is finer than the neighbourhood is wide has a point inside. -/
theorem exists_nearest (scaled : Scaled part unit e power) (unit_pos : 0 < unit)
    (low : n.low < n.value) (high : n.value < n.high)
    (fine : (10 : ℚ) ^ power < (n.high - n.low) * 2 ^ (e - 2)) :
    ∃ d, n.nearest? part unit = some d := by
  obtain ⟨lower, upper⟩ := below_between (n := n) scaled unit_pos
  have quarter : (0 : ℚ) < 2 ^ (e - 2) := by positivity
  have lowCast : (n.low : ℚ) * 2 ^ (e - 2) < n.value * 2 ^ (e - 2) :=
    mul_lt_mul_of_pos_right (by exact_mod_cast low) quarter
  have highCast : (n.value : ℚ) * 2 ^ (e - 2) < n.high * 2 ^ (e - 2) :=
    mul_lt_mul_of_pos_right (by exact_mod_cast high) quarter
  have inside {q : ℚ} (above : n.low * 2 ^ (e - 2) < q) (below : q < n.high * 2 ^ (e - 2)) :
      n.Contains e q := ⟨above.le, below.le, fun _ => ⟨above, below⟩⟩
  apply nearest?_isSome
  rw [holds_iff scaled, holds_iff scaled]
  push_cast at upper ⊢
  by_cases reached : (n.low : ℚ) * 2 ^ (e - 2) < (n.value * part / unit : Nat) * 10 ^ power
  · exact Or.inl (inside reached (by linarith))
  · exact Or.inr (inside (by linarith) (by linarith))

end Neighbourhood

section Fewest

open Neighbourhood

variable {n : Neighbourhood} {e point : Int} {fuel count : Nat}

def Decimal.value (d : Decimal) : ℚ := d.digits * 10 ^ (d.point - (natDigits d.digits).length)

/-- A grid point next to a number with as many digits has these digits, unless it is the next power
of ten. -/
theorem value_of_nearest (lower : (10 : ℚ) ^ (point - 1) ≤ n.value * 2 ^ (e - 2))
    (upper : (n.value : ℚ) * 2 ^ (e - 2) < 10 ^ point) (counted : 0 < count) {c : Nat}
    (after : (n.value : ℚ) * 2 ^ (e - 2) < (c + 1) * 10 ^ (point - count))
    (before : (c : ℚ) * 10 ^ (point - count) ≤ n.value * 2 ^ (e - 2) + 10 ^ (point - count)) :
    ∃ d : Decimal, d = (if c = pow10 count then ⟨1, point + 1⟩ else ⟨c, point⟩) ∧ 0 < d.digits ∧
      d.value = c * 10 ^ (point - count) := by
  have step : (0 : ℚ) < 10 ^ (point - count) := by positivity
  have top : (10 : ℚ) ^ point = 10 ^ count * 10 ^ (point - count) := by
    rw [← zpow_natCast, ← zpow_add₀ (by norm_num)]
    congr 1
    omega
  have bottom : (10 : ℚ) ^ (point - 1) = 10 ^ (count - 1) * 10 ^ (point - count) := by
    rw [← zpow_natCast, ← zpow_add₀ (by norm_num)]
    congr 1
    omega
  rw [bottom] at lower
  rw [top] at upper
  have least : 10 ^ (count - 1) ≤ c := by
    have cast := lt_of_mul_lt_mul_right (lower.trans_lt after) step.le
    have whole : 10 ^ (count - 1) < c + 1 := by exact_mod_cast cast
    omega
  have most : c ≤ 10 ^ count := by
    have bound : (c : ℚ) * 10 ^ (point - count) < (10 ^ count + 1) * 10 ^ (point - count) := by
      linarith
    have cast := lt_of_mul_lt_mul_right bound step.le
    have whole : c < 10 ^ count + 1 := by exact_mod_cast cast
    omega
  have positive : 0 < c := (Nat.pow_pos (by decide)).trans_le least
  refine ⟨_, rfl, ?_⟩
  split
  · next same =>
      refine ⟨Nat.one_pos, ?_⟩
      have whole : (c : ℚ) = 10 ^ count := by rw [same, cast_pow10]
      have single : ((natDigits 1).length : Int) = 1 := rfl
      rw [Decimal.value, single, whole, ← top]
      simp
  · next other =>
      have fewer : c < 10 ^ count := lt_of_le_of_ne most other
      have exact : count - 1 + 1 = count := by omega
      have length := length_natDigits_eq least (exact.symm ▸ fewer)
      rw [exact] at length
      exact ⟨positive, by rw [Decimal.value, length]⟩

/-- Digits that are found stand for a quotient in the neighbourhood. -/
theorem contains_of_fewestDigits (lower : (10 : ℚ) ^ (point - 1) ≤ n.value * 2 ^ (e - 2))
    (upper : (n.value : ℚ) * 2 ^ (e - 2) < 10 ^ point) (counted : 0 < count) {d : Decimal}
    (found : fewestDigits n e point fuel count = some d) :
    0 < d.digits ∧ n.Contains e d.value := by
  induction fuel generalizing count with
  | zero => cases found
  | succ fuel ih =>
      have scaled := scaled_of_pow e (point - count)
      have unit_pos : 0 < pow2 (2 - e).toNat * pow10 (point - count).toNat :=
        Nat.mul_pos (Nat.two_pow_pos _) (Nat.pow_pos (by decide))
      rw [fewestDigits] at found
      split at found
      · next c near =>
          obtain ⟨after, before⟩ := nearest?_between scaled unit_pos near
          obtain ⟨d', same, positive, value⟩ :=
            value_of_nearest lower upper counted after before
          obtain rfl : d' = d := same.trans (Option.some.inj found)
          rw [value]
          exact ⟨positive, (holds_iff scaled c).mp (nearest?_eq_some near).1⟩
      · exact ih (Nat.succ_pos count) found

theorem fewestDigits_isSome {k : Nat} (first : count ≤ k) (last : k < count + fuel)
    (near : ∃ d, n.nearest? (pow2 (e - 2).toNat * pow10 (-(point - k)).toNat)
      (pow2 (2 - e).toNat * pow10 (point - k).toNat) = some d) :
    ∃ d, fewestDigits n e point fuel count = some d := by
  induction fuel generalizing count with
  | zero => omega
  | succ fuel ih =>
      rw [fewestDigits]
      split
      · exact ⟨_, rfl⟩
      · next none =>
          rcases Nat.lt_or_ge count k with before | here
          · exact ih before (by omega)
          · obtain rfl : count = k := by omega
            obtain ⟨d, some⟩ := near
            exact absurd (some.symm.trans none) nofun

end Fewest

section Shortest

variable {m : Nat} {e : Int}

/-- A grid of seventeen digits is finer than the neighbourhood of any number is wide. -/
theorem seventeen_digits (proper : IsProper m e) (mantissa : 0 < m) {point : Int}
    (lower : (10 : ℚ) ^ (point - 1) ≤ (4 * m : Nat) * 2 ^ (e - 2)) :
    (10 : ℚ) ^ (point - (17 : Nat)) <
      ((Neighbourhood.of m e).high - (Neighbourhood.of m e).low) * 2 ^ (e - 2) := by
  have quarter : (0 : ℚ) < 2 ^ (e - 2) := by positivity
  have power : (10 : ℚ) ^ (point - 1) = 10 ^ 16 * 10 ^ (point - (17 : Nat)) := by
    rw [← zpow_natCast, ← zpow_add₀ (by norm_num)]
    congr 1
    push_cast
    ring
  rw [power] at lower
  push_cast at lower
  have high : ((Neighbourhood.of m e).high : ℚ) = 4 * m + 2 := by
    simp only [Neighbourhood.of]
    push_cast
    ring
  rw [high]
  by_cases gap : m = pow2 52 ∧ -1074 < e
  · have low : (Neighbourhood.of m e).low + 1 = 4 * m := by
      simp only [Neighbourhood.of, if_pos gap]
      omega
    have lowCast : ((Neighbourhood.of m e).low : ℚ) + 1 = 4 * m := by exact_mod_cast low
    have size : (m : ℚ) = 2 ^ 52 := by rw [gap.1, cast_pow2]
    rw [size] at lower lowCast
    rw [size, eq_sub_of_add_eq lowCast]
    norm_num at lower ⊢
    linarith
  · have low : (Neighbourhood.of m e).low + 2 = 4 * m := by
      simp only [Neighbourhood.of, if_neg gap]
      omega
    have lowCast : ((Neighbourhood.of m e).low : ℚ) + 2 = 4 * m := by exact_mod_cast low
    have size : (m : ℚ) + 1 ≤ 2 ^ 53 := by exact_mod_cast proper.below
    have bound : 4 * (m : ℚ) * 2 ^ (e - 2) ≤ 4 * 2 ^ 53 * 2 ^ (e - 2) :=
      mul_le_mul_of_nonneg_right (by linarith) quarter.le
    rw [eq_sub_of_add_eq lowCast]
    norm_num at lower bound ⊢
    linarith

theorem point_between (mantissa : 0 < m) :
    (10 : ℚ) ^ (decimalPoint (m * pow2 e.toNat) (pow2 (-e).toNat) - 1) ≤
        (4 * m : Nat) * 2 ^ (e - 2) ∧
      ((4 * m : Nat) : ℚ) * 2 ^ (e - 2) <
        10 ^ decimalPoint (m * pow2 e.toNat) (pow2 (-e).toNat) := by
  have between := decimalPoint_between (Nat.mul_pos mantissa (Nat.two_pow_pos e.toNat))
    (Nat.two_pow_pos (-e).toNat)
  have power := pow_toNat_div (b := 2) (by norm_num) e
  have quarters := zpow_eq_quarters e 0
  rw [Nat.cast_zero, add_zero] at quarters
  have value : ((m * pow2 e.toNat : Nat) : ℚ) / (pow2 (-e).toNat : Nat) =
      (4 * m : Nat) * 2 ^ (e - 2) := by
    push_cast [cast_pow2]
    rw [mul_div_assoc, power, quarters]
    ring
  rwa [← value]

/-- What is written of a number lies in its neighbourhood. -/
theorem shortest_contains (proper : IsProper m e) (mantissa : 0 < m) :
    0 < (shortest m e).digits ∧ (Neighbourhood.of m e).Contains e (shortest m e).value := by
  obtain ⟨lower, upper⟩ := point_between (e := e) mantissa
  have fine := seventeen_digits proper mantissa lower
  have value : 4 * m = (Neighbourhood.of m e).value := rfl
  rw [value] at lower upper
  unfold shortest
  generalize decimalPoint (m * pow2 e.toNat) (pow2 (-e).toNat) = point at lower upper fine ⊢
  have low : (Neighbourhood.of m e).low < (Neighbourhood.of m e).value := by
    simp only [Neighbourhood.of]
    split <;> omega
  have high : (Neighbourhood.of m e).value < (Neighbourhood.of m e).high := by
    simp only [Neighbourhood.of]
    omega
  generalize Neighbourhood.of m e = n at lower upper fine low high ⊢
  have unit_pos : 0 < pow2 (2 - e).toNat * pow10 (point - (17 : Nat)).toNat :=
    Nat.mul_pos (Nat.two_pow_pos _) (Nat.pow_pos (by decide))
  have near := Neighbourhood.exists_nearest (Neighbourhood.scaled_of_pow e (point - (17 : Nat)))
    unit_pos low high fine
  obtain ⟨d, found⟩ : ∃ d, fewestDigits n e point 17 1 = some d :=
    fewestDigits_isSome (by omega) (by omega) near
  simp only [found, Option.getD_some]
  exact contains_of_fewestDigits lower upper Nat.one_pos found

end Shortest

end DocSpace.Number

namespace DocSpace.Double

open Number

variable {m : Nat} {e : Int}

theorem pow_ten_331_lt : (10 : ℚ) ^ (-331 : Int) < 2 ^ (-1076 : Int) := by
  have whole : 2 ^ 1076 < 10 ^ 331 := by decide +kernel
  have cast : (2 : ℚ) ^ 1076 < 10 ^ 331 := by exact_mod_cast whole
  rw [zpow_neg, zpow_neg]
  exact inv_strictAnti₀ (by positivity) cast

theorem lt_pow_ten_330 : (2 : ℚ) ^ 55 * 2 ^ (969 : Int) < 10 ^ (330 : Int) := by
  have whole : 2 ^ 55 * 2 ^ 969 < 10 ^ 330 := by decide +kernel
  exact_mod_cast whole

/-- No number is so large or so small that its decimal digits are cut off. -/
theorem inRange_of_contains (proper : IsProper m e) (mantissa : 0 < m) {q : ℚ}
    (contains : (Neighbourhood.of m e).Contains e q) {top : Int}
    (lower : (10 : ℚ) ^ (top - 1) ≤ q) (upper : q < 10 ^ top) : -330 ≤ top ∧ top ≤ 330 := by
  obtain ⟨below, above, _⟩ := between_of_contains mantissa contains
  have one_le : (1 : ℚ) ≤ m := by exact_mod_cast mantissa
  have m_lt : (m : ℚ) + 1 ≤ 2 ^ 53 := by exact_mod_cast proper.below
  have quarter : (0 : ℚ) < 2 ^ (e - 2) := by positivity
  have ten : (1 : ℚ) ≤ 10 := by norm_num
  have two : (1 : ℚ) ≤ 2 := by norm_num
  have bottom := proper.least
  have most := proper.most
  constructor
  · by_contra small
    have least : (2 : ℚ) ^ (-1076 : Int) ≤ 2 ^ (e - 2) := zpow_le_zpow_right₀ two (by omega)
    have tiny : (10 : ℚ) ^ top ≤ 10 ^ (-331 : Int) := zpow_le_zpow_right₀ ten (by omega)
    have single : 1 * (2 : ℚ) ^ (e - 2) ≤ (4 * m - 2) * 2 ^ (e - 2) :=
      mul_le_mul_of_nonneg_right (by linarith) quarter.le
    rw [one_mul] at single
    have chain := (least.trans single).trans_lt ((below.trans_lt upper).trans_le tiny)
    exact absurd chain (not_lt.mpr pow_ten_331_lt.le)
  · by_contra large
    have huge : (10 : ℚ) ^ (330 : Int) ≤ 10 ^ (top - 1) := zpow_le_zpow_right₀ ten (by omega)
    have greatest : (2 : ℚ) ^ (e - 2) ≤ 2 ^ (969 : Int) := zpow_le_zpow_right₀ two (by omega)
    have whole : (4 * m + 2) * (2 : ℚ) ^ (e - 2) ≤ 2 ^ 55 * 2 ^ (969 : Int) :=
      mul_le_mul (by linarith) greatest quarter.le (by positivity)
    have chain := ((huge.trans lower).trans above).trans whole
    exact absurd chain (not_le.mpr lt_pow_ten_330)

/-- Decimal digits in the neighbourhood of a number are read as the number. -/
theorem ofDecimal_eq (proper : IsProper m e) (mantissa : 0 < m) {digits : Nat} {power : Int}
    (contains : (Neighbourhood.of m e).Contains e (digits * 10 ^ power)) (negative : Bool) :
    ofDecimal negative digits power = finite negative m e := by
  have step : (0 : ℚ) < 10 ^ power := by positivity
  have nonzero : 0 < digits := by
    rcases Nat.eq_zero_or_pos digits with rfl | more
    · obtain ⟨lower, _⟩ := between_of_contains mantissa contains
      have one_le : (1 : ℚ) ≤ m := by exact_mod_cast mantissa
      have quarter : (0 : ℚ) < 2 ^ (e - 2) := by positivity
      rw [Nat.cast_zero, zero_mul] at lower
      nlinarith
    · exact more
  have length := length_natDigits_pos digits
  have least := pow_le_of_length_natDigits nonzero
  have most := lt_pow_length_natDigits digits
  simp only [natDigits] at length least most
  obtain ⟨top, start⟩ : ∃ top, top = power + (Nat.toDigits 10 digits).length := ⟨_, rfl⟩
  have lower : (10 : ℚ) ^ (top - 1) ≤ digits * 10 ^ power := by
    have same : top - 1 = (((Nat.toDigits 10 digits).length - 1 : Nat) : Int) + power := by omega
    rw [same, zpow_add₀ (by norm_num), zpow_natCast]
    exact mul_le_mul_of_nonneg_right (by exact_mod_cast least) step.le
  have upper : digits * (10 : ℚ) ^ power < 10 ^ top := by
    rw [start, add_comm, zpow_add₀ (by norm_num), zpow_natCast]
    exact mul_lt_mul_of_pos_right (by exact_mod_cast most) step
  have bounds := inRange_of_contains proper mantissa contains lower upper
  have notSmall : ¬(digits = 0 ∨ power + ((Nat.toDigits 10 digits).length : Int) < -330) := by
    omega
  have notLarge : ¬330 < power + ((Nat.toDigits 10 digits).length : Int) := by omega
  simp only [ofDecimal, if_neg notSmall, if_neg notLarge]
  apply ofQuotient_eq proper mantissa (Nat.pow_pos (by decide))
  have ten := pow_toNat_div (b := 10) (by norm_num) power
  push_cast [cast_pow10]
  rwa [mul_div_assoc, ten]

end DocSpace.Double
