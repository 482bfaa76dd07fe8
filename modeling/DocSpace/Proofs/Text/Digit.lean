import DocSpace.Text.Digit
import DocSpace.Text.Quoted
import Mathlib.Algebra.Group.Nat.Defs
import Mathlib.Data.List.Basic

set_option autoImplicit false

namespace DocSpace.Text

theorem digit_of_mem_hexDigits {c : Char} {width n : Nat} (member : c ∈ hexDigits width n) :
    ∃ d < 16, c = hexDigit d := by
  induction width generalizing n with
  | zero => exact absurd member List.not_mem_nil
  | succ width ih =>
      rw [hexDigits, List.mem_append, List.mem_singleton] at member
      rcases member with front | rfl
      · exact ih front
      · exact ⟨n % 16, Nat.mod_lt n (by decide), rfl⟩

/-- Halves of pairs are no characters. -/
theorem toNat_range (c : Char) : c.toNat < 0xd800 ∨ 0xdfff < c.toNat ∧ c.toNat < 0x110000 := by
  have valid : c.val.toNat.isValidChar := c.valid
  unfold Nat.isValidChar at valid
  exact valid

theorem length_hexDigits (width n : Nat) : (hexDigits width n).length = width := by
  induction width generalizing n with
  | zero => rfl
  | succ width ih => rw [hexDigits, List.length_append, ih, List.length_singleton]

theorem digitIn?_hexDigit {d : Nat} (digit : d < 16) : digitIn? 16 (hexDigit d) = some d := by
  have each : ∀ d < 16, digitIn? 16 (hexDigit d) = some d := by decide
  exact each d digit

/-- A further digit counts once, and what came before it counts `base` times. -/
theorem numberIn?_concat {base n d : Nat} {cs : List Char} {c : Char}
    (front : numberIn? base cs = some n) (last : digitIn? base c = some d) :
    numberIn? base (cs ++ [c]) = some (base * n + d) := by
  obtain ⟨ds, read, rfl⟩ := Option.map_eq_some_iff.mp front
  simp [numberIn?, List.mapM_append, read, last]

theorem numberIn?_hexDigits {width n : Nat} (fits : n < 16 ^ width) :
    numberIn? 16 (hexDigits width n) = some n := by
  induction width generalizing n with
  | zero =>
      have zero : n = 0 := by simpa using fits
      rw [zero]
      rfl
  | succ width ih =>
      have front : n / 16 < 16 ^ width := by omega
      have last : n % 16 < 16 := Nat.mod_lt n (by decide)
      rw [hexDigits, numberIn?_concat (ih front) (digitIn?_hexDigit last), Nat.div_add_mod]

end DocSpace.Text
