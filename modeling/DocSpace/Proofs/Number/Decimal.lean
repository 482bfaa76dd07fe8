import DocSpace.Number.Layout
import DocSpace.Number.Numeral
import Mathlib.Data.Nat.Digits.Defs

set_option autoImplicit false

namespace DocSpace.Number

theorem natDigits_injective {m n : Nat} (equal : natDigits m = natDigits n) : m = n := by
  have read := congrArg (fun ds => Nat.ofDigitChars 10 ds 0) equal
  simpa only [natDigits, Nat.ofDigitChars_ten_toDigits] using read

theorem isDigit_of_mem_natDigits {n : Nat} {c : Char} (member : c ∈ natDigits n) :
    c.isDigit = true :=
  Nat.isDigit_of_mem_toDigits (by decide) (by decide) member

theorem digitsValue_natDigits (n : Nat) : digitsValue (natDigits n) = n := by
  rw [digitsValue, ← Nat.ofDigitChars_eq_foldl, natDigits, Nat.ofDigitChars_ten_toDigits]

theorem length_natDigits_pos (n : Nat) : 0 < (natDigits n).length := Nat.length_toDigits_pos

theorem lt_pow_length_natDigits (n : Nat) : n < 10 ^ (natDigits n).length :=
  (Nat.length_toDigits_le_iff (by decide) (length_natDigits_pos n)).mp (Nat.le_refl _)

/-- The first digit of a number is not idle. -/
theorem pow_le_of_length_natDigits {n : Nat} (positive : 0 < n) :
    10 ^ ((natDigits n).length - 1) ≤ n := by
  by_contra less
  rcases Nat.eq_zero_or_pos ((natDigits n).length - 1) with single | more
  · rw [single] at less
    omega
  · have shorter := (Nat.length_toDigits_le_iff (n := n) (by decide) more).mpr (not_le.mp less)
    have length := length_natDigits_pos n
    simp only [natDigits] at shorter length
    omega

theorem length_natDigits_eq {n k : Nat} (lower : 10 ^ k ≤ n) (upper : n < 10 ^ (k + 1)) :
    (natDigits n).length = k + 1 := by
  have notMore : (natDigits n).length ≤ k + 1 :=
    (Nat.length_toDigits_le_iff (by decide) (by omega)).mpr upper
  have notLess : k < (natDigits n).length := by
    by_contra short
    have smaller : n < 10 ^ k :=
      (lt_pow_length_natDigits n).trans_le (Nat.pow_le_pow_right (by decide) (not_lt.mp short))
    omega
  omega

/-- A whole number is its sign and its size. -/
theorem signed_natAbs (i : Int) : signed (decide (i < 0)) i.natAbs = i := by
  by_cases negative : i < 0
  · simp only [signed, negative, decide_true, ↓reduceIte]
    omega
  · simp only [signed, negative, decide_false, Bool.false_eq_true, ↓reduceIte]
    omega

theorem digitsValue_zeros_append (n : Nat) (ds : List Char) :
    digitsValue (zeros n ++ ds) = digitsValue ds := by
  simp only [digitsValue, zeros, ← Nat.ofDigitChars_eq_foldl, Nat.ofDigitChars_append,
    Nat.ofDigitChars_replicate_zero, Nat.mul_zero]

theorem digitsValue_append_zeros (n : Nat) (ds : List Char) :
    digitsValue (ds ++ zeros n) = 10 ^ n * digitsValue ds := by
  simp only [digitsValue, zeros, ← Nat.ofDigitChars_eq_foldl, Nat.ofDigitChars_append,
    Nat.ofDigitChars_replicate_zero]

theorem toList_intText (i : Int) :
    (intText i).toList = (if i < 0 then ['-'] else []) ++ natDigits i.natAbs :=
  String.toList_ofList

theorem mem_intText {i : Int} {c : Char} (member : c ∈ (intText i).toList) :
    c = '-' ∨ c.isDigit = true := by
  rw [toList_intText, List.mem_append] at member
  rcases member with sign | digit
  · split at sign
    · exact Or.inl (List.mem_singleton.mp sign)
    · exact absurd sign List.not_mem_nil
  · exact Or.inr (isDigit_of_mem_natDigits digit)

theorem sign_not_mem_natDigits (n : Nat) : '-' ∉ natDigits n := by
  intro member
  exact absurd (isDigit_of_mem_natDigits member) (by decide)

theorem intText_injective {i j : Int} (equal : intText i = intText j) : i = j := by
  have chars := congrArg String.toList equal
  rw [toList_intText, toList_intText] at chars
  by_cases left : i < 0 <;> by_cases right : j < 0 <;>
    simp only [left, right, ↓reduceIte, List.cons_append, List.nil_append,
      List.cons.injEq, true_and] at chars
  · have digits := natDigits_injective chars
    omega
  · exact absurd (chars ▸ List.mem_cons_self) (sign_not_mem_natDigits j.natAbs)
  · exact absurd (chars ▸ List.mem_cons_self) (sign_not_mem_natDigits i.natAbs)
  · have digits := natDigits_injective chars
    omega

end DocSpace.Number
