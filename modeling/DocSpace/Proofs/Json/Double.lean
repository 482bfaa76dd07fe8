import DocSpace.Proofs.Json.Numeral

set_option autoImplicit false

namespace DocSpace.Number

open Json

def filled (ds : List Char) : List Char := if ds.isEmpty then ['0'] else ds

/-- A decimal as a numeral: positional, or with a power of ten. -/
def Decimal.numeral (negative : Bool) (d : Decimal) : Numeral :=
  let ds := natDigits d.digits
  if -4 < d.point ∧ d.point ≤ 16 then
    if d.point ≤ 0 then ⟨negative, ['0'], zeros (-d.point).toNat ++ ds, none⟩
    else
      let whole := d.point.toNat
      ⟨negative, ds.take whole ++ zeros (whole - ds.length), filled (ds.drop whole), none⟩
  else ⟨negative, ds.take 1, ds.drop 1, some (d.point - 1)⟩

theorem filled_ne_nil (ds : List Char) : filled ds ≠ [] := by
  cases ds <;> exact List.cons_ne_nil _ _

theorem areDigits_filled {ds : List Char} (digits : AreDigits ds) : AreDigits (filled ds) := by
  cases ds with
  | nil => exact areDigits_zeros 1
  | cons d ds => exact digits

theorem natDigits_ne_nil (n : Nat) : natDigits n ≠ [] := Nat.toDigits_ne_nil

namespace Decimal

variable {d : Decimal}

theorem chars_numeral (negative : Bool) (d : Decimal) :
    (d.numeral negative).chars = (if negative then ['-'] else []) ++ d.chars := by
  unfold numeral Decimal.chars
  split
  · split
    · simp [Numeral.chars, Numeral.fractionChars, Numeral.powerChars, natDigits_ne_nil]
    · simp only [Numeral.chars, Numeral.fractionChars, Numeral.powerChars, filled_ne_nil,
        ↓reduceIte, List.append_assoc, List.append_nil]
      rfl
  · simp [Numeral.chars, Numeral.fractionChars, Numeral.powerChars]

theorem isWritten_numeral (negative : Bool) (positive : 0 < d.digits) :
    (d.numeral negative).IsWritten := by
  have digits := areDigits_natDigits d.digits
  obtain ⟨c, cs, split, nonzero⟩ := exists_digit_natDigits positive
  rw [split] at digits
  have tails (k : Nat) : AreDigits ((c :: cs).drop k) :=
    fun e member => digits e (List.mem_of_mem_drop member)
  have heads {k : Nat} (some : 0 < k) (n : Nat) : IsWhole ((c :: cs).take k ++ zeros n) := by
    obtain ⟨k, rfl⟩ := Nat.exists_eq_succ_of_ne_zero (Nat.ne_of_gt some)
    refine Or.inr ⟨c, cs.take k ++ zeros n, rfl, nonzero, ?_⟩
    exact areDigits_append (fun e member => digits e (List.mem_of_mem_take member))
      (areDigits_zeros n)
  unfold numeral
  rw [split]
  split
  · split
    · exact ⟨Or.inl rfl, areDigits_append (areDigits_zeros _) digits⟩
    · next above => exact ⟨heads (by omega) _, areDigits_filled (tails _)⟩
  · have single := heads Nat.one_pos 0
    rw [zeros, List.replicate_zero, List.append_nil] at single
    exact ⟨single, tails 1⟩

theorem isWhole_numeral (negative : Bool) (d : Decimal) :
    (d.numeral negative).isWhole = false := by
  unfold numeral
  split
  · split
    · simp [Numeral.isWhole, natDigits_ne_nil]
    · simp [Numeral.isWhole, filled_ne_nil]
  · simp [Numeral.isWhole]

theorem negative_numeral (negative : Bool) (d : Decimal) :
    (d.numeral negative).negative = negative := by
  unfold numeral
  split
  · split <;> rfl
  · rfl

/-- The digits of a numeral with its power of ten stand for the decimal's value. -/
theorem value_numeral (negative : Bool) (d : Decimal) :
    (digitsValue ((d.numeral negative).whole ++ (d.numeral negative).fraction) : ℚ) *
        10 ^ ((d.numeral negative).exponent.getD 0 - (d.numeral negative).fraction.length) =
      d.value := by
  have read := digitsValue_natDigits d.digits
  have length := length_natDigits_pos d.digits
  unfold numeral Decimal.value
  generalize natDigits d.digits = ds at read length ⊢
  split
  · split
    · next below =>
        have power : (none : Option Int).getD 0 - ((zeros (-d.point).toNat ++ ds).length : Int) =
            d.point - ds.length := by
          rw [List.length_append, zeros, List.length_replicate, Option.getD_none]
          push_cast
          omega
        have zero : ['0'] = zeros 1 := rfl
        simp only [power]
        rw [zero, digitsValue_zeros_append, digitsValue_zeros_append, read]
    · next above =>
        rcases Nat.lt_or_ge d.point.toNat ds.length with inside | outside
        · have rest : filled (ds.drop d.point.toNat) = ds.drop d.point.toNat := by
            refine if_neg fun empty => ?_
            have short := List.drop_eq_nil_iff.mp (List.isEmpty_iff.mp empty)
            omega
          have none_left : d.point.toNat - ds.length = 0 := by omega
          have power : (none : Option Int).getD 0 - ((ds.drop d.point.toNat).length : Int) =
              d.point - ds.length := by
            rw [List.length_drop, Option.getD_none]
            omega
          simp only [rest, power, none_left, zeros, List.replicate_zero, List.append_nil,
            List.take_append_drop, read]
        · have empty : ds.drop d.point.toNat = [] := List.drop_eq_nil_iff.mpr outside
          have whole : ds.take d.point.toNat = ds := List.take_of_length_le outside
          have joined : zeros (d.point.toNat - ds.length) ++ ['0'] =
              zeros (d.point.toNat - ds.length + 1) := List.replicate_succ'.symm
          have power : (d.point - ds.length : Int) =
              ((d.point.toNat - ds.length + 1 : Nat) : Int) + (-1) := by omega
          simp only [empty, whole, filled, List.isEmpty_nil, ↓reduceIte]
          rw [List.append_assoc, joined, digitsValue_append_zeros, read, power,
            zpow_add₀ (by norm_num), zpow_natCast]
          push_cast
          simp
          ring
  · have power : (some (d.point - 1)).getD 0 - ((ds.drop 1).length : Int) =
        d.point - ds.length := by
      rw [List.length_drop, Option.getD_some]
      omega
    simp only [power, List.take_append_drop, read]

end Decimal

end DocSpace.Number

namespace DocSpace.Json

open Number Double

/-- A number as it is made: a finite one in its one form, or one that is not finite. -/
def IsMade : Double → Prop
  | .finite _ m e => IsProper m e
  | .infinite _ | .notANumber => True

def finiteNumeral (negative : Bool) (m : Nat) (e : Int) : Numeral :=
  if m = 0 then ⟨negative, ['0'], ['0'], none⟩ else (shortest m e).numeral negative

theorem toList_doubleText (negative : Bool) (m : Nat) (e : Int) :
    (doubleText .document (.finite negative m e)).toList = (finiteNumeral negative m e).chars := by
  rw [doubleText, String.toList_ofList, finiteNumeral]
  by_cases zero : m = 0
  · rw [if_pos zero, if_pos zero]
    cases negative <;> rfl
  · rw [if_neg zero, if_neg zero, Decimal.chars_numeral]

/-- The fewest digits of a number are read as the number. -/
theorem value_finiteNumeral {m : Nat} {e : Int} (proper : IsProper m e) (negative : Bool) :
    (finiteNumeral negative m e).IsWritten ∧ (finiteNumeral negative m e).isWhole = false ∧
      (finiteNumeral negative m e).value = .double (.finite negative m e) := by
  unfold finiteNumeral
  split
  · next zero =>
      subst zero
      have least : e = -1074 := proper.tight.resolve_right (by norm_num)
      refine ⟨⟨Or.inl rfl, areDigits_zeros 1⟩, rfl, ?_⟩
      rw [least]
      rfl
  · next nonzero =>
      have positive : 0 < m := Nat.pos_of_ne_zero nonzero
      obtain ⟨digits, contains⟩ := shortest_contains proper positive
      have broken := Decimal.isWhole_numeral negative (shortest m e)
      refine ⟨Decimal.isWritten_numeral negative digits, broken, ?_⟩
      rw [← Decimal.value_numeral negative] at contains
      have same := ofDecimal_eq proper positive contains negative
      rw [Numeral.value, if_neg (by rw [broken]; decide), Decimal.negative_numeral, same]

/-- A floating point number is read back. -/
theorem readAtom_doubleText {d : Double} (made : IsMade d) {rest : List Char}
    (delimited : IsDelimited rest) :
    readAtom ((doubleText .document d).toList ++ rest) = .ok (.double d, rest) := by
  cases d with
  | finite negative m e =>
      obtain ⟨written, broken, value⟩ := value_finiteNumeral made negative
      rw [toList_doubleText, Numeral.readAtom_chars written delimited (by simp [broken]), value]
  | infinite negative => cases negative <;> rfl
  | notANumber => rfl

end DocSpace.Json
