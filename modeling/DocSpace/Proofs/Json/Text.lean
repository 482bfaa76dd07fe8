import DocSpace.Json.Quoting
import DocSpace.Json.Text
import DocSpace.Proofs.Json.Encode
import DocSpace.Proofs.Text.Digit

set_option autoImplicit false

namespace DocSpace.Json

open Text

theorem readUnit_hexDigits {n : Nat} (fits : n < 0x10000) {rest : List Char} (more : rest ≠ []) :
    readUnit (hexDigits 4 n ++ rest) = .ok (n, rest) := by
  obtain ⟨c, cs, rfl⟩ := List.exists_cons_of_ne_nil more
  have front : (hexDigits 4 n ++ c :: cs).take 4 = hexDigits 4 n :=
    List.take_left' (length_hexDigits 4 n)
  have back : (hexDigits 4 n ++ c :: cs).drop 4 = c :: cs :=
    List.drop_left' (length_hexDigits 4 n)
  simp only [readUnit, front, back, numberIn?_hexDigits (show n < 16 ^ 4 from fits)]

/-- A character of the first plane is no half of a pair, so its one unit is all there is. -/
theorem readUnits_single {c : Char} (plane : c.toNat < 0x10000) {rest : List Char}
    (more : rest ≠ []) : readUnits (hexDigits 4 c.toNat ++ rest) = .ok (c, rest) := by
  have range := toNat_range c
  have notHigh : isHighSurrogate c.toNat = false := by
    simp only [isHighSurrogate, Bool.and_eq_false_iff, decide_eq_false_iff_not]
    omega
  have whole : isSurrogate c.toNat = false := by
    simp only [isSurrogate, Bool.and_eq_false_iff, decide_eq_false_iff_not]
    omega
  have same : charOfPoint c.toNat = c := by
    rw [charOfPoint, whole]
    exact Char.ofNat_toNat c
  simp only [readUnits, readUnit_hexDigits plane more, bind, Except.bind]
  split
  · rw [notHigh, same]
    rfl
  · rw [same]
    rfl

/-- Beyond the first plane the two units make the character again. -/
theorem readUnits_pair {c : Char} (beyond : 0x10000 ≤ c.toNat) {rest : List Char}
    (more : rest ≠ []) :
    readUnits (hexDigits 4 (0xd800 + (c.toNat - 0x10000) / 0x400) ++
      unitEscape (0xdc00 + (c.toNat - 0x10000) % 0x400) ++ rest) = .ok (c, rest) := by
  have range := toNat_range c
  obtain ⟨high, first⟩ : ∃ n, 0xd800 + (c.toNat - 0x10000) / 0x400 = n := ⟨_, rfl⟩
  obtain ⟨low, second⟩ : ∃ n, 0xdc00 + (c.toNat - 0x10000) % 0x400 = n := ⟨_, rfl⟩
  have isHigh : isHighSurrogate high = true := by
    simp only [isHighSurrogate, Bool.and_eq_true, decide_eq_true_eq]
    omega
  have isLow : isLowSurrogate low = true := by
    simp only [isLowSurrogate, Bool.and_eq_true, decide_eq_true_eq]
    omega
  have number : 0x10000 + (high - 0xd800) * 0x400 + (low - 0xdc00) = c.toNat := by omega
  have filled : 5 ≤ (hexDigits 4 low ++ rest).length := by
    have some := List.length_pos_iff.mpr more
    rw [List.length_append, length_hexDigits]
    omega
  have following : unitEscape low ++ rest ≠ [] := List.cons_ne_nil _ _
  rw [first, second, List.append_assoc, readUnits, readUnit_hexDigits (by omega) following]
  show (if isHighSurrogate high && 5 ≤ (hexDigits 4 low ++ rest).length then
    (readUnit (hexDigits 4 low ++ rest)).bind _ else _) = _
  rw [isHigh, decide_eq_true filled, if_pos (by rfl), readUnit_hexDigits (by omega) more]
  show (if isLowSurrogate low then Except.ok (Char.ofNat _, rest) else _) = _
  rw [isLow, if_pos rfl, number, Char.ofNat_toNat]

section Chars

variable {start fuel : Nat} {rest : List Char}

theorem readChars_backslash {cs : List Char} {c : Char}
    (run : readEscape start cs = .ok (c, rest)) :
    readChars start (fuel + 1) ('\\' :: cs) =
      (readChars start fuel rest).map fun taken => (c :: taken.1, taken.2) := by
  rw [readChars, if_neg (by decide), if_pos rfl, run]
  show (readChars start fuel rest >>= _) = _
  cases readChars start fuel rest <;> rfl

theorem readChars_plain {c : Char} (quote : c ≠ '"') (backslash : c ≠ '\\')
    (printable : 0x20 ≤ c.toNat) :
    readChars start (fuel + 1) (c :: rest) =
      (readChars start fuel rest).map fun taken => (c :: taken.1, taken.2) := by
  rw [readChars, if_neg quote, if_neg backslash, if_neg (Nat.not_lt.mpr printable)]
  cases readChars start fuel rest <;> rfl

/-- What stands for a character is read as the character, in one step. -/
theorem readChars_escapeChar (asciiOnly : Bool) (c : Char) (more : rest ≠ []) :
    readChars start (fuel + 1) (escapeChar asciiOnly c ++ rest) =
      (readChars start fuel rest).map fun taken => (c :: taken.1, taken.2) := by
  unfold escapeChar
  split
  · next special => exact readChars_backslash (by rcases special with rfl | rfl <;> rfl)
  · next ordinary =>
      split
      · next same => exact readChars_backslash (same ▸ rfl)
      · split
        · next same => exact readChars_backslash (same ▸ rfl)
        · split
          · next same => exact readChars_backslash (same ▸ rfl)
          · split
            · next same => exact readChars_backslash (same ▸ rfl)
            · split
              · next same => exact readChars_backslash (same ▸ rfl)
              · split
                · next escaped =>
                    unfold codeUnits
                    split
                    · next plane =>
                        rw [List.flatMap_singleton]
                        exact readChars_backslash (readUnits_single plane more)
                    · next beyond =>
                        have run := readUnits_pair (Nat.not_lt.mp beyond) more
                        rw [List.flatMap_cons, List.flatMap_singleton]
                        exact readChars_backslash run
                · next shown =>
                    obtain ⟨quote, backslash⟩ := not_or.mp ordinary
                    exact readChars_plain quote backslash (by omega)

theorem readChars_flatMap (asciiOnly : Bool) {cs : List Char} (enough : cs.length < fuel) :
    readChars start fuel (cs.flatMap (escapeChar asciiOnly) ++ '"' :: rest) = .ok (cs, rest) := by
  induction cs generalizing fuel with
  | nil =>
      cases fuel with
      | zero => omega
      | succ fuel => rfl
  | cons c cs ih =>
      rw [List.length_cons] at enough
      cases fuel with
      | zero => omega
      | succ fuel =>
          have filled : cs.flatMap (escapeChar asciiOnly) ++ '"' :: rest ≠ [] := by simp
          rw [List.flatMap_cons, List.append_assoc, readChars_escapeChar asciiOnly c filled,
            ih (by omega)]
          rfl

end Chars

/-- A text that is written is read back, whatever follows it. -/
theorem readText_encodeText (asciiOnly : Bool) (s : String) (rest : List Char) :
    readText (s.toList.flatMap (escapeChar asciiOnly) ++ '"' :: rest) = .ok (s, rest) := by
  have enough := length_le_flatMap (escapeChar_ne_nil asciiOnly) s.toList
  have length : s.toList.length <
      (s.toList.flatMap (escapeChar asciiOnly) ++ '"' :: rest).length := by
    rw [List.length_append, List.length_cons]
    omega
  rw [readText, readChars_flatMap asciiOnly length]
  show Except.ok (String.ofList s.toList, rest) = _
  rw [String.ofList_toList]

end DocSpace.Json
