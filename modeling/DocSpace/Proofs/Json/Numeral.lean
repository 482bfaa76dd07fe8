import DocSpace.Json.Decode
import DocSpace.Proofs.Number.Shortest

set_option autoImplicit false

namespace DocSpace.Json

open Number

/-- What a value may stand before: the end, or a mark of the list or the record around it. -/
def IsDelimited (rest : List Char) : Prop :=
  ∀ c ∈ rest.head?, c = ',' ∨ c = ']' ∨ c = '\x7d'

def AreDigits (ds : List Char) : Prop := ∀ c ∈ ds, c.isDigit = true

def EndsDigits (rest : List Char) : Prop := ∀ c ∈ rest.head?, c.isDigit = false

/-- Digits before a point: a zero alone, or others that do not start with one. -/
def IsWhole (ds : List Char) : Prop := ds = ['0'] ∨ ∃ d ds', ds = d :: ds' ∧ d ≠ '0' ∧ AreDigits ds

theorem IsDelimited.endsDigits {rest : List Char} (delimited : IsDelimited rest) :
    EndsDigits rest := by
  intro c first
  rcases delimited c first with rfl | rfl | rfl <;> decide

theorem areDigits_append {ds es : List Char} (first : AreDigits ds) (second : AreDigits es) :
    AreDigits (ds ++ es) := by
  intro c member
  exact (List.mem_append.mp member).elim (first c) (second c)

theorem areDigits_zeros (n : Nat) : AreDigits (zeros n) := by
  intro c member
  rw [List.eq_of_mem_replicate member]
  decide

theorem areDigits_natDigits (n : Nat) : AreDigits (natDigits n) :=
  fun _ member => isDigit_of_mem_natDigits member

theorem spanDigits_append {ds rest : List Char} (digits : AreDigits ds) (ends : EndsDigits rest) :
    spanDigits (ds ++ rest) = (ds, rest) := by
  have stops : rest.takeWhile Char.isDigit = [] ∧ rest.dropWhile Char.isDigit = rest := by
    cases rest with
    | nil => exact ⟨rfl, rfl⟩
    | cons c cs =>
        have other : c.isDigit = false := ends c rfl
        simp [other]
  rw [spanDigits, List.takeWhile_append_of_pos digits, List.dropWhile_append_of_pos digits, stops.1,
    stops.2, List.append_nil]

section Parts

variable {rest : List Char}

theorem readWhole?_append {ds : List Char} (whole : IsWhole ds) (ends : EndsDigits rest) :
    readWhole? (ds ++ rest) = some (ds, rest) := by
  rcases whole with rfl | ⟨d, ds', rfl, nonzero, digits⟩
  · rfl
  · have span := spanDigits_append digits ends
    unfold readWhole?
    split
    · next same => exact absurd (List.cons.inj same).1 nonzero
    · rw [span]

theorem readFraction_none (other : ∀ c ∈ rest.head?, c ≠ '.') : readFraction rest = ([], rest) := by
  unfold readFraction
  split
  · exact absurd rfl (other '.' rfl)
  · rfl

theorem readFraction_append {ds : List Char} (filled : ds ≠ []) (digits : AreDigits ds)
    (ends : EndsDigits rest) : readFraction ('.' :: ds ++ rest) = (ds, rest) := by
  have span := spanDigits_append digits ends
  obtain ⟨d, ds', rfl⟩ := List.exists_cons_of_ne_nil filled
  rw [List.cons_append, readFraction, span]

theorem readPower_none (other : ∀ c ∈ rest.head?, c ≠ 'e' ∧ c ≠ 'E') :
    readPower rest = (none, rest) := by
  unfold readPower
  split
  · next c cs =>
      obtain ⟨lower, upper⟩ := other c rfl
      rw [if_neg (by simp [lower, upper])]
  · rfl

theorem readPower_exponentText (e : Int) (ends : EndsDigits rest) :
    readPower ('e' :: exponentText e ++ rest) = (some e, rest) := by
  obtain ⟨ds, shown⟩ : ∃ ds, zeros (2 - (natDigits e.natAbs).length) ++ natDigits e.natAbs = ds :=
    ⟨_, rfl⟩
  have digits : AreDigits ds :=
    shown ▸ areDigits_append (areDigits_zeros _) (areDigits_natDigits _)
  have value : digitsValue ds = e.natAbs := by
    rw [← shown, digitsValue_zeros_append, digitsValue_natDigits]
  have filled : ds ≠ [] := by
    rw [← shown]
    exact List.append_ne_nil_of_right_ne_nil _ Nat.toDigits_ne_nil
  have span := spanDigits_append digits ends
  have text : exponentText e = (if e < 0 then '-' else '+') :: ds := by
    rw [exponentText, ← shown]
    rfl
  obtain ⟨d, ds', rfl⟩ := List.exists_cons_of_ne_nil filled
  have sign : takeSign ((if e < 0 then '-' else '+') :: (d :: (ds' ++ rest))) =
      (decide (e < 0), d :: (ds' ++ rest)) := by
    by_cases negative : e < 0 <;> simp [takeSign, negative]
  have same : signed (decide (e < 0)) (digitsValue (d :: ds')) = e := by
    rw [value, signed_natAbs]
  rw [List.cons_append] at span
  rw [text]
  simp only [List.cons_append, readPower, true_or, ↓reduceIte, sign, span, same]

end Parts

namespace Numeral

def fractionChars (ds : List Char) : List Char := if ds = [] then [] else '.' :: ds

def powerChars : Option Int → List Char
  | none => []
  | some e => 'e' :: exponentText e

def chars (n : Numeral) : List Char :=
  (if n.negative then ['-'] else []) ++
    (n.whole ++ (fractionChars n.fraction ++ powerChars n.exponent))

structure IsWritten (n : Numeral) : Prop where
  whole : IsWhole n.whole
  fraction : AreDigits n.fraction

variable {n : Numeral} {rest : List Char}

theorem readPower_powerChars (delimited : IsDelimited rest) (e : Option Int) :
    readPower (powerChars e ++ rest) = (e, rest) := by
  cases e with
  | none =>
      refine readPower_none fun c first => ?_
      rcases delimited c first with rfl | rfl | rfl <;> decide
  | some e => exact readPower_exponentText e delimited.endsDigits

/-- Neither digits nor a point follow. -/
theorem head_powerChars (delimited : IsDelimited rest) (e : Option Int) :
    ∀ c ∈ (powerChars e ++ rest).head?, c.isDigit = false ∧ c ≠ '.' := by
  intro c first
  cases e with
  | none => rcases delimited c first with rfl | rfl | rfl <;> decide
  | some e =>
      obtain rfl : 'e' = c := Option.some.inj first
      decide

theorem readFraction_fractionChars {ds : List Char} (digits : AreDigits ds)
    (other : ∀ c ∈ rest.head?, c.isDigit = false ∧ c ≠ '.') :
    readFraction (fractionChars ds ++ rest) = (ds, rest) := by
  unfold fractionChars
  split
  · next empty =>
      rw [empty]
      exact readFraction_none fun c first => (other c first).2
  · next filled => exact readFraction_append filled digits fun c first => (other c first).1

theorem endsDigits_fractionChars (ds : List Char) (ends : EndsDigits rest) :
    EndsDigits (fractionChars ds ++ rest) := by
  unfold fractionChars
  split
  · exact ends
  · intro c first
    obtain rfl : '.' = c := Option.some.inj first
    decide

theorem takeMinus_append (negative : Bool) {cs : List Char} (other : ∀ c ∈ cs.head?, c ≠ '-') :
    takeMinus ((if negative then ['-'] else []) ++ cs) = (negative, cs) := by
  cases negative with
  | true => rfl
  | false =>
      show takeMinus cs = _
      unfold takeMinus
      split
      · exact absurd rfl (other '-' rfl)
      · rfl

theorem exists_digit_of_isWhole {ds : List Char} (whole : IsWhole ds) :
    ∃ d ds', ds = d :: ds' ∧ d.isDigit = true := by
  rcases whole with rfl | ⟨d, ds', rfl, _, digits⟩
  · exact ⟨'0', [], rfl, by decide⟩
  · exact ⟨d, ds', rfl, digits d List.mem_cons_self⟩

/-- A numeral that is written is read back. -/
theorem readNumeral?_chars (written : n.IsWritten) (delimited : IsDelimited rest) :
    readNumeral? (n.chars ++ rest) = some (n, rest) := by
  obtain ⟨negative, whole, fraction, exponent⟩ := n
  obtain ⟨wholes, digits⟩ := written
  have following := head_powerChars delimited exponent
  have powers := readPower_powerChars delimited exponent
  have fractions := readFraction_fractionChars digits following
  have ends := endsDigits_fractionChars fraction fun c first => (following c first).1
  have wholeRead := readWhole?_append wholes ends
  have front : ∀ c ∈ (whole ++ (fractionChars fraction ++ (powerChars exponent ++ rest))).head?,
      c ≠ '-' := by
    obtain ⟨d, ds, rfl, digit⟩ := exists_digit_of_isWhole wholes
    intro c first
    obtain rfl : d = c := Option.some.inj first
    rintro rfl
    exact absurd digit (by decide)
  have minus := takeMinus_append negative front
  simp only [chars, readNumeral?, List.append_assoc, minus, wholeRead, fractions, powers,
    Option.bind_eq_bind, Option.bind_some, Option.pure_def]

theorem readWord?_chars (written : n.IsWritten) : readWord? (n.chars ++ rest) = none := by
  obtain ⟨negative, whole, fraction, exponent⟩ := n
  obtain ⟨d, ds, split, digit⟩ := exists_digit_of_isWhole written.whole
  simp only at split
  have other (c : Char) (letter : c.isDigit = false) : (c == d) = false := by
    rw [beq_eq_false_iff_ne]
    rintro rfl
    rw [digit] at letter
    cases letter
  have unread : words.find? (fun w => w.1.toList.isPrefixOf
      (chars ⟨negative, whole, fraction, exponent⟩ ++ rest)) = none := by
    rw [List.find?_eq_none]
    intro w member
    simp only [words, List.mem_cons, List.not_mem_nil, or_false] at member
    cases negative <;> rcases member with rfl | rfl | rfl | rfl | rfl | rfl <;>
      simp [chars, split, List.isPrefixOf, other]
  rw [readWord?, unread]
  rfl

/-- A numeral is read as its value, unless it has too many digits for a whole number. -/
theorem readAtom_chars (written : n.IsWritten) (delimited : IsDelimited rest)
    (few : n.isWhole = true → n.whole.length ≤ maxDigits) :
    readAtom (n.chars ++ rest) = .ok (n.value, rest) := by
  rw [readAtom, readWord?_chars written]
  simp only [readNumeral?_chars written delimited]
  rw [if_neg]
  intro many
  obtain ⟨whole, long⟩ := (Bool.and_eq_true _ _).mp many
  have short := few whole
  have longer := of_decide_eq_true long
  omega

end Numeral

theorem exists_digit_natDigits {n : Nat} (positive : 0 < n) :
    ∃ d ds, natDigits n = d :: ds ∧ d ≠ '0' := by
  induction n using Nat.strongRecOn with
  | ind n ih =>
      unfold natDigits at ih ⊢
      rw [Nat.toDigits_eq_if (by decide)]
      split
      · next single =>
          have each : ∀ n < 10, 0 < n → Nat.digitChar n ≠ '0' := by decide
          exact ⟨_, [], rfl, each n single positive⟩
      · next more =>
          obtain ⟨d, ds, front, nonzero⟩ := ih (n / 10) (by omega) (by omega)
          rw [front]
          exact ⟨d, _, rfl, nonzero⟩

theorem isWhole_natDigits (n : Nat) : IsWhole (natDigits n) := by
  rcases Nat.eq_zero_or_pos n with rfl | positive
  · exact Or.inl rfl
  · obtain ⟨d, ds, split, nonzero⟩ := exists_digit_natDigits positive
    exact Or.inr ⟨d, ds, split, nonzero, areDigits_natDigits n⟩

def intNumeral (i : Int) : Numeral := ⟨decide (i < 0), natDigits i.natAbs, [], none⟩

theorem toList_intText_eq_chars (i : Int) : (intText i).toList = (intNumeral i).chars := by
  rw [toList_intText]
  simp [intNumeral, Numeral.chars, Numeral.fractionChars, Numeral.powerChars]

theorem isWritten_intNumeral (i : Int) : (intNumeral i).IsWritten :=
  ⟨isWhole_natDigits _, fun _ member => absurd member List.not_mem_nil⟩

/-- A whole number of no more digits than are allowed is read back. -/
theorem readAtom_intText {i : Int} (few : (natDigits i.natAbs).length ≤ maxDigits)
    {rest : List Char} (delimited : IsDelimited rest) :
    readAtom ((intText i).toList ++ rest) = .ok (.int i, rest) := by
  have value : (intNumeral i).value = .int i := by
    show Value.int (signed (decide (i < 0)) (digitsValue (natDigits i.natAbs))) = _
    rw [digitsValue_natDigits, signed_natAbs]
  rw [toList_intText_eq_chars,
    Numeral.readAtom_chars (isWritten_intNumeral i) delimited fun _ => few, value]

end DocSpace.Json
